import Reachability.Proofs.Url.Address
import Reachability.Proofs.Url.Host
import Reachability.Proofs.Url.Scheme

/-!
# Authorities

An authority is a user, a host and a port. The host that is read, and the port, are the ones that
are written, if the text of the host is one that can be accepted; and every authority is written
in this way.
-/
namespace Reachability

namespace Host.IsText

variable {cs : List Char}

theorem at_not_mem (h : IsText cs) : '@' ∉ cs := by
  cases h with
  | bracketed h =>
    intro hat
    simp only [List.mem_cons, List.mem_append, List.not_mem_nil, or_false] at hat
    rcases hat with hat | hat | hat
    · cases hat
    · exact (h '@' hat).1 rfl
    · cases hat
  | name h => exact fun hat => h '@' hat (by decide)

theorem splitHost_append (h : IsText cs) {rest : List Char} (hrest : AddressText.AtColon rest) :
    Url.splitHost false (cs ++ rest) = (cs, rest) := by
  cases h with
  | bracketed h => exact Url.splitHost_bracketed (fun c hc => (h c hc).2) hrest
  | name h =>
    refine Url.splitHost_append (fun c hc => ?_) hrest
    have hne {d : Char} (hd : d ∈ dividers) : c ≠ d := by
      rintro rfl
      exact h c hc hd
    exact ⟨hne (by decide), hne (by decide), hne (by decide)⟩

end Host.IsText

namespace Url

/-- The parts of an authority as it spells them. -/
structure Authority where
  /-- What stands before the last `@`, if there is one. -/
  user : Option (List Char)
  host : List Char
  /-- What stands behind the colon that ends the host, if there is one. -/
  port : Option (List Char)

namespace Authority

variable {a : Authority} {cs after : List Char}

def userChars (a : Authority) : List Char := a.user.elim [] (· ++ ['@'])

def portChars (a : Authority) : List Char := a.port.elim [] (':' :: ·)

def chars (a : Authority) : List Char := a.userChars ++ (a.host ++ a.portChars)

/-- Holds if the parts are the ones that are read. -/
structure Splits (a : Authority) : Prop where
  user : splitAtLast a.chars = (a.user, a.host ++ a.portChars)
  host : splitHost false (a.host ++ a.portChars) = (a.host, a.portChars)

/-- Holds if the parts show where they begin and end. -/
structure IsProper (a : Authority) : Prop where
  host : Host.IsText a.host
  port : ∀ text ∈ a.port, '@' ∉ text

/-! ## Users -/

theorem splitAtLast_append (user : Option (List Char)) {rest : List Char} (h : '@' ∉ rest) :
    splitAtLast (user.elim [] (· ++ ['@']) ++ rest) = (user, rest) := by
  cases user with
  | none => simp [splitAtLast, h]
  | some user =>
    have hinside : ∀ c ∈ rest.reverse, (c != '@') = true := by
      intro c hc
      rw [bne_iff_ne]
      rintro rfl
      exact h (List.mem_reverse.mp hc)
    have htake : ((user ++ ['@'] ++ rest).reverse.takeWhile (· != '@')).reverse = rest := by
      simp [List.takeWhile_append_of_pos hinside]
    have hfront : (user ++ ['@'] ++ rest).length - rest.length - 1 = user.length := by
      simp only [List.length_append, List.length_singleton]
      omega
    have hmem : (user ++ ['@'] ++ rest).contains '@' = true := by simp
    simp only [splitAtLast, Option.elim_some, hmem, if_true, htake, hfront]
    simp

theorem exists_user (cs : List Char) : ∃ (user : Option (List Char)) (rest : List Char),
    cs = user.elim [] (· ++ ['@']) ++ rest ∧ '@' ∉ rest := by
  by_cases h : '@' ∈ cs
  · obtain ⟨back, front, hcs, hback⟩ := List.eq_append_cons_of_mem (List.mem_reverse.mpr h)
    refine ⟨some front.reverse, back.reverse, ?_, by simpa using hback⟩
    rw [← List.reverse_reverse cs, hcs]
    simp
  · exact ⟨none, cs, rfl, h⟩

/-! ## Ports -/

theorem atColon_portChars (a : Authority) : AddressText.AtColon a.portChars := by
  unfold portChars
  cases a.port with
  | none => simp [AddressText.AtColon]
  | some text => exact AddressText.atColon_cons text

theorem exists_port (inBrackets : Bool) (cs : List Char) :
    ∃ (host : List Char) (port : Option (List Char)), cs = host ++ port.elim [] (':' :: ·) ∧
      splitHost inBrackets cs = (host, port.elim [] (':' :: ·)) := by
  induction cs generalizing inBrackets with
  | nil => exact ⟨[], none, rfl, rfl⟩
  | cons c cs ih =>
    by_cases hcolon : c = ':' ∧ !inBrackets
    · refine ⟨[], some cs, ?_, ?_⟩
      · rw [hcolon.1]
        rfl
      · rw [splitHost, if_pos hcolon, hcolon.1]
        rfl
    · obtain ⟨host, port, hcs, hsplit⟩ :=
        ih (if c = '[' then true else if c = ']' then false else inBrackets)
      refine ⟨c :: host, port, congrArg (c :: ·) hcs, ?_⟩
      rw [splitHost, if_neg hcolon]
      simp only [hsplit]

/-- What counts of a port: a backslash ends it in every scheme. -/
def portText (a : Authority) : List Char := (a.port.getD []).takeWhile (· != '\\')

theorem of_portNumber {digits : List Char} (hdigits : digits.all Decimal.isDigit = true)
    {port : Option UInt16} (h : portOf.number digits = .ok port) : digits = [] ∧ port = none ∨
      ∃ n, Decimal.numberUpTo? 65535 digits = some n ∧ port = some (.ofNat n) := by
  unfold portOf.number at h
  split at h
  · next hnil => exact .inl ⟨hnil, (Except.ok.inj h).symm⟩
  · next hne =>
    split at h
    · next hle =>
      refine .inr ⟨Decimal.value digits, ?_, (Except.ok.inj h).symm⟩
      simp [Decimal.numberUpTo?, Decimal.number?, hne, hdigits, hle]
    · cases h

theorem takeWhile_backslash (text : List Char) :
    text.takeWhile (· != '\\') = text.takeWhile Decimal.isDigit ++
      (text.dropWhile Decimal.isDigit).takeWhile (· != '\\') := by
  have hplain : ∀ c ∈ text.takeWhile Decimal.isDigit, (c != '\\') = true := by
    intro c hc
    have hdigit := List.all_eq_true.mp List.all_takeWhile c hc
    rw [bne_iff_ne]
    rintro rfl
    exact absurd hdigit (by decide)
  rw [← List.takeWhile_append_of_pos hplain, List.takeWhile_append_dropWhile]

/-- What is read as a port is a number, unless nothing is written. -/
theorem portText_of_portOf {port : Option UInt16} (h : portOf a.portChars = .ok port) :
    a.portText = [] ∧ port = none ∨
      ∃ n, Decimal.numberUpTo? 65535 a.portText = some n ∧ port = some (.ofNat n) := by
  unfold portChars at h
  unfold portText
  cases hport : a.port with
  | none =>
    rw [hport] at h
    exact .inl ⟨rfl, (Except.ok.inj h).symm⟩
  | some text =>
    have hdigits : (text.takeWhile Decimal.isDigit).all Decimal.isDigit = true :=
      List.all_takeWhile
    rw [hport, Option.elim_some, portOf] at h
    rw [Option.getD_some, takeWhile_backslash]
    -- Behind the digits there is nothing, or the backslash.
    split at h
    · next c rest hrest =>
      split at h
      · next hc =>
        rw [hrest, hc]
        simpa using of_portNumber hdigits h
      · cases h
    · next hrest =>
      rw [hrest]
      simpa using of_portNumber hdigits h

/-! ## Authorities -/

theorem exists_splits (cs : List Char) :
    ∃ a : Authority, a.chars = cs ∧ a.Splits ∧ ∀ text ∈ a.port, '@' ∉ text := by
  obtain ⟨user, rest, rfl, hrest⟩ := exists_user cs
  obtain ⟨host, port, rfl, hhost⟩ := exists_port false rest
  refine ⟨⟨user, host, port⟩, rfl, ⟨splitAtLast_append user hrest, hhost⟩, ?_⟩
  rintro text rfl hat
  exact hrest (List.mem_append_right _ (List.mem_cons_of_mem _ hat))

theorem exists_front (isWeb : Bool) (cs : List Char) : ∃ (a : Authority) (after : List Char),
    a.Splits ∧ (∀ text ∈ a.port, '@' ∉ text) ∧ cs = a.chars ++ after ∧
      splitAuthority isWeb cs = (a.chars, after) ∧
      (∀ c ∈ a.chars, endsAuthority isWeb c = false) ∧
      ∀ c ∈ after.head?, endsAuthority isWeb c = true := by
  obtain ⟨a, hchars, ha, hport⟩ := exists_splits (cs.takeWhile (!endsAuthority isWeb ·))
  refine ⟨a, cs.dropWhile (!endsAuthority isWeb ·), ha, hport, ?_, ?_, ?_, ?_⟩
  · rw [hchars, List.takeWhile_append_dropWhile]
  · rw [hchars, splitAuthority]
  · rw [hchars]
    intro c hc
    simpa using List.all_eq_true.mp List.all_takeWhile c hc
  · intro c hc
    have hfirst := List.head?_dropWhile_not (!endsAuthority isWeb ·) cs
    rw [Option.mem_def.mp hc] at hfirst
    simpa using hfirst

theorem portChars_inj {a b : Authority} (h : a.portChars = b.portChars) : a.port = b.port := by
  unfold portChars at h
  cases ha : a.port with
  | none =>
    cases hb : b.port with
    | none => rfl
    | some text => simp [ha, hb] at h
  | some text =>
    cases hb : b.port with
    | none => simp [ha, hb] at h
    | some other => simpa [ha, hb] using h

/-- A text is read in one way only. -/
theorem Splits.eq {a b : Authority} (ha : a.Splits) (hb : b.Splits) (h : a.chars = b.chars) :
    a = b := by
  obtain ⟨huser, hrest⟩ := Prod.mk.inj (ha.user.symm.trans (h ▸ hb.user))
  obtain ⟨hhost, hport⟩ := Prod.mk.inj (ha.host.symm.trans (hrest ▸ hb.host))
  obtain ⟨user, host, port⟩ := a
  obtain rfl : user = b.user := huser
  obtain rfl : host = b.host := hhost
  obtain rfl : port = b.port := portChars_inj hport
  rfl

theorem IsProper.splits (h : a.IsProper) : a.Splits := by
  have hport : '@' ∉ a.portChars := by
    unfold portChars
    cases hport : a.port with
    | none => simp
    | some text => simpa using h.port text hport
  constructor
  · refine splitAtLast_append a.user fun hat => ?_
    rcases List.mem_append.mp hat with hat | hat
    · exact h.host.at_not_mem hat
    · exact hport hat
  · exact h.host.splitHost_append a.atColon_portChars

/-! ## What is read -/

theorem of_webAuthority (ha : a.Splits) (hcs : splitAuthority true cs = (a.chars, after))
    {host : Host} {port : Option UInt16} (h : webAuthority cs = .ok (host, port)) :
    a.host ≠ [] ∧ Host.IsText a.host ∧ portOf a.portChars = .ok port := by
  simp only [webAuthority, hcs, ha.user, ha.host] at h
  split at h
  · cases h
  · next hne =>
    obtain ⟨found, hread, h⟩ := exists_of_bind_eq_ok h
    obtain ⟨number, hport, h⟩ := exists_of_bind_eq_ok h
    obtain ⟨-, rfl⟩ := Prod.mk.inj (Except.ok.inj h)
    exact ⟨hne, Host.isText_of_ofWebText hread, hport⟩

theorem of_opaqueAuthority (ha : a.Splits) (hcs : splitAuthority false cs = (a.chars, after))
    {host : Host} {port : Option UInt16} (h : opaqueAuthority cs = .ok (some host, port)) :
    a.host ≠ [] ∧ Host.IsText a.host ∧ portOf a.portChars = .ok port := by
  simp only [opaqueAuthority, hcs, ha.user, ha.host] at h
  split at h
  · cases h
  · obtain ⟨found, hread, h⟩ := exists_of_bind_eq_ok h
    split at h
    · split at h <;> cases h
    · next hne =>
      obtain ⟨number, hport, h⟩ := exists_of_bind_eq_ok h
      obtain ⟨-, rfl⟩ := Prod.mk.inj (Except.ok.inj h)
      exact ⟨hne, Host.isText_of_ofOpaqueText hread, hport⟩

theorem Splits.of_isText (ha : a.Splits) (h : Host.IsText a.chars) :
    a.host = a.chars ∧ a.portChars = [] := by
  have huser : splitAtLast a.chars = (none, a.chars) := by
    simp [splitAtLast, h.at_not_mem]
  have hhost : splitHost false a.chars = (a.chars, []) := by
    have hend : AddressText.AtColon [] := by simp [AddressText.AtColon]
    have hread := h.splitHost_append hend
    rwa [List.append_nil] at hread
  obtain ⟨-, hrest⟩ := Prod.mk.inj (huser.symm.trans ha.user)
  rw [hrest] at hhost
  obtain ⟨hfront, hback⟩ := Prod.mk.inj (hhost.symm.trans ha.host)
  exact ⟨hfront.symm.trans hrest.symm, hback.symm⟩

theorem of_fileHost (ha : a.Splits) (hcs : splitAuthority true (cs.drop 2) = (a.chars, after))
    {host : Host} (h : fileHost cs = .ok (some host)) :
    a.host ≠ [] ∧ Host.IsText a.host ∧ a.portChars = [] := by
  obtain ⟨x, y, rest, rfl⟩ : ∃ x y rest, cs = x :: y :: rest := by
    rcases cs with _ | ⟨x, _ | ⟨y, rest⟩⟩
    · cases h
    · cases h
    · exact ⟨x, y, rest, rfl⟩
  rw [List.drop_succ_cons, List.drop_succ_cons, List.drop_zero] at hcs
  simp only [fileHost, hcs] at h
  split at h
  · split at h
    · cases h
    · next hne =>
      obtain ⟨found, hread, -⟩ := exists_of_bind_eq_ok h
      have htext := Host.isText_of_ofWebText hread
      obtain ⟨hhost, hport⟩ := ha.of_isText htext
      rw [hhost]
      exact ⟨fun hnil => hne (.inl hnil), htext, hport⟩
  · cases h

end Authority

end Url

end Reachability
