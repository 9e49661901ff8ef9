import Reachability.Proofs.Url.Authority
import Reachability.Proofs.Url.Extend

/-!
# URLs in their parts

What a URL spells out is a scheme, slashes, an authority and the rest. Every URL with a host can be
taken apart in this way, and in no other; and scheme and port of the URL are the ones written in
its parts.
-/
namespace Reachability.Url

/-- The slashes in front of an authority. In the schemes of the web there may be any number. -/
def AreSlashes : SchemeKind → List Char → Prop
  | .web _, cs => ∀ c ∈ cs, isSlash c = true
  | .file, cs => cs.length = 2 ∧ ∀ c ∈ cs, isSlash c = true
  | .opaqueHost, cs => cs = "//".toList

/-- The port of a URL that names one: the usual one of the scheme does not count. -/
def keptPort (kind : SchemeKind) (port : Option UInt16) : Option UInt16 :=
  match kind with
  | .web usual => if port = some usual then none else port
  | .file | .opaqueHost => port

theorem keptPort_eq (kind : SchemeKind) (port : UInt16) : keptPort kind (some port) = some port ∨
    kind = .web port ∧ keptPort kind (some port) = none := by
  unfold keptPort
  split
  · next usual =>
    split
    · next h =>
      obtain rfl := Option.some_inj.mp h
      exact .inr ⟨rfl, rfl⟩
    · exact .inl rfl
  · exact .inl rfl
  · exact .inl rfl

/-- The parts of a URL as it spells them. -/
structure Parts where
  scheme : List Char
  /-- What stands between the colon of the scheme and the authority. -/
  slashes : List Char
  authority : Authority
  /-- Path, query and fragment. -/
  tail : List Char

namespace Parts

variable {p : Parts}

def chars (p : Parts) : List Char :=
  p.scheme ++ ':' :: (p.slashes ++ (p.authority.chars ++ p.tail))

def lowerScheme (p : Parts) : List Char := p.scheme.map Text.lowerAscii

def schemeName (p : Parts) : String := .ofList p.lowerScheme

def kind (p : Parts) : SchemeKind := schemeKind p.lowerScheme

/-- Holds if the parts are those of a text, blanks that do not count aside. -/
def Spells (p : Parts) (text : String) : Prop := significant text.toList = p.chars

/-- Holds if each part ends where the next one begins. -/
structure IsProper (p : Parts) : Prop where
  scheme : IsScheme p.scheme
  slashes : AreSlashes p.kind p.slashes
  authority : p.authority.IsProper
  nonempty : p.authority.chars ≠ []
  inside : ∀ c ∈ p.authority.chars, endsAuthority (hasBackslashes p.kind) c = false
  tail : ∀ c ∈ p.tail.head?, endsAuthority (hasBackslashes p.kind) c = true

end Parts

/-! ## Slashes -/

variable {scheme rest : List Char} {url : Url} {host : Host}

theorem exists_slashes (h : ofScheme scheme rest = .ok url) (hhost : url.host = some host) :
    ∃ slashes, rest = slashes ++ behindSlashes (schemeKind scheme) rest ∧
      AreSlashes (schemeKind scheme) slashes := by
  unfold ofScheme at h
  cases hkind : schemeKind scheme with
  | web usual =>
    exact ⟨rest.takeWhile isSlash, List.takeWhile_append_dropWhile.symm,
      List.all_eq_true.mp List.all_takeWhile⟩
  | file =>
    rw [hkind] at h
    obtain ⟨found, hfile, h⟩ := exists_of_bind_eq_ok h
    obtain rfl := Except.ok.inj h
    obtain rfl : found = some host := hhost
    refine ⟨rest.take 2, (List.take_append_drop 2 rest).symm, ?_⟩
    rcases rest with _ | ⟨a, _ | ⟨b, rest⟩⟩
    · cases hfile
    · cases hfile
    · simp only [fileHost] at hfile
      split at hfile
      · next hslashes =>
        rw [Bool.and_eq_true] at hslashes
        simpa [AreSlashes, isSlash] using hslashes
      · cases hfile
  | opaqueHost =>
    rw [hkind] at h
    dsimp only at h
    split at h
    · next tail => exact ⟨"//".toList, rfl, rfl⟩
    · obtain rfl := Except.ok.inj h
      cases hhost

theorem behindSlashes_append {kind : SchemeKind} {slashes authority tail : List Char}
    (hslashes : AreSlashes kind slashes) (hne : authority ≠ [])
    (hinside : ∀ c ∈ authority, endsAuthority (hasBackslashes kind) c = false) :
    behindSlashes kind (slashes ++ (authority ++ tail)) = authority ++ tail := by
  cases kind with
  | web usual =>
    obtain ⟨c, rest, rfl⟩ := List.exists_cons_of_ne_nil hne
    have hc : ¬ isSlash c = true := by
      have := hinside c List.mem_cons_self
      simp only [endsAuthority, hasBackslashes, Bool.true_and, Bool.or_eq_false_iff] at this
      simp [isSlash, this]
    rw [behindSlashes, List.dropWhile_append_of_pos hslashes, List.cons_append,
      List.dropWhile_cons_of_neg hc]
  | file => exact List.drop_left' hslashes.1
  | opaqueHost =>
    obtain rfl : slashes = "//".toList := hslashes
    rfl

/-! ## What is read -/

theorem of_ofScheme {a : Authority} {after : List Char} (ha : a.Splits)
    (hcs : splitAuthority (hasBackslashes (schemeKind scheme))
      (behindSlashes (schemeKind scheme) rest) = (a.chars, after))
    (h : ofScheme scheme rest = .ok url) (hhost : url.host = some host) :
    a.host ≠ [] ∧ Host.IsText a.host ∧ url.scheme = .ofList scheme ∧
      ∃ port, portOf a.portChars = .ok port ∧ url.port = keptPort (schemeKind scheme) port := by
  unfold ofScheme at h
  cases hkind : schemeKind scheme with
  | web usual =>
    rw [hkind] at h hcs
    obtain ⟨⟨found, port⟩, hread, h⟩ := exists_of_bind_eq_ok h
    obtain ⟨hne, htext, hport⟩ := Authority.of_webAuthority ha hcs hread
    obtain rfl := Except.ok.inj h
    exact ⟨hne, htext, rfl, port, hport, rfl⟩
  | file =>
    rw [hkind] at h hcs
    obtain ⟨found, hfile, h⟩ := exists_of_bind_eq_ok h
    obtain rfl := Except.ok.inj h
    obtain rfl : found = some host := hhost
    -- The host of a file is the whole authority, so that no port is written.
    obtain ⟨hne, htext, hport⟩ := Authority.of_fileHost ha hcs hfile
    rw [hport]
    exact ⟨hne, htext, rfl, none, rfl, rfl⟩
  | opaqueHost =>
    rw [hkind] at h hcs
    dsimp only at h
    split at h
    · next tail =>
      obtain ⟨⟨found, port⟩, hread, h⟩ := exists_of_bind_eq_ok h
      obtain rfl := Except.ok.inj h
      obtain rfl : found = some host := hhost
      obtain ⟨hne, htext, hport⟩ := Authority.of_opaqueAuthority ha hcs hread
      exact ⟨hne, htext, rfl, port, hport, rfl⟩
    · obtain rfl := Except.ok.inj h
      cases hhost

/-- Every URL with a host has its parts. -/
theorem exists_parts {text : String} (h : parse text = .ok url) (hhost : url.host = some host) :
    ∃ p : Parts, p.IsProper ∧ p.Spells text := by
  unfold parse at h
  split at h
  · cases h
  · next scheme rest hscheme =>
    obtain ⟨written, hwritten, hcs, rfl⟩ := exists_of_splitScheme? hscheme
    obtain ⟨slashes, hrest, hslashes⟩ := exists_slashes h hhost
    obtain ⟨a, after, ha, hport, hbehind, hsplit, hinside, hafter⟩ :=
      Authority.exists_front (hasBackslashes (schemeKind (written.map Text.lowerAscii)))
        (behindSlashes (schemeKind (written.map Text.lowerAscii)) rest)
    obtain ⟨hne, htext, -⟩ := of_ofScheme ha hsplit h hhost
    have hnonempty : a.chars ≠ [] := by simp [Authority.chars, hne]
    refine ⟨⟨written, slashes, a, after⟩,
      ⟨hwritten, hslashes, ⟨htext, hport⟩, hnonempty, hinside, hafter⟩, ?_⟩
    rw [Parts.Spells, Parts.chars, hcs]
    dsimp only
    rw [← hbehind, ← hrest]

namespace Parts

variable {p : Parts} {text : String}

theorem IsProper.parse (hp : p.IsProper) (htext : p.Spells text) : Url.parse text =
    ofScheme p.lowerScheme (p.slashes ++ (p.authority.chars ++ p.tail)) := by
  have hscheme : splitScheme? (significant text.toList) =
      some (p.lowerScheme, p.slashes ++ (p.authority.chars ++ p.tail)) := by
    rw [htext, chars, splitScheme?_append hp.scheme]
    rfl
  rw [Url.parse, hscheme]

theorem IsProper.behindSlashes (hp : p.IsProper) :
    behindSlashes p.kind (p.slashes ++ (p.authority.chars ++ p.tail)) =
      p.authority.chars ++ p.tail :=
  behindSlashes_append hp.slashes hp.nonempty hp.inside

theorem IsProper.splitAuthority (hp : p.IsProper) :
    splitAuthority (hasBackslashes p.kind) (p.authority.chars ++ p.tail) =
      (p.authority.chars, p.tail) :=
  splitAuthority_append_tail hp.inside hp.tail

/-- A text is spelled out by one URL only. -/
theorem IsProper.eq {q : Parts} (hp : p.IsProper) (hq : q.IsProper) (h : p.chars = q.chars) :
    p = q := by
  have hscheme : p.scheme = q.scheme := by
    have := congrArg (List.takeWhile isSchemeChar) h
    rwa [chars, chars, (takeWhile_isSchemeChar hp.scheme _).1,
      (takeWhile_isSchemeChar hq.scheme _).1] at this
  have hkind : p.kind = q.kind := by rw [kind, kind, lowerScheme, lowerScheme, hscheme]
  have hrest : p.slashes ++ (p.authority.chars ++ p.tail) =
      q.slashes ++ (q.authority.chars ++ q.tail) := by
    rw [chars, chars, hscheme] at h
    exact (List.cons.inj (List.append_cancel_left h)).2
  have hbehind : p.authority.chars ++ p.tail = q.authority.chars ++ q.tail := by
    rw [← hp.behindSlashes, hrest, hkind, hq.behindSlashes]
  have hslashes : p.slashes = q.slashes := by
    rw [hbehind] at hrest
    exact List.append_cancel_right hrest
  have hsplit : (p.authority.chars, p.tail) = (q.authority.chars, q.tail) := by
    rw [← hp.splitAuthority, hbehind, hkind, hq.splitAuthority]
  obtain ⟨hchars, htail⟩ := Prod.mk.inj hsplit
  have hauthority := hp.authority.splits.eq hq.authority.splits hchars
  obtain ⟨scheme, slashes, authority, tail⟩ := p
  obtain rfl : scheme = q.scheme := hscheme
  obtain rfl : slashes = q.slashes := hslashes
  obtain rfl : authority = q.authority := hauthority
  obtain rfl : tail = q.tail := htail
  rfl

theorem IsProper.read (hp : p.IsProper) (htext : p.Spells text) (h : Url.parse text = .ok url)
    (hhost : url.host = some host) : url.scheme = p.schemeName ∧
      ∃ port, portOf p.authority.portChars = .ok port ∧ url.port = keptPort p.kind port := by
  rw [hp.parse htext] at h
  have hcs : Url.splitAuthority (hasBackslashes p.kind)
      (Url.behindSlashes p.kind (p.slashes ++ (p.authority.chars ++ p.tail))) =
      (p.authority.chars, p.tail) := by
    rw [hp.behindSlashes, hp.splitAuthority]
  exact (of_ofScheme hp.authority.splits hcs h hhost).2.2

end Parts

end Reachability.Url
