import Reachability.Proofs.Url.Address
import Reachability.Proofs.Url.Scheme
import Reachability.Proofs.Url.Significant

/-!
# A path put behind a URL

What is put behind a URL is part of its path, of its query or of its fragment once the
authority has ended, be it in the URL itself or with the slash that is put behind it. Then
scheme, host and port stay as they are.
-/
namespace Reachability.Url

/-! ## Lists -/

/-- Where a list has an element that ends its first part, what comes behind the list does not
matter to that part. -/
theorem takeWhile_append_of_dropWhile {α : Type} {p : α → Bool} {cs : List α}
    (h : cs.dropWhile p ≠ []) (more : List α) :
    (cs ++ more).takeWhile p = cs.takeWhile p ∧
      (cs ++ more).dropWhile p = cs.dropWhile p ++ more := by
  induction cs with
  | nil => exact absurd rfl h
  | cons c cs ih =>
    by_cases hc : p c = true
    · rw [List.dropWhile_cons_of_pos hc] at h
      obtain ⟨htake, hdrop⟩ := ih h
      simp [hc, htake, hdrop]
    · simp [hc]

theorem getLast?_of_isSuffix {α : Type} {cs ds : List α} (h : cs <:+ ds) (hne : cs ≠ []) :
    cs.getLast? = ds.getLast? := by
  obtain ⟨front, rfl⟩ := h
  have hsome : cs.getLast?.isSome = true := by
    rw [Option.isSome_iff_ne_none, ne_eq, List.getLast?_eq_none_iff]
    exact hne
  rw [List.getLast?_append, Option.or_of_isSome hsome]

/-! ## The authority -/

def isSlash (c : Char) : Bool := c == '/' || c == '\\'

def hasBackslashes : SchemeKind → Bool
  | .web _ | .file => true
  | .opaqueHost => false

/-- What stands behind the slashes of a URL, of which the web counts as many as there are. -/
def behindSlashes (kind : SchemeKind) (rest : List Char) : List Char :=
  match kind with
  | .web _ => rest.dropWhile isSlash
  | .file | .opaqueHost => rest.drop 2

def afterAuthority (cs : List Char) : List Char :=
  match splitScheme? cs with
  | none => []
  | some (scheme, rest) =>
    (splitAuthority (hasBackslashes (schemeKind scheme)) (behindSlashes (schemeKind scheme) rest)).2

/-- Holds if the authority at the front of a text ends, at the latest with what is put behind
the text. -/
def Closes (isWeb : Bool) (cs more : List Char) : Prop :=
  more.head? = some '/' ∨ cs.getLast? = some '/' ∨ (splitAuthority isWeb cs).2 ≠ []

theorem splitAuthority_append {isWeb : Bool} {cs more : List Char} (h : Closes isWeb cs more) :
    splitAuthority isWeb (cs ++ more) =
      ((splitAuthority isWeb cs).1, (splitAuthority isWeb cs).2 ++ more) := by
  have hslash : endsAuthority isWeb '/' = true := by simp [endsAuthority]
  by_cases hafter : (splitAuthority isWeb cs).2 = []
  · have hself : (splitAuthority isWeb cs).1 = cs := by
      have hsplit : (splitAuthority isWeb cs).1 ++ (splitAuthority isWeb cs).2 = cs :=
        List.takeWhile_append_dropWhile
      rwa [hafter, List.append_nil] at hsplit
    have hinside : ∀ c ∈ cs, (!endsAuthority isWeb c) = true := by
      rw [← hself]
      exact List.all_eq_true.mp List.all_takeWhile
    have hmore : more.head? = some '/' := by
      rcases h with h | h | h
      · exact h
      · have hlast := hinside '/' (List.mem_of_getLast? h)
        rw [hslash] at hlast
        cases hlast
      · exact absurd hafter h
    obtain ⟨rest, rfl⟩ := List.head?_eq_some_iff.mp hmore
    rw [hafter, hself]
    simp only [splitAuthority, List.takeWhile_append_of_pos hinside,
      List.dropWhile_append_of_pos hinside, List.nil_append]
    simp [hslash]
  · obtain ⟨htake, hdrop⟩ := takeWhile_append_of_dropWhile hafter more
    exact Prod.ext htake hdrop

theorem webAuthority_append {cs more : List Char} (h : Closes true cs more) :
    webAuthority (cs ++ more) = webAuthority cs := by
  simp only [webAuthority, splitAuthority_append h]

theorem opaqueAuthority_append {cs more : List Char} (h : Closes false cs more) {host : Host}
    {port : Option UInt16} (hok : opaqueAuthority cs = .ok (some host, port)) :
    opaqueAuthority (cs ++ more) = .ok (some host, port) := by
  have hauthority := splitAuthority_append h
  simp only [opaqueAuthority] at hok ⊢
  rw [hauthority]
  generalize splitAuthority false cs = split at hok ⊢
  obtain ⟨authority, after⟩ := split
  dsimp only at hok ⊢
  generalize splitAtLast authority = parts at hok ⊢
  obtain ⟨user, rest⟩ := parts
  dsimp only at hok ⊢
  have hrest : rest ≠ [] := by
    rintro rfl
    simp only [splitHost, Host.ofOpaqueText, if_true, bind, Except.bind, List.any_nil,
      Bool.false_eq_true, if_false, ne_eq, not_true_eq_false, false_or] at hok
    split at hok
    · cases hok
    · split at hok <;> cases hok
  rw [if_neg (fun h => hrest h.2.1)] at hok ⊢
  exact hok

/-! ## Files -/

theorem startsWithDrive_append_of_not_isDrive {segments : List (List Char)}
    (h : ∀ s ∈ segments, isDrive s = false) (front : List (List Char)) (depth : Nat) :
    startsWithDrive depth (front ++ segments) = startsWithDrive depth front := by
  induction front generalizing depth with
  | nil =>
    rw [List.nil_append]
    induction segments generalizing depth with
    | nil => rfl
    | cons s segments ih =>
      have hs := h s List.mem_cons_self
      have hmore (depth : Nat) := ih (fun t ht => h t (List.mem_cons_of_mem _ ht)) depth
      simp only [startsWithDrive] at hmore
      simp [startsWithDrive, hs, hmore]
  | cons s front ih =>
    simp only [List.cons_append, startsWithDrive, ih]

theorem exists_splitAtEach_append (sep : Char) (cs more : List Char) :
    ∃ front last first rest, Text.splitAtEach sep cs = front ++ [last] ∧
      Text.splitAtEach sep more = first :: rest ∧
      Text.splitAtEach sep (cs ++ more) = front ++ (last ++ first) :: rest := by
  obtain ⟨first, rest, hmore⟩ : ∃ first rest, Text.splitAtEach sep more = first :: rest := by
    cases more with
    | nil => exact ⟨[], [], rfl⟩
    | cons c more =>
      simp only [Text.splitAtEach]
      split
      · exact ⟨_, _, rfl⟩
      · split <;> exact ⟨_, _, rfl⟩
  induction cs with
  | nil => exact ⟨[], [], first, rest, rfl, hmore, hmore⟩
  | cons c cs ih =>
    obtain ⟨front, last, first', rest', hcs, hmore', hall⟩ := ih
    by_cases hc : c = sep
    · refine ⟨[] :: front, last, first', rest', ?_, hmore', ?_⟩
      · simp [Text.splitAtEach, hc, hcs]
      · simp [Text.splitAtEach, hc, hall]
    · cases front with
      | nil =>
        refine ⟨[], c :: last, first', rest', ?_, hmore', ?_⟩
        · simp [Text.splitAtEach, hc, hcs]
        · simp [Text.splitAtEach, hc, hall]
      | cons piece front =>
        refine ⟨(c :: piece) :: front, last, first', rest', ?_, hmore', ?_⟩
        · simp [Text.splitAtEach, hc, hcs]
        · simp [Text.splitAtEach, hc, hall]

theorem not_isDrive_append (segment : List Char) {more : List Char} (hne : more ≠ [])
    (h : ∀ c ∈ more, c ≠ ':' ∧ c ≠ '|') : isDrive (segment ++ more) = false := by
  rcases List.eq_nil_or_concat more with rfl | ⟨front, c, rfl⟩
  · exact absurd rfl hne
  obtain ⟨hcolon, hbar⟩ := h c (by simp)
  unfold isDrive
  split
  · next letter sign heq =>
    have hlast : some c = some sign := by
      have := congrArg List.getLast? heq
      simpa using this
    obtain rfl := Option.some_inj.mp hlast
    simp [hcolon, hbar]
  · rfl

theorem startsWithDrive_of_append {front segments : List (List Char)} {depth : Nat}
    (h : startsWithDrive depth (front ++ segments) = false) :
    startsWithDrive depth front = false := by
  induction front generalizing depth with
  | nil => rfl
  | cons s front ih =>
    simp only [List.cons_append, startsWithDrive] at h ⊢
    split at h
    · next hup =>
      rw [if_pos hup]
      exact ih h
    · next hup =>
      rw [if_neg hup]
      split at h
      · next hhere =>
        rw [if_pos hhere]
        exact ih h
      · next hhere =>
        rw [if_neg hhere]
        rw [Bool.or_eq_false_iff] at h ⊢
        exact ⟨h.1, ih h.2⟩

theorem startsWithDrive_splitAtEach_append {path more : List Char}
    (hmore : ∀ c ∈ more, c ≠ ':' ∧ c ≠ '|')
    (h : startsWithDrive 0 (Text.splitAtEach '/' path) = false) :
    startsWithDrive 0 (Text.splitAtEach '/' (path ++ more)) = false := by
  obtain ⟨front, last, first, rest, hpath, hpieces, hall⟩ := exists_splitAtEach_append '/' path more
  have hpiece : ∀ piece ∈ first :: rest, ∀ c ∈ piece, c ≠ ':' ∧ c ≠ '|' := fun piece hp c hc =>
    hmore c (Text.mem_of_mem_splitAtEach (hpieces ▸ hp) hc).1
  have hdrive (prior : List Char) {piece : List Char} (hp : piece ∈ first :: rest)
      (hne : piece ≠ []) : isDrive (prior ++ piece) = false :=
    not_isDrive_append prior hne (hpiece piece hp)
  have hrest : ∀ piece ∈ rest, isDrive piece = false := by
    intro piece hp
    by_cases hne : piece = []
    · rw [hne]
      rfl
    · exact hdrive [] (List.mem_cons_of_mem _ hp) hne
  rw [hpath] at h
  rw [hall]
  by_cases hfirst : first = []
  · rw [hfirst, List.append_nil, List.append_cons, startsWithDrive_append_of_not_isDrive hrest]
    exact h
  · rw [startsWithDrive_append_of_not_isDrive]
    · exact startsWithDrive_of_append h
    · rintro piece (_ | ⟨_, hp⟩)
      · exact hdrive last List.mem_cons_self hfirst
      · exact hrest piece hp

theorem startsWithDrive_pathSegments_append {path more : List Char}
    (hmore : ∀ c ∈ more, c ≠ ':' ∧ c ≠ '|') (h : startsWithDrive 0 (pathSegments path) = false) :
    startsWithDrive 0 (pathSegments (path ++ more)) = false := by
  -- Of what is put behind, the part up to a query or a fragment goes on with the path.
  have hpart : ∃ part, ((path ++ more).takeWhile fun c => !(c == '?' || c == '#')) =
      (path.takeWhile fun c => !(c == '?' || c == '#')) ++ part ∧ ∀ c ∈ part, c ∈ more := by
    rw [List.takeWhile_append]
    split
    · next hall =>
      rw [(List.takeWhile_prefix _).eq_of_length hall]
      exact ⟨_, rfl, fun c hc => (List.takeWhile_prefix _).mem hc⟩
    · exact ⟨[], (List.append_nil _).symm, by simp⟩
  obtain ⟨part, heq, hpart⟩ := hpart
  simp only [pathSegments] at h ⊢
  rw [heq, List.map_append]
  generalize (path.takeWhile fun c => !(c == '?' || c == '#')).map
    (fun c => if c = '\\' then '/' else c) = front at h ⊢
  have hmapped : ∀ c ∈ part.map (fun c => if c = '\\' then '/' else c), c ≠ ':' ∧ c ≠ '|' := by
    intro c hc
    obtain ⟨d, hd, rfl⟩ := List.mem_map.mp hc
    split
    · decide
    · exact hmore d (hpart d hd)
  cases front with
  | nil =>
    rw [List.nil_append]
    exact @startsWithDrive_splitAtEach_append [] _
      (fun c hc => hmapped c (List.mem_of_mem_drop hc)) rfl
  | cons c front => exact startsWithDrive_splitAtEach_append hmapped h

theorem fileHost_append {rest more : List Char} (h : Closes true (rest.drop 2) more)
    (hmore : ∀ c ∈ more, c ≠ ':' ∧ c ≠ '|') {host : Host} (hok : fileHost rest = .ok (some host)) :
    fileHost (rest ++ more) = .ok (some host) := by
  rcases rest with _ | ⟨a, _ | ⟨b, rest⟩⟩
  · cases hok
  · cases hok
  have hauthority := splitAuthority_append h
  simp only [List.drop_succ_cons, List.drop_zero] at hauthority
  simp only [fileHost, List.cons_append, hauthority] at hok ⊢
  generalize splitAuthority true rest = split at hok ⊢
  obtain ⟨hostText, path⟩ := split
  split at hok
  · next hslashes =>
    rw [if_pos hslashes]
    dsimp only at hok ⊢
    split at hok
    · cases hok
    · next hhost =>
      rw [if_neg hhost]
      obtain ⟨found, hread, hok⟩ := exists_of_bind_eq_ok hok
      rw [hread]
      simp only [bind, Except.bind]
      split at hok
      · cases hok
      · next hdrive =>
        obtain ⟨hlocal, hdrive⟩ := not_or.mp hdrive
        have hmoreDrive :=
          startsWithDrive_pathSegments_append hmore (Bool.eq_false_iff.mpr hdrive)
        rw [if_neg (by simp [hlocal, hmoreDrive])]
        exact hok
  · cases hok

/-! ## Schemes -/

theorem behindSlashes_isSuffix (kind : SchemeKind) (rest : List Char) :
    behindSlashes kind rest <:+ rest := by
  cases kind with
  | web _ => exact List.dropWhile_suffix _
  | file => exact List.drop_suffix _ _
  | opaqueHost => exact List.drop_suffix _ _

theorem behindSlashes_ne_nil {scheme rest : List Char} {url : Url} {host : Host}
    (hok : ofScheme scheme rest = .ok url) (hhost : url.host = some host) :
    behindSlashes (schemeKind scheme) rest ≠ [] := by
  intro hnil
  unfold ofScheme at hok
  cases hkind : schemeKind scheme with
  | web usual =>
    rw [hkind] at hnil hok
    have hslashes : rest.dropWhile (fun c => c == '/' || c == '\\') = [] := hnil
    simp only [hslashes] at hok
    cases hok
  | file =>
    rw [hkind] at hnil hok
    have hnone : fileHost rest = .ok none := by
      rcases rest with _ | ⟨a, _ | ⟨b, _ | ⟨c, rest⟩⟩⟩
      · rfl
      · rfl
      · simp [fileHost, splitAuthority]
      · cases hnil
    simp only [hnone] at hok
    obtain rfl := Except.ok.inj hok
    cases hhost
  | opaqueHost =>
    rw [hkind] at hnil hok
    dsimp only at hok
    split at hok
    · next tail =>
      obtain rfl : tail = [] := hnil
      obtain rfl := Except.ok.inj hok
      cases hhost
    · obtain rfl := Except.ok.inj hok
      cases hhost

/-- Behind a URL that has a host, whatever follows its authority may be longer. -/
theorem ofScheme_append {scheme rest more : List Char} {url : Url} {host : Host}
    (h : Closes (hasBackslashes (schemeKind scheme)) (behindSlashes (schemeKind scheme) rest) more)
    (hmore : ∀ c ∈ more, c ≠ ':' ∧ c ≠ '|') (hok : ofScheme scheme rest = .ok url)
    (hhost : url.host = some host) : ofScheme scheme (rest ++ more) = .ok url := by
  have hbehind := behindSlashes_ne_nil hok hhost
  unfold ofScheme at hok ⊢
  cases hkind : schemeKind scheme with
  | web usual =>
    rw [hkind] at h hok
    simp only [bind, Except.bind] at hok ⊢
    have hne : rest.dropWhile isSlash ≠ [] := by
      rw [hkind] at hbehind
      exact hbehind
    have hdrop : (rest ++ more).dropWhile (fun c => c == '/' || c == '\\') =
        rest.dropWhile isSlash ++ more := (takeWhile_append_of_dropWhile hne more).2
    have hauthority : webAuthority (rest.dropWhile isSlash ++ more) =
        webAuthority (rest.dropWhile isSlash) := webAuthority_append h
    rw [hdrop, hauthority]
    exact hok
  | file =>
    rw [hkind] at h hok
    obtain ⟨found, hfile, hok⟩ := exists_of_bind_eq_ok hok
    obtain rfl := Except.ok.inj hok
    obtain rfl : found = some host := hhost
    dsimp only
    rw [fileHost_append h hmore hfile]
    rfl
  | opaqueHost =>
    rw [hkind] at h hok
    dsimp only at hok ⊢
    split at hok
    · next tail =>
      obtain ⟨⟨found, port⟩, hauthority, hok⟩ := exists_of_bind_eq_ok hok
      obtain rfl := Except.ok.inj hok
      obtain rfl : found = some host := hhost
      have hmoreAuthority : opaqueAuthority (tail ++ more) = .ok (some host, port) :=
        opaqueAuthority_append h hauthority
      simp only [List.cons_append, hmoreAuthority]
      rfl
    · obtain rfl := Except.ok.inj hok
      cases hhost

/-- A text that counts for the same as a URL, but for what follows the authority of that, is a URL
with the same scheme, host and port. -/
theorem parse_of_significant_append {text longer : String} {more : List Char} {url : Url}
    {host : Host} (hlonger : significant longer.toList = significant text.toList ++ more)
    (hcloses : more.head? = some '/' ∨ (significant text.toList).getLast? = some '/' ∨
      afterAuthority (significant text.toList) ≠ [])
    (hmore : ∀ c ∈ more, c ≠ ':' ∧ c ≠ '|') (hok : parse text = .ok url)
    (hhost : url.host = some host) : parse longer = .ok url := by
  unfold parse at hok
  split at hok
  · cases hok
  · next scheme rest hscheme =>
    have hsuffix := (behindSlashes_isSuffix (schemeKind scheme) rest).trans
      (isSuffix_of_splitScheme? hscheme)
    have hlast := getLast?_of_isSuffix hsuffix (behindSlashes_ne_nil hok hhost)
    have hafter : afterAuthority (significant text.toList) =
        (splitAuthority (hasBackslashes (schemeKind scheme))
          (behindSlashes (schemeKind scheme) rest)).2 := by
      simp only [afterAuthority, hscheme]
    have hclosesHere : Closes (hasBackslashes (schemeKind scheme))
        (behindSlashes (schemeKind scheme) rest) more := by
      rwa [Closes, hlast, ← hafter]
    rw [parse, hlonger, splitScheme?_append_of_eq_some hscheme]
    exact ofScheme_append hclosesHere hmore hok hhost

end Reachability.Url
