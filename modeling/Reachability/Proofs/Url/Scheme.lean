import Reachability.Proofs.Except
import Reachability.Proofs.Url.Significant

/-!
# Schemes

A URL begins with a scheme, and that is read whatever follows its colon. Five schemes have a port
of their own.
-/
namespace Reachability

namespace Url

structure IsScheme (cs : List Char) : Prop where
  chars : ∀ c ∈ cs, isSchemeChar c = true
  head : cs.head?.any Text.isAsciiLetter = true

variable {cs scheme rest : List Char}

theorem takeWhile_isSchemeChar (h : IsScheme scheme) (rest : List Char) :
    (scheme ++ ':' :: rest).takeWhile isSchemeChar = scheme ∧
      (scheme ++ ':' :: rest).dropWhile isSchemeChar = ':' :: rest := by
  have hcolon : isSchemeChar ':' = false := by decide
  rw [List.takeWhile_append_of_pos h.chars, List.dropWhile_append_of_pos h.chars]
  simp [hcolon]

theorem splitScheme?_append (h : IsScheme scheme) (rest : List Char) :
    splitScheme? (scheme ++ ':' :: rest) = some (scheme.map Text.lowerAscii, rest) := by
  have hhead : (scheme ++ ':' :: rest).head?.any Text.isAsciiLetter = true := by
    have := h.head
    cases scheme with
    | nil => cases this
    | cons c scheme => exact this
  obtain ⟨htake, hdrop⟩ := takeWhile_isSchemeChar h rest
  simp only [splitScheme?, hdrop, hhead, if_true, htake]

theorem exists_of_splitScheme? (h : splitScheme? cs = some (scheme, rest)) :
    ∃ written, IsScheme written ∧ cs = written ++ ':' :: rest ∧
      scheme = written.map Text.lowerAscii := by
  unfold splitScheme? at h
  split at h
  · next tail hcolon =>
    split at h
    · next hletter =>
      obtain ⟨rfl, rfl⟩ := Prod.mk.inj (Option.some_inj.mp h)
      have hcs : cs = cs.takeWhile isSchemeChar ++ ':' :: tail := by
        rw [← hcolon, List.takeWhile_append_dropWhile]
      have hchars : ∀ c ∈ cs.takeWhile isSchemeChar, isSchemeChar c = true :=
        List.all_eq_true.mp List.all_takeWhile
      refine ⟨cs.takeWhile isSchemeChar, ⟨hchars, ?_⟩, hcs, rfl⟩
      cases hwritten : cs.takeWhile isSchemeChar with
      | nil =>
        -- Then the text begins with the colon, which is no letter.
        rw [hwritten, List.nil_append] at hcs
        rw [hcs] at hletter
        exact absurd hletter (by simp; decide)
      | cons c written =>
        rw [hwritten, List.cons_append] at hcs
        rw [hcs] at hletter
        exact hletter
    · cases h
  · cases h

theorem splitScheme?_append_of_eq_some (h : splitScheme? cs = some (scheme, rest))
    (more : List Char) : splitScheme? (cs ++ more) = some (scheme, rest ++ more) := by
  obtain ⟨written, hwritten, rfl, rfl⟩ := exists_of_splitScheme? h
  rw [List.append_assoc, List.cons_append]
  exact splitScheme?_append hwritten (rest ++ more)

theorem isSuffix_of_splitScheme? (h : splitScheme? cs = some (scheme, rest)) : rest <:+ cs := by
  obtain ⟨written, -, rfl, -⟩ := exists_of_splitScheme? h
  exact (List.suffix_cons ':' rest).trans (List.suffix_append written _)

/-- The schemes with a port of their own. -/
theorem schemeKind_eq_web {port : UInt16} (h : schemeKind scheme = .web port) :
    (String.ofList scheme, port) ∈
      [("http", 80), ("https", 443), ("ws", 80), ("wss", 443), ("ftp", (21 : UInt16))] := by
  unfold schemeKind at h
  split at h
  all_goals cases h
  all_goals simp [*]

theorem isSome_host_of_web {port : UInt16} (hkind : schemeKind scheme = .web port) {url : Url}
    (h : ofScheme scheme rest = .ok url) : url.host.isSome := by
  unfold ofScheme at h
  rw [hkind] at h
  obtain ⟨_, -, h⟩ := exists_of_bind_eq_ok h
  obtain rfl := Except.ok.inj h
  rfl

end Url

end Reachability
