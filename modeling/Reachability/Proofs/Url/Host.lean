import Reachability.Proofs.Address.Reading
import Reachability.Proofs.Domain.Forbidden
import Reachability.Url.Host

/-!
# The texts of hosts

What is accepted as a host of a URL is either a text in brackets or a name, and none of the
characters that divide an authority stands in the one or the other. Percent encoding does not
hide one.
-/
namespace Reachability

namespace Url

open Text.Utf8 (encode encodeChar_of_lt mem_of_decode)

theorem mem_decodeBytes {b : UInt8} (hpercent : b ≠ 0x25)
    (hdigit : Hexadecimal.digit? (Char.ofNat b.toNat) = none) {bs : List UInt8} (h : b ∈ bs) :
    b ∈ decodeBytes bs := by
  induction bs using decodeBytes.induct with
  | case1 high low rest m n hhigh hlow ih =>
    have hne {d : UInt8} {k : Nat} (hd : Hexadecimal.digit? (Char.ofNat d.toNat) = some k) :
        b ≠ d := by
      rintro rfl
      rw [hdigit] at hd
      cases hd
    simp only [List.mem_cons, hpercent, hne hhigh, hne hlow, false_or] at h
    simp only [decodeBytes, hhigh, hlow, if_true]
    exact List.mem_cons_of_mem _ (ih h)
  | case2 a high low rest m n hhigh hlow ha ih =>
    simp only [decodeBytes, hhigh, hlow, ha, if_false]
    rw [List.mem_cons] at h ⊢
    exact h.imp_right ih
  | case3 a high low rest hnone ih =>
    rw [decodeBytes]
    split
    · next hhigh hlow => exact absurd hlow (hnone _ _ hhigh)
    · rw [List.mem_cons] at h ⊢
      exact h.imp_right ih
  | case4 bs hshort =>
    rw [decodeBytes]
    · exact h
    · exact hshort

theorem mem_percentDecoded? {c : Char} (hc : c ∈ dividers) {cs decoded : List Char}
    (hdecoded : percentDecoded? cs = some decoded) (h : c ∈ cs) : c ∈ decoded := by
  obtain ⟨hascii, hpercent, hdigit⟩ : c.toNat < 0x80 ∧ UInt8.ofNat c.toNat ≠ 0x25 ∧
      Hexadecimal.digit? (Char.ofNat (UInt8.ofNat c.toNat).toNat) = none := by
    simp only [dividers, List.mem_cons, List.not_mem_nil, or_false] at hc
    rcases hc with rfl | rfl | rfl | rfl <;> decide
  unfold percentDecoded? at hdecoded
  split at hdecoded
  · have hbyte : UInt8.ofNat c.toNat ∈ encode cs := by
      refine List.mem_flatMap.mpr ⟨c, h, ?_⟩
      rw [encodeChar_of_lt hascii]
      exact List.mem_singleton_self _
    cases hread : Text.Utf8.decode (decodeBytes (encode cs)) with
    | error n =>
      rw [Text.Utf8.decode?, hread] at hdecoded
      cases hdecoded
    | ok text =>
      rw [Text.Utf8.decode?, hread] at hdecoded
      obtain rfl := Option.some_inj.mp hdecoded
      exact mem_of_decode hread (mem_decodeBytes hpercent hdigit hbyte) hascii
  · rwa [← Option.some_inj.mp hdecoded]

end Url

namespace Host

/-- Holds of a text in brackets, and of a text that none of the characters divides which divide an
authority. -/
inductive IsText : List Char → Prop
  | bracketed {inner : List Char} (h : ∀ c ∈ inner, c ≠ '@' ∧ c ≠ '[' ∧ c ≠ ']') :
    IsText ('[' :: (inner ++ [']']))
  | name {cs : List Char} (h : ∀ c ∈ cs, c ∉ dividers) : IsText cs

theorem isText_of_ofBracketed {cs : List Char} {host : Host} (h : ofBracketed cs = .ok host) :
    IsText ('[' :: cs) := by
  unfold ofBracketed at h
  split at h
  · next hlast =>
    obtain ⟨inner, rfl⟩ := List.getLast?_eq_some_iff.mp hlast
    rw [List.dropLast_concat] at h
    split at h
    · next a hread =>
      refine .bracketed fun c hc => ?_
      have hne {d : Char} (hd : ¬ AddressText.IsAddressChar d) : c ≠ d := by
        rintro rfl
        exact hd (AddressText.isAddressChar_of_whole_ipv6 hread c hc)
      exact ⟨hne (by decide), hne (by decide), hne (by decide)⟩
    · cases h
  · cases h

/-- A host of the web has no divider outside of brackets, since its name is brought into ASCII. -/
theorem isText_of_ofWebText {cs : List Char} {host : Host} (h : ofWebText cs = .ok host) :
    IsText cs := by
  unfold ofWebText at h
  split at h
  · exact isText_of_ofBracketed h
  · refine .name fun c hc hdivider => ?_
    have hnone : (Url.percentDecoded? cs).bind Domain.toAscii? = none := by
      rw [Option.bind_eq_none_iff]
      intro decoded hdecoded
      exact Domain.toAscii?_eq_none hdivider (Url.mem_percentDecoded? hdivider hdecoded hc)
    rw [hnone] at h
    cases h

theorem isText_of_ofOpaqueText {cs : List Char} {host : Host} (h : ofOpaqueText cs = .ok host) :
    IsText cs := by
  unfold ofOpaqueText at h
  split at h
  · exact isText_of_ofBracketed h
  · refine .name fun c hc hdivider => ?_
    have hforbidden : isForbiddenInOpaque c = true := by
      simp only [dividers, List.mem_cons, List.not_mem_nil, or_false] at hdivider
      rcases hdivider with rfl | rfl | rfl | rfl <;> rfl
    rw [if_pos (List.any_eq_true.mpr ⟨c, hc, hforbidden⟩)] at h
    cases h

end Host

end Reachability
