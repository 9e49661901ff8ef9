import Reachability.Proofs.Service.Lines
import Reachability.Proofs.Text.Split

/-!
# Targets of requests

The first line of a request is read as the method and the target that it was written with, and a
target as the path that it asks for, whatever host stands before it and whatever query behind.
-/
namespace Reachability.Service

open Message

/-! ## The first line -/

theorem isVisible_of_isToken {cs : List Char} (h : isToken cs = true) : ∀ c ∈ cs, IsVisible c := by
  rw [isToken, Bool.and_eq_true, List.all_eq_true] at h
  exact fun c hc => (isVisible_of_isTokenChar (h.2 c hc)).1

theorem not_mem_of_isVisible {cs : List Char} (h : ∀ c ∈ cs, IsVisible c) : ' ' ∉ cs := by
  intro hmem
  have hblank := isBlank_eq_false (h _ hmem)
  revert hblank
  decide

theorem isInline_requestLine {method target : List Char} (hmethod : isToken method = true)
    (hvisible : ∀ c ∈ target, IsVisible c) :
    ∀ c ∈ method ++ ' ' :: (target ++ " HTTP/1.1".toList), IsInline c := by
  have hversion : ∀ c ∈ " HTTP/1.1".toList, IsInline c := forall_mem_of_all (by decide)
  simp only [List.forall_mem_append, List.forall_mem_cons]
  exact ⟨fun c hc => .inl (isVisible_of_isToken hmethod c hc), .inr rfl,
    fun c hc => .inl (hvisible c hc), hversion⟩

theorem requestLine?_written {method target : List Char} (hmethod : isToken method = true)
    (htarget : target ≠ []) (hvisible : ∀ c ∈ target, IsVisible c) :
    requestLine? (ascii (method ++ ' ' :: (target ++ " HTTP/1.1".toList))) =
      some (.ofList method, target, true) := by
  have hsplit : Text.splitAtEach ' ' (method ++ ' ' :: (target ++ " HTTP/1.1".toList)) =
      [method, target, "HTTP/1.1".toList] := by
    rw [Text.splitAtEach_append (not_mem_of_isVisible (isVisible_of_isToken hmethod)),
      show " HTTP/1.1".toList = ' ' :: "HTTP/1.1".toList from rfl,
      Text.splitAtEach_append (not_mem_of_isVisible hvisible)]
    rfl
  rw [requestLine?, chars_ascii (isInline_requestLine hmethod hvisible), hsplit]
  simp [hmethod, htarget]

/-! ## Targets -/

theorem isVisible_query {query : List Char} (h : IsQuery query) : ∀ c ∈ query, IsVisible c := by
  rcases h with rfl | ⟨query, rfl, h⟩
  · simp
  · rw [List.forall_mem_cons]
    refine ⟨by decide, fun c hc => ?_⟩
    rcases h c hc with h | rfl
    · exact (isVisible_of_isPathChar h).1
    · decide

theorem takeWhile_query {cs query : List Char} (h : ∀ c ∈ cs, c ≠ '?' ∧ c ≠ '#')
    (hquery : IsQuery query) :
    (cs ++ query).takeWhile (fun c => c != '?' && c != '#') = cs := by
  have hall : ∀ c ∈ cs, (c != '?' && c != '#') = true := by simpa using h
  rw [List.takeWhile_append_of_pos hall]
  rcases hquery with rfl | ⟨query, rfl, -⟩ <;> simp

theorem isPlain_of_isHostChar {c : Char} (h : IsHostChar c) :
    IsVisible c ∧ c ≠ '?' ∧ c ≠ '#' := by
  rcases h.2 with h | rfl | rfl
  · exact isVisible_of_isPathChar h
  · decide
  · decide

theorem isPlain_of_isSchemeChar {c : Char} (h : c.isAlphanum = true ∨ c ∈ "+-.".toList) :
    (IsVisible c ∧ c ≠ '?' ∧ c ≠ '#') ∧ c ≠ ':' ∧ c ≠ '/' ∧ c ≠ '*' := by
  rcases h with h | h
  · refine ⟨isVisible_of_isPathChar (.inl h), ?_, ?_, ?_⟩ <;> rintro rfl <;> revert h <;> decide
  · exact forall_mem_of_all
      (p := fun c => (IsVisible c ∧ c ≠ '?' ∧ c ≠ '#') ∧ c ≠ ':' ∧ c ≠ '/' ∧ c ≠ '*')
      (by decide) c h

theorem isPlain_of_isOrigin {origin : List Char} (h : IsOrigin origin) :
    ∀ c ∈ origin, IsVisible c ∧ c ≠ '?' ∧ c ≠ '#' := by
  obtain ⟨scheme, host, rfl, ⟨-, hscheme⟩, -, hhost⟩ := h
  simp only [List.forall_mem_append]
  exact ⟨⟨fun c hc => (isPlain_of_isSchemeChar (hscheme c hc)).1, forall_mem_of_all (by decide)⟩,
    fun c hc => isPlain_of_isHostChar (hhost c hc)⟩

theorem pathOf_origin {origin rest query : List Char} (horigin : IsOrigin origin)
    (hrest : ∀ c ∈ rest.head?, c = '/') (hplain : ∀ c ∈ rest, c ≠ '?' ∧ c ≠ '#')
    (hquery : IsQuery query) :
    pathOf (origin ++ rest ++ query) = if rest.isEmpty then ['/'] else rest := by
  have hall : ∀ c ∈ origin ++ rest, c ≠ '?' ∧ c ≠ '#' := by
    rw [List.forall_mem_append]
    exact ⟨fun c hc => (isPlain_of_isOrigin horigin c hc).2, hplain⟩
  obtain ⟨scheme, host, rfl, ⟨hne, hscheme⟩, -, hhost⟩ := horigin
  have hbehind : ((scheme ++ "://".toList ++ host ++ rest).dropWhile (· != ':')).drop 3 =
      host ++ rest := by
    have hdrop : ∀ c ∈ scheme, (c != ':') = true := by
      intro c hc
      simpa using (isPlain_of_isSchemeChar (hscheme c hc)).2.1
    rw [List.append_assoc, List.append_assoc, List.dropWhile_append_of_pos hdrop]
    rfl
  have hslash : (host ++ rest).dropWhile (· != '/') = rest := by
    have hdrop : ∀ c ∈ host, (c != '/') = true := by
      intro c hc
      simpa using (hhost c hc).1
    rw [List.dropWhile_append_of_pos hdrop]
    cases rest with
    | nil => rfl
    | cons c rest => simp [hrest c rfl]
  obtain ⟨c, scheme', rfl⟩ := List.exists_cons_of_ne_nil hne
  obtain ⟨-, -, hc, hc'⟩ := isPlain_of_isSchemeChar (hscheme c List.mem_cons_self)
  rw [pathOf, takeWhile_query hall hquery]
  dsimp only
  split
  · next heq => exact absurd (List.cons.inj heq).1 hc
  · next heq => exact absurd (List.cons.inj heq).1 hc'
  · rw [hbehind, hslash]

/-- A target is one word, and it is read as the path that it asks for. -/
theorem WrittenTarget.read {path target : List Char} (h : WrittenTarget path target) :
    target ≠ [] ∧ (∀ c ∈ target, IsVisible c) ∧ pathOf target = path := by
  have hpathVisible {path : List Char} (hpath : ∀ c ∈ path, IsPathChar c) :
      ∀ c ∈ '/' :: path, IsVisible c ∧ c ≠ '?' ∧ c ≠ '#' := by
    rw [List.forall_mem_cons]
    exact ⟨by decide, fun c hc => isVisible_of_isPathChar (hpath c hc)⟩
  cases h with
  | @relative path query hpath hquery =>
    refine ⟨by simp, ?_, ?_⟩
    · rw [List.forall_mem_append]
      exact ⟨fun c hc => (hpathVisible hpath c hc).1, isVisible_query hquery⟩
    · rw [pathOf, takeWhile_query (fun c hc => (hpathVisible hpath c hc).2) hquery]
      rfl
  | @absolute origin path query horigin hpath hquery =>
    refine ⟨by simp, ?_, ?_⟩
    · simp only [List.forall_mem_append]
      exact ⟨⟨fun c hc => (isPlain_of_isOrigin horigin c hc).1,
        fun c hc => (hpathVisible hpath c hc).1⟩, isVisible_query hquery⟩
    · rw [pathOf_origin horigin (by simp) (fun c hc => (hpathVisible hpath c hc).2) hquery]
      rfl
  | @root origin query horigin hquery =>
    refine ⟨?_, ?_, ?_⟩
    · obtain ⟨scheme, host, rfl, -, -, -⟩ := horigin
      simp
    · rw [List.forall_mem_append]
      exact ⟨fun c hc => (isPlain_of_isOrigin horigin c hc).1, isVisible_query hquery⟩
    · have hroot : pathOf (origin ++ [] ++ query) = ['/'] :=
        pathOf_origin horigin (by simp) (by simp) hquery
      rwa [List.append_nil] at hroot
  | asterisk => exact ⟨List.cons_ne_nil _ _, forall_mem_of_all (by decide), rfl⟩

end Reachability.Service
