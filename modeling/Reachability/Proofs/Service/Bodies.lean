import Reachability.Proofs.Service.Fields

/-!
# Bodies of requests

A body comes in as it was written, whether its length stands before all of it or before each of
its chunks, and the request is complete with its last byte.
-/
namespace Reachability.Service

open Message

/-! ## Sizes of chunks -/

theorem isVisible_of_isHexDigit {c : Char} (h : Hexadecimal.isDigit c = true) : IsVisible c := by
  obtain ⟨hlow, hhigh⟩ := Hexadecimal.toNat_bounds h
  exact ⟨Nat.le_trans (by decide) hlow, Nat.lt_of_le_of_lt hhigh (by decide)⟩

theorem isInline_size {size : List Char} {n : Nat} (h : IsChunkSize size n) :
    ∀ c ∈ size, IsInline c :=
  fun c hc => .inl (isVisible_of_isHexDigit (List.all_eq_true.mp h.2.1 c hc))

namespace IsExtension

variable {bs : List UInt8}

theorem nil : IsExtension [] :=
  ⟨[], [], rfl, .inl rfl, List.not_mem_nil, List.not_mem_nil, rfl⟩

theorem not_mem (h : IsExtension bs) : 0x0A ∉ bs ∧ 0x0D ∉ bs := by
  obtain ⟨blanks, text, hblanks, -, hreturn, hfeed, rfl⟩ := h
  obtain ⟨hnofeed, hnoreturn⟩ := not_mem_ascii (isInline_of_all hblanks)
  simp only [List.mem_append, not_or]
  exact ⟨⟨hnofeed, hfeed⟩, hnoreturn, hreturn⟩

theorem chars_eq (h : IsExtension bs) : ∃ blanks rest, chars bs = blanks ++ rest ∧
    blanks.all isBlank = true ∧ (rest = [] ∨ ∃ more, rest = ';' :: more) := by
  obtain ⟨blanks, text, hblanks, htext, -, -, rfl⟩ := h
  refine ⟨blanks, chars text, ?_, hblanks, ?_⟩
  · rw [chars_append, chars_ascii (isInline_of_all hblanks)]
  · rcases htext with rfl | hsemicolon
    · exact .inl rfl
    · obtain ⟨more, rfl⟩ := List.head?_eq_some_iff.mp hsemicolon
      exact .inr ⟨chars more, rfl⟩

end IsExtension

theorem isDigit_head? {blanks rest : List Char} (hblanks : ∀ c ∈ blanks, isBlank c = true)
    (hrest : rest = [] ∨ ∃ more, rest = ';' :: more) :
    ∀ c ∈ (blanks ++ rest).head?, Hexadecimal.isDigit c = false := by
  intro c hc
  cases blanks with
  | nil =>
    rcases hrest with rfl | ⟨more, rfl⟩
    · cases hc
    · cases hc
      decide
  | cons b blanks =>
    cases hc
    by_contra hdigit
    have hvisible := isVisible_of_isHexDigit (by simpa using hdigit)
    have hblank := hblanks c List.mem_cons_self
    rw [isBlank_eq_false hvisible] at hblank
    cases hblank

theorem not_mem_size {size : List Char} {n : Nat} {extension : List UInt8}
    (hsize : IsChunkSize size n) (hextension : IsExtension extension) :
    0x0A ∉ ascii size ++ extension ∧ 0x0D ∉ ascii size ++ extension := by
  obtain ⟨hfeed, hreturn⟩ := not_mem_ascii (isInline_size hsize)
  simp only [List.mem_append, not_or]
  exact ⟨⟨hfeed, hextension.not_mem.1⟩, hreturn, hextension.not_mem.2⟩

theorem chunkSize?_written {size : List Char} {n : Nat} {extension : List UInt8}
    (hsize : IsChunkSize size n) (hextension : IsExtension extension) :
    chunkSize? (ascii size ++ extension) = some n := by
  obtain ⟨blanks, rest, hchars, hblanks, hrest⟩ := hextension.chars_eq
  have hcs : chars (ascii size ++ extension) = size ++ (blanks ++ rest) := by
    rw [chars_append, chars_ascii (isInline_size hsize), hchars]
  obtain ⟨hne, hall, rfl, hlimit⟩ := hsize
  rw [List.all_eq_true] at hall hblanks
  have hnodigit := isDigit_head? hblanks hrest
  have htake : (size ++ (blanks ++ rest)).takeWhile Hexadecimal.isDigit = size := by
    rw [List.takeWhile_append_of_pos hall]
    cases hend : blanks ++ rest with
    | nil => simp
    | cons c cs => simp [hnodigit c (by rw [hend]; rfl)]
  have hdrop : (size ++ (blanks ++ rest)).dropWhile Hexadecimal.isDigit = blanks ++ rest := by
    rw [List.dropWhile_append_of_pos hall]
    cases hend : blanks ++ rest with
    | nil => rfl
    | cons c cs => simp [hnodigit c (by rw [hend]; rfl)]
  have hbehind : (blanks ++ rest).dropWhile isBlank = rest := by
    rw [List.dropWhile_append_of_pos hblanks]
    rcases hrest with rfl | ⟨more, rfl⟩ <;> rfl
  have hfits : ¬ UInt64.size ≤ Hexadecimal.value size := Nat.not_le_of_lt hlimit
  have hends : (rest.isEmpty || rest.head? == some ';') = true := by
    rcases hrest with rfl | ⟨more, rfl⟩ <;> rfl
  simp only [chunkSize?, hcs, htake, hdrop, hbehind, hends, if_true]
  simp [hne, hfits]

/-! ## Bytes of bodies -/

namespace Phase

variable {head : Head} {acc bs body bytes : List UInt8}

theorem feed_count {count : Nat → List UInt8 → Phase} (ended : List UInt8 → Phase × List Incoming)
    (hcount : ∀ missing acc b, (count missing acc).step b =
      if missing ≤ 1 then ended (b :: acc) else (count (missing - 1) (b :: acc), []))
    (h : bs ≠ []) (acc : List UInt8) :
    (count bs.length acc).feed bs = ended (bs.reverse ++ acc) := by
  induction bs generalizing acc with
  | nil => exact absurd rfl h
  | cons b bs ih =>
    cases bs with
    | nil => simp [feed, hcount]
    | cons b' bs =>
      have hmore := ih (by simp) (b :: acc)
      rw [List.length_cons] at hmore
      simp [feed, hcount] at hmore ⊢
      exact hmore

theorem feed_chunkEnd (head : Head) (acc : List UInt8) :
    (chunkEnd head acc []).feed lineEnd = (chunkSize head acc [], []) := rfl

theorem feed_size {size : List Char} {n : Nat} {extension : List UInt8}
    (hsize : IsChunkSize size n) (hextension : IsExtension extension) (head : Head)
    (acc : List UInt8) :
    (chunkSize head acc []).feed (ascii size ++ extension ++ lineEnd) =
      (if n = 0 then trailer head acc [] else chunk head n acc, []) := by
  obtain ⟨hfeed, hreturn⟩ := not_mem_size hsize hextension
  rw [feed_line (fun line b hb => by simp [step, hb]) hfeed]
  simp only [step, beq_self_eq_true, if_true, sizeLine, wholeLine?_eq_some.mpr ⟨rfl, hreturn⟩,
    Option.bind_some, chunkSize?_written hsize hextension]
  cases n <;> rfl

theorem trailerLine_field {name : List Char} {value : List UInt8} (hname : isToken name = true)
    (hvalue : IsFieldValue value) (head : Head) (acc : List UInt8) :
    trailerLine head acc (0x0D :: (ascii (name ++ [':']) ++ value).reverse) =
      (trailer head acc [], []) := by
  have hwhole := wholeLine?_eq_some.mpr ⟨rfl, (not_mem_field hname hvalue).2⟩
  have hfield := headerField?_written hname hvalue
  cases hline : ascii (name ++ [':']) ++ value with
  | nil => simp [ascii] at hline
  | cons b line =>
    rw [hline] at hwhole hfield
    rw [trailerLine, hwhole]
    simp [hfield]

theorem feed_trailers (h : WrittenTrailers bytes) (head : Head) (acc : List UInt8) :
    (trailer head acc []).feed (bytes ++ lineEnd) = complete head acc := by
  have hgather (seen : List UInt8) (b : UInt8) (hb : b ≠ 0x0A) :
      (trailer head acc seen).step b = (trailer head acc (b :: seen), []) := by
    simp [step, hb]
  induction h with
  | nil =>
    rw [feed_line hgather List.not_mem_nil]
    rfl
  | @cons name field more hfield _ ih =>
    obtain @⟨name, value, hname, hvalue⟩ := hfield
    obtain ⟨hfeed, hreturn⟩ := not_mem_field hname hvalue
    have hskip : (trailer head acc []).feed (ascii (name ++ [':']) ++ value ++ lineEnd) =
        (trailer head acc [], []) := by
      rw [feed_line hgather hfeed]
      exact trailerLine_field hname hvalue head acc
    rw [List.append_assoc _ more, feed_append_of_quiet hskip, ih]

/-- The chunks of a body are put together. -/
theorem feed_chunks (h : WrittenChunks body bytes) (head : Head) (acc : List UInt8) :
    (chunkSize head acc []).feed bytes = complete head (body.reverse ++ acc) := by
  induction h generalizing acc with
  | last hsize hextension htrailers =>
    rw [List.append_assoc _ _ lineEnd, feed_append_of_quiet (feed_size hsize hextension head acc)]
    exact feed_trailers htrailers head acc
  | @cons size extension chunk body more hne hsize hextension _ ih =>
    have hlength : chunk.length ≠ 0 := by simpa using hne
    have hbytes : (Phase.chunk head chunk.length acc).feed chunk =
        (chunkEnd head (chunk.reverse ++ acc) [], []) :=
      feed_count (fun acc => (chunkEnd head acc [], [])) (fun _ _ _ => rfl) hne acc
    have hsizeLine := feed_size hsize hextension head acc
    rw [if_neg hlength] at hsizeLine
    have hchunk := (feed_append_of_quiet hsizeLine chunk).trans hbytes
    have hend := (feed_append_of_quiet hchunk lineEnd).trans (feed_chunkEnd _ _)
    rw [feed_append_of_quiet hend, ih, List.reverse_append, List.append_assoc]

/-- A request is complete with the body behind its head. -/
theorem feed_framed {p : Phase} {as : List UInt8} (hhead : p.feed as = begin head)
    (h : Framed head.framing body bytes) :
    p.feed (as ++ bytes) = (afterRequest head, [.request ⟨head.method, head.path, body⟩]) := by
  generalize hframing : head.framing = framing at h
  cases h with
  | length =>
    cases body with
    | nil =>
      rw [List.append_nil, hhead]
      simp [begin, hframing, complete]
    | cons b body =>
      have hbegin : begin head = (Phase.body head (b :: body).length [], []) := by
        simp [begin, hframing]
      rw [feed_append_of_quiet (hhead.trans hbegin),
        feed_count (complete head) (fun _ _ _ => rfl) (List.cons_ne_nil b body)]
      simp [complete]
  | chunked h =>
    have hbegin : begin head = (chunkSize head [] [], []) := by simp [begin, hframing]
    rw [feed_append_of_quiet (hhead.trans hbegin), feed_chunks h]
    simp [complete]

end Phase

end Reachability.Service
