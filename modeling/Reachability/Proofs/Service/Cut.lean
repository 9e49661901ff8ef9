import Reachability.Proofs.Service.Answers
import Reachability.Proofs.Service.Pipeline

/-!
# Bodies that do not arrive in full

The other side may end its connection within a body, or send something that is no chunk where a
chunk belongs. Then the bytes behind the head do not begin with a body of the announced framing.
The request is not routed with what has come in of the body, even if that is a text of its own: it
is answered as unreadable, and nothing is asked of the outside for it.
-/
namespace Reachability.Service

open Message

/-! ## Bodies in full -/

/-- Holds if some bytes begin with a whole body. -/
def ArrivesInFull (f : Framing) (bs : List UInt8) : Prop :=
  ∃ body text, Framed f body text ∧ text <+: bs

theorem line_unique {line other rest more : List UInt8} (hline : 0x0D ∉ line)
    (hother : 0x0D ∉ other) (h : line ++ (lineEnd ++ rest) = other ++ (lineEnd ++ more)) :
    line = other ∧ rest = more := by
  induction line generalizing other with
  | nil =>
    cases other with
    | nil => exact ⟨rfl, by simpa [lineEnd] using h⟩
    | cons b other =>
      have hb : (0x0D : UInt8) = b := (List.cons.inj h).1
      exact absurd (hb ▸ List.mem_cons_self) hother
  | cons b line ih =>
    cases other with
    | nil =>
      have hb : b = 0x0D := (List.cons.inj h).1
      exact absurd (hb ▸ List.mem_cons_self) hline
    | cons c other =>
      obtain ⟨rfl, htail⟩ := List.cons.inj h
      obtain ⟨rfl, hrest⟩ := ih (fun hmem => hline (.tail _ hmem))
        (fun hmem => hother (.tail _ hmem)) htail
      exact ⟨rfl, hrest⟩

theorem AnyField.exists_line {name : List Char} {bytes : List UInt8} (h : AnyField name bytes) :
    ∃ line, bytes = line ++ lineEnd ∧ line ≠ [] ∧ 0x0D ∉ line := by
  obtain @⟨name, value, hname, hvalue⟩ := h
  exact ⟨_, rfl, by simp [ascii], (not_mem_field hname hvalue).2⟩

theorem WrittenTrailers.unique {trailers others rest more : List UInt8}
    (h : WrittenTrailers trailers) (hothers : WrittenTrailers others)
    (heq : trailers ++ (lineEnd ++ rest) = others ++ (lineEnd ++ more)) : rest = more := by
  induction h generalizing others with
  | nil =>
    cases hothers with
    | nil => exact (line_unique List.not_mem_nil List.not_mem_nil heq).2
    | cons hfield _ =>
      obtain ⟨line, rfl, hne, hline⟩ := hfield.exists_line
      rw [List.append_assoc, List.append_assoc] at heq
      exact absurd (line_unique List.not_mem_nil hline heq).1.symm hne
  | cons hfield _ ih =>
    obtain ⟨line, rfl, hne, hline⟩ := hfield.exists_line
    rw [List.append_assoc, List.append_assoc] at heq
    cases hothers with
    | nil => exact absurd (line_unique hline List.not_mem_nil heq).1 hne
    | cons hother hmore =>
      obtain ⟨other, rfl, -, hother⟩ := hother.exists_line
      rw [List.append_assoc, List.append_assoc] at heq
      exact ih hmore (line_unique hline hother heq).2

theorem size_unique {size other : List Char} {n m : Nat} {extension more as bs : List UInt8}
    (hsize : IsChunkSize size n) (hextension : IsExtension extension)
    (hother : IsChunkSize other m) (hmore : IsExtension more)
    (heq : ascii size ++ (extension ++ (lineEnd ++ as)) =
      ascii other ++ (more ++ (lineEnd ++ bs))) : n = m ∧ as = bs := by
  rw [← List.append_assoc, ← List.append_assoc (ascii other)] at heq
  obtain ⟨hline, hrest⟩ := line_unique (not_mem_size hsize hextension).2
    (not_mem_size hother hmore).2 heq
  have hread := chunkSize?_written hsize hextension
  rw [hline, chunkSize?_written hother hmore] at hread
  exact ⟨(Option.some.inj hread).symm, hrest⟩

theorem WrittenChunks.unique {body text other chunks rest more : List UInt8}
    (h : WrittenChunks body text) (hother : WrittenChunks other chunks)
    (heq : text ++ rest = chunks ++ more) : rest = more := by
  induction h generalizing other chunks with
  | last hsize hextension htrailers =>
    cases hother with
    | last hsize' hextension' htrailers' =>
      simp only [List.append_assoc] at heq
      exact htrailers.unique htrailers' (size_unique hsize hextension hsize' hextension' heq).2
    | cons hne hsize' hextension' hmore' =>
      simp only [List.append_assoc] at heq
      have hzero := (size_unique hsize hextension hsize' hextension' heq).1
      exact absurd (List.eq_nil_of_length_eq_zero hzero.symm) hne
  | cons hne hsize hextension hmore ih =>
    cases hother with
    | last hsize' hextension' htrailers' =>
      simp only [List.append_assoc] at heq
      have hzero := (size_unique hsize hextension hsize' hextension' heq).1
      exact absurd (List.eq_nil_of_length_eq_zero hzero) hne
    | cons hne' hsize' hextension' hmore' =>
      simp only [List.append_assoc] at heq
      obtain ⟨hlength, hchunk⟩ := size_unique hsize hextension hsize' hextension' heq
      obtain ⟨-, hend⟩ := List.append_inj hchunk hlength
      exact ih hmore' (List.append_cancel_left hend)

/-- The end of a body can be read off some bytes in one way only. -/
theorem Framed.unique {f : Framing} {body text other bytes rest more : List UInt8}
    (h : Framed f body text) (hother : Framed f other bytes)
    (heq : text ++ rest = bytes ++ more) : rest = more := by
  cases h with
  | length =>
    generalize hn : body.length = n at hother
    cases hother with
    | length => exact (List.append_inj heq hn).2
  | chunked h =>
    cases hother with
    | chunked hother => exact h.unique hother heq

/-- A body that is cut off, at whatever place, does not arrive in full. -/
theorem not_arrivesInFull_of_part {f : Framing} {body text bs : List UInt8}
    (h : Framed f body text) (hpart : bs <+: text) (hne : bs ≠ text) :
    ¬ ArrivesInFull f bs := by
  rintro ⟨other, bytes, hother, rest, rfl⟩
  obtain ⟨missing, rfl⟩ := hpart
  have heq : bytes ++ rest ++ missing ++ [] = bytes ++ (rest ++ missing) := by simp
  have hnil := h.unique hother heq
  exact hne (by simp [(List.append_eq_nil_iff.mp hnil.symm).2])

/-! ## What comes in of a body -/

theorem written_of_chunkSize? {line : List UInt8} {n : Nat} (h : chunkSize? line = some n)
    (hfeed : 0x0A ∉ line) (hreturn : 0x0D ∉ line) : ∃ size extension,
      line = ascii size ++ extension ∧ IsChunkSize size n ∧ IsExtension extension := by
  simp only [chunkSize?, Option.ite_none_left_eq_some, Option.ite_none_right_eq_some,
    Bool.or_eq_true, not_or, List.isEmpty_iff, decide_eq_true_eq, Nat.not_le, beq_iff_eq,
    Option.some.injEq] at h
  obtain ⟨⟨hne, hlimit⟩, hend, hvalue⟩ := h
  generalize hdigits : (chars line).takeWhile Hexadecimal.isDigit = digits at hne hlimit hvalue
  generalize hbehind : (chars line).dropWhile Hexadecimal.isDigit = behind at hend
  have hall : digits.all Hexadecimal.isDigit = true := hdigits ▸ List.all_takeWhile
  have hline : line = ascii digits ++
      (ascii (behind.takeWhile isBlank) ++ ascii (behind.dropWhile isBlank)) := by
    rw [← ascii_append, List.takeWhile_append_dropWhile, ← ascii_append, ← hdigits, ← hbehind,
      List.takeWhile_append_dropWhile, ascii_chars]
  have hnot {b : UInt8} (hb : b ∉ line) : b ∉ ascii (behind.dropWhile isBlank) := by
    rw [hline, List.mem_append, List.mem_append, not_or, not_or] at hb
    exact hb.2.2
  refine ⟨digits, _, hline, ⟨hne, hall, hvalue, hvalue ▸ hlimit⟩, _, _, List.all_takeWhile, ?_,
    hnot hreturn, hnot hfeed, rfl⟩
  refine hend.imp ?_ ?_
  · intro hnil
    rw [hnil]
    rfl
  · intro hsemicolon
    obtain ⟨more, hmore⟩ := List.head?_eq_some_iff.mp hsemicolon
    rw [hmore]
    rfl

namespace Phase

/-- What has come in when the other side ends the connection behind some bytes. -/
def outcome (p : Phase) (bs : List UInt8) : List Incoming := (p.feed bs).2 ++ (p.feed bs).1.finish

variable {p q : Phase} {as bs acc : List UInt8} {arrived : List Incoming} {h : Head}

theorem outcome_append (hfeed : p.feed as = (q, arrived)) (bs : List UInt8) :
    p.outcome (as ++ bs) = arrived ++ q.outcome bs := by
  rw [outcome, feed_append_of_eq hfeed, outcome, List.append_assoc]

theorem outcome_closed (bs : List UInt8) : closed.outcome bs = [] := by
  induction bs with
  | nil => rfl
  | cons b bs ih => exact ih

theorem outcome_of_unreadable (hfeed : p.feed as = (closed, [.unreadable h])) (bs : List UInt8) :
    p.outcome (as ++ bs) = [.unreadable h] := by
  rw [outcome_append hfeed, outcome_closed, List.append_nil]

theorem feed_short {count : Nat → List UInt8 → Phase} (ended : List UInt8 → Phase × List Incoming)
    (hcount : ∀ missing acc b, (count missing acc).step b =
      if missing ≤ 1 then ended (b :: acc) else (count (missing - 1) (b :: acc), []))
    {missing : Nat} (hshort : bs.length < missing) (acc : List UInt8) :
    (count missing acc).feed bs = (count (missing - bs.length) (bs.reverse ++ acc), []) := by
  induction bs generalizing missing acc with
  | nil => rfl
  | cons b bs ih =>
    rw [List.length_cons] at hshort
    have hmany : ¬ missing ≤ 1 := by omega
    have hmore := ih (show bs.length < missing - 1 by omega) (b :: acc)
    have hleft : missing - 1 - bs.length = missing - (bs.length + 1) := by omega
    simp [feed, hcount, hmany, hmore, hleft]

theorem line_or_unreadable {gather : List UInt8 → Phase}
    {ended : List UInt8 → Phase × List Incoming}
    (hstep : ∀ seen b, (gather seen).step b =
      if b == 0x0A then ended seen else (gather (b :: seen), []))
    (hfinish : ∀ seen, (gather seen).finish = [.unreadable h])
    (hbroken : ∀ seen, wholeLine? seen = none → ended seen = (closed, [.unreadable h]))
    (bs : List UInt8) :
    (∃ line rest, bs = line ++ (lineEnd ++ rest) ∧ 0x0A ∉ line ∧ 0x0D ∉ line ∧
      ∀ q arrived, ended (0x0D :: line.reverse) = (q, arrived) →
        (gather []).outcome bs = arrived ++ q.outcome rest) ∨
      (gather []).outcome bs = [.unreadable h] := by
  have hgather (seen : List UInt8) (b : UInt8) (hb : b ≠ 0x0A) :
      (gather seen).step b = (gather (b :: seen), []) := by simp [hstep, hb]
  by_cases hfeed : 0x0A ∈ bs
  · obtain ⟨raw, rest, rfl, hraw⟩ := List.eq_append_cons_of_mem hfeed
    have hread := feed_gather hgather hraw []
    rw [List.append_nil] at hread
    have hline (q : Phase) (arrived : List Incoming) (hended : ended raw.reverse = (q, arrived)) :
        (gather []).outcome (raw ++ 0x0A :: rest) = arrived ++ q.outcome rest := by
      have hend : (gather raw.reverse).feed [0x0A] = (q, arrived) := by
        simp [feed, hstep, hended]
      rw [outcome_append hread, ← List.singleton_append, outcome_append hend, List.nil_append]
    cases hwhole : wholeLine? raw.reverse with
    | none =>
      right
      rw [hline _ _ (hbroken _ hwhole), outcome_closed, List.append_nil]
    | some line =>
      left
      obtain ⟨hreverse, hreturn⟩ := wholeLine?_eq_some.mp hwhole
      obtain rfl : raw = line ++ [0x0D] := by simpa using congrArg List.reverse hreverse
      have hnofeed : 0x0A ∉ line := fun hmem => hraw (List.mem_append_left _ hmem)
      refine ⟨line, rest, by simp [lineEnd], hnofeed, hreturn, ?_⟩
      rwa [hreverse] at hline
  · right
    rw [outcome, feed_gather hgather hfeed, hfinish, List.nil_append]

/-- Behind the last chunk there are fields up to an empty line, or else the body is unreadable.
The induction is on the bytes, of which each field takes some. -/
theorem trailers_or_unreadable (h : Head) (acc bs : List UInt8) :
    (∃ trailers, WrittenTrailers trailers ∧ trailers ++ lineEnd <+: bs) ∨
      (trailer h acc []).outcome bs = [.unreadable h] := by
  induction hn : bs.length using Nat.strongRecOn generalizing bs with
  | ind n ih =>
    have hbroken (seen : List UInt8) (hwhole : wholeLine? seen = none) :
        trailerLine h acc seen = (closed, [.unreadable h]) := by rw [trailerLine, hwhole]
    rcases @line_or_unreadable h (trailer h acc) _ (fun _ _ => rfl) (fun _ => rfl) hbroken bs with
      ⟨line, rest, rfl, -, hreturn, hline⟩ | hunreadable
    · have hwhole := wholeLine?_eq_some.mpr ⟨rfl, hreturn⟩
      cases line with
      | nil => exact .inl ⟨[], .nil, by simp⟩
      | cons b line =>
        by_cases hfield : (headerField? (b :: line)).isSome = true
        · have hended : trailerLine h acc (0x0D :: (b :: line).reverse) =
              (trailer h acc [], []) := by
            rw [trailerLine, hwhole]
            simp [hfield]
          rw [hline _ _ hended]
          refine (ih rest.length ?_ rest rfl).imp ?_ id
          · simp [← hn]
            omega
          · rintro ⟨trailers, htrailers, rest', rfl⟩
            obtain ⟨name, hany⟩ := anyField_of_isSome hfield
            exact ⟨_, .cons hany htrailers, rest', by simp⟩
        · right
          have hended : trailerLine h acc (0x0D :: (b :: line).reverse) =
              (closed, [.unreadable h]) := by
            rw [trailerLine, hwhole]
            simp [hfield]
          rw [hline _ _ hended, outcome_closed, List.append_nil]
    · exact .inr hunreadable

theorem chunkEnd_or_unreadable (h : Head) (acc bs : List UInt8) :
    (∃ rest, bs = lineEnd ++ rest) ∨ (chunkEnd h acc []).outcome bs = [.unreadable h] := by
  cases bs with
  | nil => exact .inr rfl
  | cons b bs =>
    by_cases hb : b = 0x0D
    · subst hb
      cases bs with
      | nil => exact .inr rfl
      | cons c rest =>
        by_cases hc : c = 0x0A
        · subst hc
          exact .inl ⟨rest, rfl⟩
        · right
          have hbroken : (chunkEnd h acc []).feed [0x0D, c] = (closed, [.unreadable h]) := by
            simp [feed, step, hc]
          exact outcome_of_unreadable hbroken rest
    · right
      have hbroken : (chunkEnd h acc []).feed [b] = (closed, [.unreadable h]) := by
        simp [feed, step, hb]
      exact outcome_of_unreadable hbroken bs

theorem chunk_or_unreadable (h : Head) {n : Nat} (hn : 0 < n) (acc bs : List UInt8) :
    (∃ bytes rest, bytes.length = n ∧ bs = bytes ++ (lineEnd ++ rest) ∧
      (chunk h n acc).outcome bs = (chunkSize h (bytes.reverse ++ acc) []).outcome rest) ∨
      (chunk h n acc).outcome bs = [.unreadable h] := by
  have hcount (missing : Nat) (acc : List UInt8) (b : UInt8) :
      (chunk h missing acc).step b = if missing ≤ 1 then (chunkEnd h (b :: acc) [], [])
        else (chunk h (missing - 1) (b :: acc), []) := rfl
  by_cases hshort : bs.length < n
  · right
    rw [outcome, feed_short (fun acc => (chunkEnd h acc [], [])) hcount hshort]
    rfl
  · obtain ⟨bytes, behind, rfl, hlength⟩ :
        ∃ bytes behind, bs = bytes ++ behind ∧ bytes.length = n :=
      ⟨bs.take n, bs.drop n, (List.take_append_drop n bs).symm, by simp; omega⟩
    have hne : bytes ≠ [] := List.ne_nil_of_length_pos (hlength ▸ hn)
    have hbytes := feed_count (fun acc => (chunkEnd h acc [], [])) hcount hne acc
    rw [hlength] at hbytes
    rw [outcome_append hbytes, List.nil_append]
    refine (chunkEnd_or_unreadable h (bytes.reverse ++ acc) behind).imp ?_ id
    rintro ⟨rest, rfl⟩
    refine ⟨bytes, rest, hlength, rfl, ?_⟩
    rw [outcome_append (feed_chunkEnd h (bytes.reverse ++ acc)), List.nil_append]

theorem chunks_or_unreadable (h : Head) (acc bs : List UInt8) :
    (∃ body text, WrittenChunks body text ∧ text <+: bs) ∨
      (chunkSize h acc []).outcome bs = [.unreadable h] := by
  induction hn : bs.length using Nat.strongRecOn generalizing bs acc with
  | ind n ih =>
    have hbroken (seen : List UInt8) (hwhole : wholeLine? seen = none) :
        sizeLine h acc seen = (closed, [.unreadable h]) := by
      rw [sizeLine, hwhole]
      rfl
    rcases @line_or_unreadable h (chunkSize h acc) _ (fun _ _ => rfl) (fun _ => rfl) hbroken bs
      with ⟨line, rest, rfl, hfeed, hreturn, hline⟩ | hunreadable
    · have hwhole := wholeLine?_eq_some.mpr ⟨rfl, hreturn⟩
      cases hsize : chunkSize? line with
      | none =>
        right
        have hended : sizeLine h acc (0x0D :: line.reverse) = (closed, [.unreadable h]) := by
          rw [sizeLine, hwhole, Option.bind_some, hsize]
        rw [hline _ _ hended, outcome_closed, List.append_nil]
      | some size =>
        obtain ⟨digits, extension, rfl, hdigits, hextension⟩ :=
          written_of_chunkSize? hsize hfeed hreturn
        cases size with
        | zero =>
          have hended : sizeLine h acc (0x0D :: (ascii digits ++ extension).reverse) =
              (trailer h acc [], []) := by
            rw [sizeLine, hwhole, Option.bind_some, hsize]
          rw [hline _ _ hended, List.nil_append]
          refine (trailers_or_unreadable h acc rest).imp ?_ id
          rintro ⟨trailers, htrailers, rest', rfl⟩
          exact ⟨_, _, .last hdigits hextension htrailers, rest', by simp⟩
        | succ size =>
          have hended : sizeLine h acc (0x0D :: (ascii digits ++ extension).reverse) =
              (chunk h (size + 1) acc, []) := by
            rw [sizeLine, hwhole, Option.bind_some, hsize]
          rw [hline _ _ hended, List.nil_append]
          have hpos : 0 < size + 1 := by omega
          rcases chunk_or_unreadable h hpos acc rest with
            ⟨bytes, behind, hlength, rfl, hbehind⟩ | hunreadable
          · rw [hbehind]
            refine (ih behind.length ?_ _ behind rfl).imp ?_ id
            · simp [← hn, lineEnd]
              omega
            · rintro ⟨body, text, hmore, rest', rfl⟩
              have hne : bytes ≠ [] := List.ne_nil_of_length_pos (hlength ▸ hpos)
              exact ⟨_, _, .cons hne (hlength ▸ hdigits) hextension hmore, rest', by simp⟩
          · exact .inr hunreadable
    · exact .inr hunreadable

/-- A body comes in in full, or else it is unreadable. -/
theorem body_or_unreadable (h : Head) (bs : List UInt8) :
    ArrivesInFull h.framing bs ∨
      (begin h).2 ++ (begin h).1.outcome bs = [.unreadable h] := by
  cases hframing : h.framing with
  | length n =>
    by_cases hshort : bs.length < n
    · right
      obtain ⟨m, rfl⟩ : ∃ m, n = m + 1 := Nat.exists_eq_add_one.mpr (by omega)
      have hbegin : begin h = (Phase.body h (m + 1) [], []) := by simp [begin, hframing]
      rw [hbegin, outcome, feed_short (complete h) (fun _ _ _ => rfl) hshort]
      rfl
    · left
      have hlength : (bs.take n).length = n := by simp; omega
      have hframed := Framed.length (bs.take n)
      rw [hlength] at hframed
      exact ⟨_, _, hframed, List.take_prefix n bs⟩
  | chunked =>
    have hbegin : begin h = (chunkSize h [] [], []) := by simp [begin, hframing]
    rw [hbegin]
    refine (chunks_or_unreadable h [] bs).imp ?_ id
    rintro ⟨body, text, hchunks, hpart⟩
    exact ⟨body, text, .chunked hchunks, hpart⟩

end Phase

/-! ## The answer -/

theorem head?_append {first : String} {c : Char} (h : first.toList.head? = some c)
    (rest : String) : (first ++ rest).toList.head? = some c := by
  rw [String.toList_append, List.head?_append, h]
  rfl

theorem head?_message (p : Json.Problem) : ∃ c, p.message.toList.head? = some c ∧ c ≠ 'f' := by
  cases p with
  | wrongType found expected =>
    exact ⟨'i', head?_append (head?_append (head?_append (by decide) _) _) _, by decide⟩
  | wrongValue found expected =>
    exact ⟨'i', head?_append (head?_append (head?_append (by decide) _) _) _, by decide⟩
  | wrongLength n expected =>
    exact ⟨'i', head?_append (head?_append (head?_append (by decide) _) _) _, by decide⟩
  | duplicate field => exact ⟨'d', head?_append (head?_append (by decide) _) _, by decide⟩
  | endOfArray | endOfObject | endOfString | endOfValue => exact ⟨'E', by decide, by decide⟩
  | noColon | noArrayEnd | noObjectEnd | badWord | noValue => exact ⟨'e', by decide, by decide⟩
  | badEscape | badNumber | badText => exact ⟨'i', by decide, by decide⟩
  | hugeNumber => exact ⟨'n', by decide, by decide⟩
  | controlCharacter => exact ⟨'c', by decide, by decide⟩
  | noKey => exact ⟨'k', by decide, by decide⟩
  | loneSurrogate => exact ⟨'l', by decide, by decide⟩
  | trailingComma | trailingCharacters => exact ⟨'t', by decide, by decide⟩
  | endOfEscape => exact ⟨'u', by decide, by decide⟩

theorem head?_fault (body : List UInt8) (f : Json.Fault) :
    ∃ c, (f.message body).toList.head? = some c ∧ c ≠ 'f' := by
  obtain ⟨c, hc, hne⟩ := head?_message f.problem
  exact ⟨c, head?_append (head?_append (head?_append (head?_append hc _) _) _) _, hne⟩

theorem decodeBody_ne_unreadable {ρ : Type} {shape : Json.Shape ρ} {body : List UInt8}
    {reason : String} :
    decodeBody shape body ≠ .error ("failed to read request body: " ++ reason) := by
  intro h
  unfold decodeBody at h
  split at h
  · cases h
  · cases hread : shape.readAll body with
    | ok r =>
      rw [hread] at h
      cases h
    | error fault =>
      rw [hread] at h
      obtain ⟨c, hc, hne⟩ := head?_fault body fault
      have hmessage : fault.message body = "failed to read request body: " ++ reason :=
        Except.error.inj h
      rw [hmessage, head?_append (show _ = some 'f' by decide)] at hc
      exact hne (Option.some.inj hc).symm

theorem probeOf_ne_unreadable {defaultTimeout : Duration} {body : List UInt8} {p : Protocol}
    {reason : String} :
    probeOf defaultTimeout body p ≠ .error ("failed to read request body: " ++ reason) := by
  have hmap {ρ : Type} (shape : Json.Shape ρ) (f : ρ → Probe) : (decodeBody shape body).map f ≠
      .error ("failed to read request body: " ++ reason) := by
    intro h
    cases hdecode : decodeBody shape body with
    | ok r =>
      rw [hdecode] at h
      cases h
    | error e =>
      rw [hdecode] at h
      obtain rfl : e = _ := Except.error.inj h
      exact decodeBody_ne_unreadable hdecode
  cases p <;> exact hmap _ _

theorem ofRefusal_ne_unreadable {defaultTimeout : Duration} {r : Request} {refusal : Refusal}
    (h : r.Refused defaultTimeout refusal) (reason : String) :
    Response.ofRefusal refusal ≠ .unreadableBody reason := by
  intro heq
  have hmessage : refusal.message =
      "Invalid request body: " ++ ("failed to read request body: " ++ reason) := by
    have hbody : Json.object [("error", .text refusal.message)] =
        .object [("error", .text (Refusal.malformedBody _).message)] := congrArg Response.body heq
    simp only [Json.object.injEq, List.cons.injEq, Prod.mk.injEq, Json.text.injEq, and_true,
      true_and] at hbody
    exact hbody
  have hmalformed {e : String} (he : refusal = .malformedBody e) :
      e = "failed to read request body: " ++ reason := by
    subst he
    exact (String.append_right_inj _).mp hmessage
  have hhead := head?_append (show "Invalid request body: ".toList.head? = some 'I' by decide)
    ("failed to read request body: " ++ reason)
  rw [← hmessage] at hhead
  cases h with
  | notFound => cases congrArg Response.status heq
  | methodNotAllowed => cases congrArg Response.status heq
  | rejected _ _ hrejects =>
    cases hrejects with
    | malformedProbe hprobe => exact probeOf_ne_unreadable (hmalformed rfl ▸ hprobe)
    | malformedReport hdecode => exact decodeBody_ne_unreadable (hmalformed rfl ▸ hdecode)
    | @violation _ _ v _ _ => cases v <;> exact absurd hhead (by decide)

/-- Whatever comes in as a request and is routed gets another answer than an unreadable body. -/
theorem routed_ne_unreadable {σ : Type} (net : Network σ) (s : σ) (defaultTimeout : Duration)
    (r : Request) (reason : String) :
    (respond defaultTimeout r).run net s ≠ .unreadableBody reason := by
  by_cases hrefused : ∃ refusal, r.Refused defaultTimeout refusal
  · obtain ⟨refusal, h⟩ := hrefused
    rw [run_respond_of_refused net s h]
    exact ofRefusal_ne_unreadable h reason
  · rw [not_exists] at hrefused
    obtain ⟨body, -, hrun⟩ := run_respond_of_not_refused net s hrefused
    rw [hrun]
    intro heq
    cases congrArg Response.status heq

theorem handleAll_unreadable (defaultTimeout : Duration) (rs : List Request) (head : Head) :
    handleAll defaultTimeout (rs.map .request ++ [.unreadable head]) =
      (fun answers => answers.map .ofResponse ++ [.ofResponse (.unreadableBody bodyError)]) <$>
        respondAll defaultTimeout rs := by
  induction rs with
  | nil => rfl
  | cons r rs ih =>
    simp [handleAll, respondAll, handle, ih]

/-- Where a body does not arrive in full, whatever has come in of it, the requests in front of it
are answered and its own request is not routed. It is answered as unreadable, without anything
being asked of the outside, and no request that is routed gets this answer, be it for a part of the
body or for none. -/
theorem cut_body_unreadable {rs : List Request} {texts : List (List UInt8)}
    (hbefore : List.Forall₂ WrittenRequest rs texts) {lines : List (List UInt8)} {head : Head}
    (hlines : ∀ line ∈ lines, line ≠ [] ∧ 0x0A ∉ line) (hhead : Message.head? lines = some head)
    {bs : List UInt8} (hcut : ¬ ArrivesInFull head.framing bs) {reads : List (List UInt8)}
    (hreads : reads.flatten = texts.flatten ++ (lines.flatMap (· ++ lineEnd) ++ lineEnd ++ bs))
    (defaultTimeout : Duration) :
    let answer : Response := .unreadableBody bodyError
    incoming reads = rs.map .request ++ [.unreadable head] ∧
    handleAll defaultTimeout (incoming reads) =
      (fun answers => answers.map .ofResponse ++ [.ofResponse answer]) <$>
        respondAll defaultTimeout rs ∧
    answer.status = 400 ∧ answer.body = .object [("error",
      .text ("Invalid request body: failed to read request body: " ++ bodyError))] ∧
    ∀ {σ : Type} (net : Network σ) (s : σ) (r : Request),
      (respond defaultTimeout r).run net s ≠ answer := by
  intro answer
  have hne : lines ≠ [] := by
    rintro rfl
    cases hhead
  have hfeed : Phase.start.feed (lines.flatMap (· ++ lineEnd) ++ lineEnd) =
      ((Phase.begin head).1, (Phase.begin head).2) := Phase.feed_head hlines hne hhead
  have hincoming : incoming reads = rs.map .request ++ [.unreadable head] := by
    show Phase.start.outcome reads.flatten = _
    rw [hreads, Phase.outcome_append (Phase.feed_requests hbefore), Phase.outcome_append hfeed,
      (Phase.body_or_unreadable head bs).resolve_left hcut]
  have hwords : "Invalid request body: failed to read request body: " =
      "Invalid request body: " ++ "failed to read request body: " := by decide
  refine ⟨hincoming, ?_, rfl, ?_, ?_⟩
  · rw [hincoming, handleAll_unreadable]
  · rw [hwords, String.append_assoc]
    rfl
  · intro σ net s r
    exact routed_ne_unreadable net s defaultTimeout r bodyError

/-- A test whose body is announced with ten bytes, of which two have come in that are a text of
their own. -/
theorem cut_body_unreadable_early :
    let lines := ["POST /api/v1/connectivity/test/tcp HTTP/1.1".toList, "Content-Length: 10".toList]
    let bs := ascii ['\x7b', '\x7d']
    let reads := [lines.flatMap (fun line => ascii line ++ lineEnd) ++ lineEnd, bs]
    let head : Head := ⟨"POST", "/api/v1/connectivity/test/tcp", .length 10, false⟩
    ¬ ArrivesInFull (.length 10) bs ∧ incoming reads = [.unreadable head] ∧
      handleAll (.ofSeconds 5) (incoming reads) =
        .done [.ofResponse (.unreadableBody bodyError)] := by
  intro lines bs reads head
  have hcut : ¬ ArrivesInFull (.length 10) bs :=
    not_arrivesInFull_of_part (.length (bs ++ ascii "        ".toList)) ⟨_, rfl⟩ (by decide)
  have hhead : Message.head? (lines.map ascii) = some head := by decide +kernel
  have hlines : ∀ line ∈ lines.map ascii, line ≠ [] ∧ 0x0A ∉ line := by decide +kernel
  have hreads : reads.flatten = [].flatten ++
      ((lines.map ascii).flatMap (· ++ lineEnd) ++ lineEnd ++ bs) := by
    simp [reads, List.flatMap_map]
  have hunreadable := cut_body_unreadable .nil hlines hhead hcut hreads (.ofSeconds 5)
  exact ⟨hcut, hunreadable.1, hunreadable.2.1⟩

end Reachability.Service
