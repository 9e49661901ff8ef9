import Reachability.Proofs.Digits
import Reachability.Proofs.Service.Lines
import Reachability.Proofs.Text.Split
import Reachability.Proofs.Text.Trim

/-!
# Fields of requests

The fields of a request are read with the names and values that they were written with. All but
the one that announces the body leave its framing and the end of the connection alone.
-/
namespace Reachability.Service

open Message

/-! ## One field -/

theorem isTokenChar_of_lowerAscii {c : Char} (h : isTokenChar (Text.lowerAscii c) = true) :
    isTokenChar c = true := by
  unfold Text.lowerAscii at h
  split at h
  · next hupper =>
    have hletter : c.isAlpha = true := Bool.or_eq_true_iff.mpr (.inl (decide_eq_true hupper))
    have halpha : c.isAlphanum = true := Bool.or_eq_true_iff.mpr (.inl hletter)
    simp [isTokenChar, halpha]
  · exact h

theorem isToken_of_lowerAscii {cs : List Char}
    (h : isToken (cs.map Text.lowerAscii) = true) : isToken cs = true := by
  simp only [isToken, Bool.and_eq_true, List.all_eq_true, List.mem_map, List.isEmpty_map] at h ⊢
  exact ⟨h.1, fun c hc => isTokenChar_of_lowerAscii (h.2 _ ⟨c, hc, rfl⟩)⟩

theorem isInline_name {name : List Char} (h : isToken name = true) :
    ∀ c ∈ name ++ [':'], IsInline c := by
  rw [isToken, Bool.and_eq_true, List.all_eq_true] at h
  rw [List.forall_mem_append, List.forall_mem_singleton]
  exact ⟨fun c hc => .inl (isVisible_of_isTokenChar (h.2 c hc)).1, by decide⟩

theorem all_isValueByte {value : List UInt8} :
    value.all isValueByte = true ↔ IsFieldValue value := by
  simp [isValueByte, IsFieldValue]

theorem takeWhile_name {name rest : List Char} (hname : isToken name = true) :
    (name ++ ':' :: rest).takeWhile (· != ':') = name := by
  have hall : ∀ c ∈ name, (c != ':') = true := by
    rw [isToken, Bool.and_eq_true, List.all_eq_true] at hname
    intro c hc
    simpa using (isVisible_of_isTokenChar (hname.2 c hc)).2.1
  rw [List.takeWhile_append_of_pos hall]
  simp

theorem drop_name (name : List Char) (value : List UInt8) :
    (ascii (name ++ [':']) ++ value).drop (name.length + 1) = value := by
  rw [List.drop_append_of_le_length (by simp [ascii])]
  simp [ascii]

/-- A field is read with its name in lower case and with its value trimmed. -/
theorem headerField?_written {name : List Char} {value : List UInt8}
    (hname : isToken name = true) (hvalue : IsFieldValue value) :
    headerField? (ascii (name ++ [':']) ++ value) =
      some ⟨.ofList (name.map Text.lowerAscii), .ofList (trim (chars value))⟩ := by
  have hchars : chars (ascii (name ++ [':']) ++ value) = name ++ ':' :: chars value := by
    rw [chars_append, chars_ascii (isInline_name hname), List.append_assoc]
    rfl
  have hlength : name.length < (ascii (name ++ [':']) ++ value).length := by
    simp [ascii]
  simp only [headerField?, hchars, takeWhile_name hname, drop_name, hname, hlength,
    all_isValueByte.mpr hvalue, decide_true, Bool.and_self, if_true]

theorem exists_behind_colon {cs : List Char} (h : (cs.takeWhile (· != ':')).length < cs.length) :
    ∃ rest, cs = cs.takeWhile (· != ':') ++ ':' :: rest := by
  have hcs := List.takeWhile_append_dropWhile (p := (· != ':')) (l := cs)
  have hhead := List.head?_dropWhile_not (· != ':') cs
  cases hdrop : cs.dropWhile (· != ':') with
  | nil =>
    rw [hdrop, List.append_nil] at hcs
    rw [hcs] at h
    exact absurd h (Nat.lt_irrefl _)
  | cons c rest =>
    obtain rfl : c = ':' := by simpa [hdrop] using hhead
    exact ⟨rest, by rw [← hdrop, hcs]⟩

theorem anyField_of_isSome {line : List UInt8} (h : (headerField? line).isSome = true) :
    ∃ name, AnyField name (line ++ lineEnd) := by
  obtain ⟨field, hfield⟩ := Option.isSome_iff_exists.mp h
  simp only [headerField?, Option.ite_none_right_eq_some, Bool.and_eq_true,
    decide_eq_true_eq] at hfield
  obtain ⟨⟨⟨hname, hlength⟩, hvalue⟩, -⟩ := hfield
  have hshort : ((chars line).takeWhile (· != ':')).length < (chars line).length := by
    simpa [chars] using hlength
  obtain ⟨rest, hrest⟩ := exists_behind_colon hshort
  generalize (chars line).takeWhile (· != ':') = name at hname hvalue hrest
  have hline : line = ascii (name ++ [':']) ++ ascii rest := by
    rw [← ascii_append, ← ascii_chars line, hrest]
    simp
  rw [hline, drop_name] at hvalue
  rw [hline]
  exact ⟨_, .mk hname (all_isValueByte.mp hvalue)⟩

theorem trim_padded {before value after : List Char} (hbefore : before.all isBlank = true)
    (hafter : after.all isBlank = true) (hhead : ∀ c ∈ value.head?, isBlank c = false)
    (hlast : ∀ c ∈ value.getLast?, isBlank c = false) :
    trim (before ++ value ++ after) = value := by
  rw [trim, Text.dropTrailing_dropWhile_padded hbefore hafter,
    Text.dropTrailing_dropWhile_eq_self hhead hlast]

/-! ## Lines of fields -/

/-- The lines that some bytes consist of, and the fields that they are read as. -/
structure ReadsFields (bytes : List UInt8) (lines : List (List UInt8))
    (fields : List HeaderField) : Prop where
  eq : bytes = lines.flatMap (· ++ lineEnd)
  inline : ∀ line ∈ lines, line ≠ [] ∧ 0x0A ∉ line
  read : lines.mapM headerField? = some fields

namespace ReadsFields

variable {as bs : List UInt8} {lines more : List (List UInt8)} {fields others : List HeaderField}

theorem nil : ReadsFields [] [] [] := ⟨rfl, by simp, rfl⟩

theorem append (h : ReadsFields as lines fields) (hmore : ReadsFields bs more others) :
    ReadsFields (as ++ bs) (lines ++ more) (fields ++ others) where
  eq := by rw [h.eq, hmore.eq, List.flatMap_append]
  inline := List.forall_mem_append.mpr ⟨h.inline, hmore.inline⟩
  read := by simp [List.mapM_append, h.read, hmore.read]

theorem line {line : List UInt8} {field : HeaderField} (hne : line ≠ []) (hline : 0x0A ∉ line)
    (h : headerField? line = some field) : ReadsFields (line ++ lineEnd) [line] [field] where
  eq := by simp
  inline := by simp [hne, hline]
  read := by simp [h]

end ReadsFields

theorem not_mem_field {name : List Char} {value : List UInt8} (hname : isToken name = true)
    (hvalue : IsFieldValue value) :
    0x0A ∉ ascii (name ++ [':']) ++ value ∧ 0x0D ∉ ascii (name ++ [':']) ++ value := by
  obtain ⟨hfeed, hreturn⟩ := not_mem_ascii (isInline_name hname)
  simp only [List.mem_append, not_or]
  exact ⟨⟨hfeed, (not_mem_of_isFieldValue hvalue).1⟩, hreturn, (not_mem_of_isFieldValue hvalue).2⟩

theorem AnyField.readsFields {name : List Char} {bytes : List UInt8} (h : AnyField name bytes) :
    ∃ (line : List UInt8) (field : HeaderField),
      ReadsFields bytes [line] [field] ∧ field.name = .ofList name := by
  obtain @⟨name, value, hname, hvalue⟩ := h
  refine ⟨_, _, .line ?_ ?_ (headerField?_written hname hvalue), rfl⟩
  · simp [ascii]
  · exact (not_mem_field hname hvalue).1

theorem WrittenField.readsFields {name value : List Char} {bytes : List UInt8}
    (h : WrittenField name value bytes) (hname : isToken name = true)
    (hvalue : ∀ c ∈ value, IsInline c) (hhead : ∀ c ∈ value.head?, isBlank c = false)
    (hlast : ∀ c ∈ value.getLast?, isBlank c = false) :
    ∃ line, ReadsFields bytes [line] [⟨.ofList name, .ofList value⟩] := by
  obtain @⟨spelled, before, after, rfl, hbefore, hafter⟩ := h
  have hspelled := isToken_of_lowerAscii hname
  have hinline : ∀ c ∈ before ++ value ++ after, IsInline c := by
    simp only [List.forall_mem_append]
    exact ⟨⟨isInline_of_all hbefore, hvalue⟩, isInline_of_all hafter⟩
  have hbytes : ascii (spelled ++ ':' :: (before ++ value ++ after)) =
      ascii (spelled ++ [':']) ++ ascii (before ++ value ++ after) := by
    rw [← ascii_append]
    simp
  have hread := headerField?_written hspelled (isFieldValue_ascii hinline)
  rw [chars_ascii hinline, trim_padded hbefore hafter hhead hlast] at hread
  rw [hbytes]
  refine ⟨_, .line ?_ ?_ hread⟩
  · simp [ascii]
  · exact (not_mem_field hspelled (isFieldValue_ascii hinline)).1

/-! ## Options -/

theorem plain_of_isToken {option : List Char} (h : isToken option = true) :
    option ≠ [] ∧ ∀ c ∈ option, IsVisible c ∧ c ≠ ',' := by
  rw [isToken, Bool.and_eq_true, List.all_eq_true] at h
  refine ⟨fun hnil => by simp [hnil] at h, fun c hc => ?_⟩
  obtain ⟨hvisible, -, hcomma⟩ := isVisible_of_isTokenChar (h.2 c hc)
  exact ⟨hvisible, hcomma⟩

theorem trim_option {option before after : List Char} (h : isToken option = true)
    (hbefore : before.all isBlank = true) (hafter : after.all isBlank = true) :
    trim (before ++ option ++ after) = option := by
  obtain ⟨-, hplain⟩ := plain_of_isToken h
  refine trim_padded hbefore hafter (fun c hc => ?_) (fun c hc => ?_)
  · exact isBlank_eq_false (hplain c (List.mem_of_mem_head? hc)).1
  · exact isBlank_eq_false (hplain c (List.mem_of_mem_getLast? hc)).1

theorem not_mem_of_isBlank {cs : List Char} (h : cs.all isBlank = true) : ',' ∉ cs := by
  intro hmem
  have hblank := List.all_eq_true.mp h _ hmem
  revert hblank
  decide

namespace WrittenOptions

variable {options : List (List Char)} {value : List Char}

theorem read (h : WrittenOptions options value) {front : List Char}
    (hfront : front.all isBlank = true) :
    (Text.splitAtEach ',' (front ++ value)).map trim = options := by
  induction h generalizing front with
  | @last option hoption =>
    obtain ⟨-, hplain⟩ := plain_of_isToken hoption
    have hcomma : ',' ∉ front ++ option := by
      rw [List.mem_append, not_or]
      exact ⟨not_mem_of_isBlank hfront, fun hmem => (hplain _ hmem).2 rfl⟩
    have htrim : trim (front ++ option ++ []) = option := trim_option hoption hfront rfl
    rw [List.append_nil] at htrim
    rw [Text.splitAtEach_of_not_mem hcomma, List.map_singleton, htrim]
  | @cons option before after value options hoption hbefore hafter hmore ih =>
    obtain ⟨-, hplain⟩ := plain_of_isToken hoption
    have hcomma : ',' ∉ front ++ option ++ before := by
      simp only [List.mem_append, not_or]
      exact ⟨⟨not_mem_of_isBlank hfront, fun hmem => (hplain _ hmem).2 rfl⟩,
        not_mem_of_isBlank hbefore⟩
    rw [← List.append_assoc, ← List.append_assoc, Text.splitAtEach_append hcomma, List.map_cons,
      trim_option hoption hfront hbefore, ih hafter]

theorem isInline (h : WrittenOptions options value) : ∀ c ∈ value, IsInline c := by
  induction h with
  | last hoption => exact fun c hc => .inl ((plain_of_isToken hoption).2 c hc).1
  | cons hoption hbefore hafter hmore ih =>
    have hcomma : IsInline ',' := by decide
    simp only [List.forall_mem_append, List.forall_mem_cons]
    exact ⟨⟨fun c hc => .inl ((plain_of_isToken hoption).2 c hc).1, isInline_of_all hbefore⟩,
      hcomma, isInline_of_all hafter, ih⟩

theorem head?_not_isBlank (h : WrittenOptions options value) :
    ∀ c ∈ value.head?, isBlank c = false := by
  have hfirst {option : List Char} (hoption : isToken option = true) :
      option ≠ [] ∧ ∀ c ∈ option.head?, isBlank c = false := by
    obtain ⟨hne, hplain⟩ := plain_of_isToken hoption
    exact ⟨hne, fun c hc => isBlank_eq_false (hplain c (List.mem_of_mem_head? hc)).1⟩
  cases h with
  | last hoption => exact (hfirst hoption).2
  | @cons option before after value options hoption _ _ _ =>
    obtain ⟨hne, hhead⟩ := hfirst hoption
    rwa [List.append_assoc, List.head?_append_of_ne_nil _ hne]

theorem getLast?_not_isBlank (h : WrittenOptions options value) :
    value ≠ [] ∧ ∀ c ∈ value.getLast?, isBlank c = false := by
  induction h with
  | last hoption =>
    obtain ⟨hne, hplain⟩ := plain_of_isToken hoption
    exact ⟨hne, fun c hc => isBlank_eq_false (hplain c (List.mem_of_mem_getLast? hc)).1⟩
  | @cons option before after value options _ _ _ _ ih =>
    obtain ⟨hne, hlast⟩ := ih
    refine ⟨by simp, ?_⟩
    rwa [← List.singleton_append, ← List.append_assoc, ← List.append_assoc,
      List.getLast?_append_of_ne_nil _ hne]

end WrittenOptions

/-! ## Framing -/

theorem valuesOf_append (name : String) (fields others : List HeaderField) :
    valuesOf name (fields ++ others) = valuesOf name fields ++ valuesOf name others := by
  simp [valuesOf]

theorem optionsOf_append (name : String) (fields others : List HeaderField) :
    optionsOf name (fields ++ others) = optionsOf name fields ++ optionsOf name others := by
  simp [optionsOf, valuesOf_append]

theorem optionsOf_of_valuesOf {name : String} {fields : List HeaderField}
    (h : valuesOf name fields = []) : optionsOf name fields = [] := by
  simp [optionsOf, h]

/-- Holds of fields that tell nothing about framing and keep the connection open. -/
structure IsNeutral (fields : List HeaderField) : Prop where
  lengths : valuesOf "content-length" fields = []
  codings : valuesOf "transfer-encoding" fields = []
  isOpen : "close".toList ∉ optionsOf "connection" fields

theorem IsNeutral.append {fields others : List HeaderField} (h : IsNeutral fields)
    (hothers : IsNeutral others) : IsNeutral (fields ++ others) where
  lengths := by rw [valuesOf_append, h.lengths, hothers.lengths, List.append_nil]
  codings := by rw [valuesOf_append, h.codings, hothers.codings, List.append_nil]
  isOpen := by
    rw [optionsOf_append, List.mem_append, not_or]
    exact ⟨h.isOpen, hothers.isOpen⟩

theorem valuesOf_of_ne {name : String} {field : HeaderField} (h : field.name ≠ name) :
    valuesOf name [field] = [] := by
  simp [valuesOf, h]

theorem valuesOf_eq {name : String} (value : String) : valuesOf name [⟨name, value⟩] = [value] := by
  simp [valuesOf]

theorem isNeutral_nil : IsNeutral [] := ⟨rfl, rfl, List.not_mem_nil⟩

theorem isNeutral_other {field : HeaderField} {name : List Char}
    (hfield : field.name = .ofList name) (hname : ¬ IsFramingName name) : IsNeutral [field] := by
  have hne (other : String) (hother : name ≠ other.toList) : valuesOf other [field] = [] := by
    refine valuesOf_of_ne fun h => hother ?_
    rw [← h, hfield, String.toList_ofList]
  simp only [IsFramingName, not_or] at hname
  refine ⟨hne _ hname.1, hne _ hname.2.1, ?_⟩
  rw [optionsOf_of_valuesOf (hne _ hname.2.2)]
  exact List.not_mem_nil

theorem isNeutral_connection {options : List (List Char)} {value : List Char}
    (hoptions : WrittenOptions options value)
    (hopen : ∀ option ∈ options, option.map Text.lowerAscii ≠ "close".toList) :
    IsNeutral [⟨"connection", .ofList value⟩] where
  lengths := valuesOf_of_ne (show "connection" ≠ "content-length" by decide)
  codings := valuesOf_of_ne (show "connection" ≠ "transfer-encoding" by decide)
  isOpen := by
    have hread : (Text.splitAtEach ',' ([] ++ value)).map trim = options := hoptions.read rfl
    rw [optionsOf, valuesOf_eq, List.flatMap_singleton, String.toList_ofList]
    intro hmem
    obtain ⟨piece, hpiece, heq⟩ := List.mem_map.mp hmem
    exact hopen (trim piece) (hread ▸ List.mem_map_of_mem hpiece) heq

theorem WrittenFields.readsFields {bytes : List UInt8} (h : WrittenFields bytes) :
    ∃ lines fields, ReadsFields bytes lines fields ∧ IsNeutral fields := by
  induction h with
  | nil => exact ⟨[], [], .nil, isNeutral_nil⟩
  | other hfield hname _ ih =>
    obtain ⟨line, field, hline, hfieldName⟩ := hfield.readsFields
    obtain ⟨lines, fields, hmore, hneutral⟩ := ih
    exact ⟨_, _, hline.append hmore, (isNeutral_other hfieldName hname).append hneutral⟩
  | connection hfield hoptions hopen _ ih =>
    obtain ⟨line, hline⟩ := hfield.readsFields (by decide) hoptions.isInline
      hoptions.head?_not_isBlank hoptions.getLast?_not_isBlank.2
    obtain ⟨lines, fields, hmore, hneutral⟩ := ih
    exact ⟨_, _, hline.append hmore, (isNeutral_connection hoptions hopen).append hneutral⟩

/-- The framing that fields ask for is the one that is announced among them. -/
theorem framing?_of_isNeutral {before announced after : List HeaderField}
    (hbefore : IsNeutral before) (hafter : IsNeutral after) :
    framing? (before ++ announced ++ after) = framing? announced := by
  simp only [framing?, optionsOf_append, valuesOf_append, hbefore.lengths, hafter.lengths,
    optionsOf_of_valuesOf hbefore.codings, optionsOf_of_valuesOf hafter.codings, List.nil_append,
    List.append_nil]

/-! ## The announced body -/

/-- How a body stands behind a head. -/
inductive Framed : Framing → List UInt8 → List UInt8 → Prop
  | length (body : List UInt8) : Framed (.length body.length) body body
  | chunked {body bytes : List UInt8} (h : WrittenChunks body bytes) : Framed .chunked body bytes

theorem isVisible_of_isDigit {c : Char} (h : Decimal.isDigit c = true) : IsVisible c := by
  obtain ⟨hlow, hhigh⟩ := Decimal.isDigit_iff.mp h
  exact ⟨by omega, by omega⟩

theorem WrittenField.readsFields_of_isVisible {name value : List Char} {bytes : List UInt8}
    (h : WrittenField name value bytes) (hname : isToken name = true)
    (hvalue : ∀ c ∈ value, IsVisible c) :
    ∃ line, ReadsFields bytes [line] [⟨.ofList name, .ofList value⟩] :=
  h.readsFields hname (fun c hc => .inl (hvalue c hc))
    (fun c hc => isBlank_eq_false (hvalue c (List.mem_of_mem_head? hc)))
    (fun c hc => isBlank_eq_false (hvalue c (List.mem_of_mem_getLast? hc)))

theorem framing?_length {digits : List Char} {n : Nat}
    (hdigits : digits ≠ [] ∧ digits.all Decimal.isDigit = true ∧ Decimal.value digits = n)
    (hlimit : n ≤ lengthLimit) :
    framing? [⟨"content-length", .ofList digits⟩] = some (.length n) := by
  obtain ⟨hne, hall, rfl⟩ := hdigits
  have hcodings : optionsOf "transfer-encoding" [⟨"content-length", .ofList digits⟩] = [] := rfl
  have hnumber : Decimal.numberUpTo? lengthLimit digits = some (Decimal.value digits) := by
    simp [Decimal.numberUpTo?, Decimal.number?, hne, hall, hlimit]
  simp only [framing?, hcodings, List.getLast?_nil, valuesOf_eq, List.all_nil, if_true,
    String.toList_ofList, hnumber, Option.map_some]

theorem framing?_chunked {coding : List Char}
    (hcoding : coding.map Text.lowerAscii = "chunked".toList) :
    framing? [⟨"transfer-encoding", .ofList coding⟩] = some .chunked := by
  have htoken : isToken coding = true := isToken_of_lowerAscii (by rw [hcoding]; decide)
  have hcomma : ',' ∉ coding := fun hmem => ((plain_of_isToken htoken).2 _ hmem).2 rfl
  have htrim : trim ([] ++ coding ++ []) = coding := trim_option htoken rfl rfl
  rw [List.nil_append, List.append_nil] at htrim
  have hoptions : optionsOf "transfer-encoding" [⟨"transfer-encoding", .ofList coding⟩] =
      ["chunked".toList] := by
    rw [optionsOf, valuesOf_eq, List.flatMap_singleton, String.toList_ofList,
      Text.splitAtEach_of_not_mem hcomma, List.map_singleton, htrim, hcoding]
  simp only [framing?, hoptions, List.getLast?_singleton, beq_self_eq_true, if_true]

/-- The framing of a body is the one that it is announced with. -/
theorem WrittenBody.readsFields {body announced bytes : List UInt8}
    (h : WrittenBody body announced bytes) :
    ∃ lines fields framing, ReadsFields announced lines fields ∧
      framing? fields = some framing ∧ Framed framing body bytes ∧
      optionsOf "connection" fields = [] := by
  cases h with
  | none => exact ⟨[], [], .length 0, .nil, rfl, .length [], rfl⟩
  | @length digits _ _ hdigits hlimit hfield =>
    have hvisible : ∀ c ∈ digits, IsVisible c := fun c hc =>
      isVisible_of_isDigit (List.all_eq_true.mp hdigits.2.1 c hc)
    obtain ⟨line, hline⟩ := hfield.readsFields_of_isVisible (by decide) hvisible
    exact ⟨_, _, _, hline, framing?_length hdigits hlimit, .length _, rfl⟩
  | @chunked coding _ _ _ hcoding hfield hchunks =>
    have htoken : isToken coding = true := isToken_of_lowerAscii (by rw [hcoding]; decide)
    obtain ⟨line, hline⟩ := hfield.readsFields_of_isVisible (by decide)
      fun c hc => ((plain_of_isToken htoken).2 c hc).1
    exact ⟨_, _, _, hline, framing?_chunked hcoding, .chunked hchunks, rfl⟩

end Reachability.Service
