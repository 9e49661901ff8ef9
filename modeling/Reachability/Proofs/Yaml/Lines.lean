import Reachability.Proofs.Yaml.Words

/-!
# The tokens of a block mapping

The lexer stands at the margin, or behind a key that waits for its colon, or behind that. Each
line takes it through a few steps and back to the margin, and what it lets go of on the way are
the tokens of the line.
-/
namespace Reachability.Yaml

namespace Lexer

/-- A lexer outside of brackets that has let go of its tokens, in front of a block mapping at the
margin or inside it. -/
def idle (isInside : Bool) (rest : List Char) (mark : Mark) (released : Nat)
    (isKeyAllowed : Bool) : Lexer where
  cursor := ⟨rest, mark⟩
  released
  indent := if isInside then 0 else -1
  outerIndents := if isInside then [-1] else []
  isKeyAllowed

def BeginsToken (x : Char) : Prop := endsWord (some x) = false ∧ x ≠ '#' ∧ x ≠ '\ufeff'

instance : DecidablePred BeginsToken := fun _ => inferInstanceAs (Decidable (_ ∧ _))

theorem skipToToken_eq_self {l : Lexer} {x : Char} {rest : List Char}
    (h : l.cursor.rest = x :: rest) (hx : BeginsToken x) (fuel : Nat) :
    l.skipToToken (fuel + 1) = l := by
  obtain ⟨⟨_, mark⟩, queue, released, keys, indent, outer, allowed⟩ := l
  obtain rfl : _ = x :: rest := h
  obtain ⟨hends, hhash, hmark⟩ := hx
  simp only [endsWord, Bool.or_eq_false_iff, isSpace, beq_eq_false_iff_ne] at hends
  obtain ⟨⟨hspace, htab⟩, hbreak⟩ := hends
  simp [skipToToken, Cursor.isAt, Cursor.head?, hmark, Cursor.skipWhile, Cursor.takeWhile, hspace,
    htab, Cursor.skip, hhash, Cursor.takeBreak?_eq_none hbreak]

theorem skipToToken_space {l : Lexer} {x : Char} {rest : List Char}
    (h : l.cursor.rest = ' ' :: x :: rest) (hx : BeginsToken x) (fuel : Nat) :
    l.skipToToken (fuel + 1) = { l with cursor := l.cursor.skip } := by
  obtain ⟨⟨_, mark⟩, queue, released, keys, indent, outer, allowed⟩ := l
  obtain rfl : _ = ' ' :: x :: rest := h
  obtain ⟨hends, hhash, -⟩ := hx
  simp only [endsWord, Bool.or_eq_false_iff, isSpace, beq_eq_false_iff_ne] at hends
  obtain ⟨⟨hspace, htab⟩, hbreak⟩ := hends
  simp [skipToToken, Cursor.isAt, Cursor.head?, Cursor.skipWhile, Cursor.takeWhile, hspace, htab,
    Cursor.skip, hhash, Cursor.takeBreak?_eq_none hbreak]

/-- At the end of a line a step begins with the next one, where a key may begin. -/
theorem step_break (isInside : Bool) (rest : List Char) (mark : Mark) (released : Nat)
    (isKeyAllowed : Bool) :
    (idle isInside ('\n' :: rest) mark released isKeyAllowed).step =
      (idle isInside rest (Cursor.newLine mark 1) released true).step := by
  have hskip : (idle isInside ('\n' :: rest) mark released isKeyAllowed).skipToToken
        (rest.length + 2) =
      (idle isInside rest (Cursor.newLine mark 1) released true).skipToToken
        (rest.length + 1) := by
    rw [skipToToken]
    simp [idle, Cursor.isAt, Cursor.head?, Cursor.skipWhile, Cursor.takeWhile, Cursor.skip,
      Cursor.takeBreak?, isFlow, isBreak]
  unfold step
  rw [show (idle isInside ('\n' :: rest) mark released isKeyAllowed).cursor.rest.length + 1 =
    rest.length + 2 from rfl, hskip]
  rfl

theorem beginsToken_of_isAlphanum {x : Char} (hx : x.isAlphanum = true) : BeginsToken x :=
  ⟨endsWord_of_isAlphanum hx, ne_of_isAlphanum hx (by decide), ne_of_isAlphanum hx (by decide)⟩

theorem take_of_isAlphanum {l : Lexer} {x : Char} (hx : x.isAlphanum = true)
    (h : l.cursor.head? = some x) : l.take x = l.plain := by
  have hne (y : Char) (hy : y.isAlphanum = false) : x ≠ y := ne_of_isAlphanum hx hy
  have hline (y : Char) (hy : y.isAlphanum = false) : l.cursor.isLineOf y = false :=
    Cursor.isLineOf_of_isAlphanum hx h hy
  have hbegins (next : Option Char) : l.beginsPlain x next = true := by
    simp [beginsPlain, endsWord_of_isAlphanum hx, hne]
  simp [take, hne, hline, hbegins]

def behind (mark : Mark) (width : Nat) : Mark :=
  { mark with index := mark.index + width, column := mark.column + width }

/-- A lexer that has read a word which may be a key. -/
def expectant (isInside : Bool) (key rest : List Char) (mark : Mark) (released : Nat) : Lexer :=
  { idle isInside rest (behind mark key.length) released false with
    queue := [⟨plainKind key, mark, behind mark key.length⟩]
    keys := [some ⟨isInside, released, mark⟩] }

theorem close_eq_self {l : Lexer} {column : Int} (h : l.indent ≤ column) : l.close column = l := by
  unfold close
  split
  · rfl
  · cases l.outerIndents with
    | nil => rfl
    | cons outer more => rw [close.go, if_neg (Int.not_lt.mpr h)]

theorem indent_le (isInside : Bool) (column : Nat) :
    (if isInside then 0 else -1 : Int) ≤ column := by
  cases isInside with
  | false => exact Int.le_trans (by decide) (Int.natCast_nonneg column)
  | true => exact Int.natCast_nonneg column

theorem step_eq {l l' : Lexer} {x : Char}
    (hskip : l.skipToToken (l.cursor.rest.length + 1) = l') (hdrop : l'.dropStale = .ok l')
    (hindent : l'.indent ≤ l'.mark.column) (hx : l'.cursor.head? = some x) :
    l.step = l'.take x := by
  simp only [step, hskip, hdrop, bind, Except.bind, close_eq_self hindent, hx]

theorem dropStale_of_keys {l : Lexer} (h : l.keys = [none]) : l.dropStale = .ok l := by
  obtain ⟨cursor, queue, released, _, indent, outer, allowed⟩ := l
  obtain rfl : _ = [none] := h
  rfl

theorem dropStale_expectant (isInside : Bool) {key : List Char} (hlength : key.length ≤ 1024)
    (rest : List Char) (mark : Mark) (released : Nat) :
    (expectant isInside key rest mark released).dropStale =
      .ok (expectant isInside key rest mark released) := by
  have hindex : ¬ mark.index + 1024 < mark.index + key.length := by omega
  simp [dropStale, expectant, freshKeys, isStale, Lexer.mark, idle, behind, hindex, bind,
    Except.bind, pure, Except.pure]

theorem saveKey_idle (isInside : Bool) (rest : List Char) (mark : Mark) (released : Nat) :
    (idle isInside rest mark released true).saveKey =
      .ok { idle isInside rest mark released true with
        keys := [some ⟨isInside && mark.column == 0, released, mark⟩] } := by
  have hrequired : ((if isInside then 0 else -1 : Int) == (mark.column : Int)) =
      (isInside && mark.column == 0) := by
    cases isInside with
    | false =>
      have hcolumn : (-1 : Int) ≠ mark.column := by omega
      simp [hcolumn]
    | true => simp [eq_comm, Bool.beq_eq_decide_eq]
  simp [saveKey, dropKey, isFlow, idle, bind, Except.bind, pure, Except.pure, Lexer.mark, hrequired]

theorem plain_eq {l l' : Lexer} {token : Token} {hasBreak : Bool} {after : Cursor}
    (hsave : l.saveKey = .ok l') (hflow : l'.isFlow = false)
    (hread : Token.plain false (l'.indent + 1).toNat l'.cursor = .ok (token, hasBreak, after)) :
    l.plain = .ok { l' with isKeyAllowed := hasBreak, queue := l'.queue ++ [token]
                            cursor := after } := by
  simp only [plain, hsave, bind, Except.bind, hflow, hread]
  rfl

theorem step_key (isInside : Bool) {key rest : List Char} (hkey : IsWord key)
    (hlength : key.length ≤ 1024) {y : Char} (hy : endsWord (some y) = true) {mark : Mark}
    (hmark : mark.column = 0) (released : Nat) :
    (idle isInside (key ++ ':' :: y :: rest) mark released true).step >>= dropStale =
      .ok (expectant isInside key (':' :: y :: rest) mark released) := by
  obtain ⟨x, hhead, hx⟩ := hkey.head?_append (':' :: y :: rest)
  have hskip := skipToToken_eq_self
    (l := idle isInside (key ++ ':' :: y :: rest) mark released true)
    (List.eq_cons_of_mem_head? hhead) (beginsToken_of_isAlphanum hx)
  have htake := take_of_isAlphanum (l := idle isInside (key ++ ':' :: y :: rest) mark released true)
    hx hhead
  rw [step_eq (hskip _) (dropStale_of_keys rfl) (indent_le isInside _) hhead, htake,
    plain_eq (saveKey_idle ..) rfl (Token.plain_before_colon hkey _ mark hy)]
  have hexpectant := dropStale_expectant isInside hlength (':' :: y :: rest) mark released
  simpa [expectant, hmark, idle, Cursor.skip, behind, bind, Except.bind] using hexpectant

/-- The tokens of a key and its colon, and of the start of the mapping if it is the first one. -/
def keyTokens (isInside : Bool) (key : List Char) (mark : Mark) : List Token :=
  let colon := behind mark key.length
  (if isInside then [] else [⟨.blockMappingStart, mark, mark⟩]) ++
    [⟨.key, mark, mark⟩, ⟨plainKind key, mark, colon⟩, ⟨.value, colon, behind colon 1⟩]

theorem step_colon (isInside : Bool) {key : List Char} (hlength : key.length ≤ 1024)
    (rest : List Char) {y : Char} (hy : endsWord (some y) = true) {mark : Mark}
    (hmark : mark.column = 0) (released : Nat) :
    (expectant isInside key (':' :: y :: rest) mark released).step >>= dropStale =
      .ok { idle true (y :: rest) (behind (behind mark key.length) 1) released false with
        queue := keyTokens isInside key mark } := by
  have hskip := skipToToken_eq_self (l := expectant isInside key (':' :: y :: rest) mark released)
    rfl (x := ':') (by decide)
  rw [step_eq (hskip _) (dropStale_expectant isInside hlength ..) (indent_le isInside _) rfl]
  have hdash : (expectant isInside key (':' :: y :: rest) mark released).cursor.isLineOf '-' =
      false := Cursor.isLineOf_of_head (show some ':' ≠ some '-' by decide)
  have hdot : (expectant isInside key (':' :: y :: rest) mark released).cursor.isLineOf '.' =
      false := Cursor.isLineOf_of_head (show some ':' ≠ some '.' by decide)
  have hnext : (expectant isInside key (':' :: y :: rest) mark released).cursor.at? 1 =
      some y := rfl
  simp only [take, hdash, hdot, hnext, hy]
  cases isInside with
  | false =>
    simp [value, expectant, insert, openBlock, isFlow, indicator, push, idle, Cursor.skip, bind,
      Except.bind, pure, Except.pure, dropStale, freshKeys, keyTokens, behind, hmark, Lexer.mark]
  | true =>
    simp [value, expectant, insert, openBlock, isFlow, indicator, push, idle, Cursor.skip, bind,
      Except.bind, pure, Except.pure, dropStale, freshKeys, keyTokens, behind, hmark, Lexer.mark]

/-- A word behind a blank is read to the end of its line. -/
theorem step_word {word rest : List Char} (hword : IsWord word)
    (hrest : BeginsLine rest) (mark : Mark) (released : Nat) (isKeyAllowed : Bool) :
    ∃ finish line : Mark, line.column = 0 ∧
      (idle true (' ' :: (word ++ '\n' :: rest)) mark released isKeyAllowed).step >>= dropStale =
        .ok { idle true rest line released true with
          queue := [⟨plainKind word, behind mark 1, finish⟩] } := by
  obtain ⟨x, hhead, hx⟩ := hword.head?_append ('\n' :: rest)
  have hskip := skipToToken_space
    (l := idle true (' ' :: (word ++ '\n' :: rest)) mark released isKeyAllowed)
    (congrArg (' ' :: ·) (List.eq_cons_of_mem_head? hhead)) (beginsToken_of_isAlphanum hx)
  have htake := take_of_isAlphanum
    (l := idle true (word ++ '\n' :: rest) (behind mark 1) released isKeyAllowed) hx hhead
  obtain ⟨finish, hread⟩ := Token.plain_before_break hword Nat.zero_lt_one (behind mark 1) hrest
  refine ⟨finish, Cursor.newLine (behind (behind mark 1) word.length) 1, rfl, ?_⟩
  have hstep : (idle true (' ' :: (word ++ '\n' :: rest)) mark released isKeyAllowed).step =
      (idle true (word ++ '\n' :: rest) (behind mark 1) released isKeyAllowed).take x :=
    step_eq (hskip _) (dropStale_of_keys rfl) (indent_le true _) hhead
  rw [hstep, htake]
  cases isKeyAllowed with
  | false =>
    have hsave : (idle true (word ++ '\n' :: rest) (behind mark 1) released false).saveKey =
        .ok (idle true (word ++ '\n' :: rest) (behind mark 1) released false) := rfl
    rw [plain_eq hsave rfl hread]
    rfl
  | true =>
    have hread' := plain_eq (saveKey_idle true (word ++ '\n' :: rest) (behind mark 1) released) rfl
      hread
    rw [hread']
    simp [dropStale, freshKeys, isStale, Lexer.mark, idle, behind, Cursor.newLine, Cursor.skip,
      bind, Except.bind, pure, Except.pure]

theorem step_dash (rest : List Char) {mark : Mark} (hmark : mark.column = 0) (released : Nat) :
    (idle true ('-' :: ' ' :: rest) mark released true).step >>= dropStale =
      .ok { idle true (' ' :: rest) (behind mark 1) released true with
        queue := [⟨.blockEntry, mark, behind mark 1⟩] } := by
  have hskip := skipToToken_eq_self (l := idle true ('-' :: ' ' :: rest) mark released true)
    rfl (x := '-') (by decide)
  rw [step_eq (hskip _) (dropStale_of_keys rfl) (indent_le true _) rfl]
  have hdash : (idle true ('-' :: ' ' :: rest) mark released true).cursor.isLineOf '-' = false := by
    simp [idle, Cursor.isLineOf]
  have hdot : (idle true ('-' :: ' ' :: rest) mark released true).cursor.isLineOf '.' = false :=
    Cursor.isLineOf_of_head (show some '-' ≠ some '.' by decide)
  have hnext : (idle true ('-' :: ' ' :: rest) mark released true).cursor.at? 1 = some ' ' := rfl
  simp only [take, hdash, hdot, hnext]
  simp [blockEntry, openBlock, dropKey, isFlow, indicator, push, idle, Cursor.skip, bind,
    Except.bind, pure, Except.pure, dropStale, freshKeys, behind, hmark, Lexer.mark, endsWord,
    isSpace]

/-- The end of the text closes the mapping. -/
theorem step_end {mark : Mark} (hmark : mark.column = 0) (released : Nat) :
    (idle true [] mark released true).step >>= dropStale =
      .ok { idle false [] mark released false with
        queue := [⟨.blockEnd, mark, mark⟩, ⟨.streamEnd, mark, mark⟩] } := by
  obtain ⟨index, line, column⟩ := mark
  obtain rfl : column = 0 := hmark
  simp [step, skipToToken, streamEnd, close, close.go, dropKey, isFlow, push, idle, Cursor.skip,
    Cursor.isAt, Cursor.head?, Cursor.skipWhile, Cursor.takeWhile, Cursor.takeBreak?, bind,
    Except.bind, pure, Except.pure, dropStale, freshKeys, Lexer.mark]

/-! ## Runs -/

theorem run_congr {l l' : Lexer} (h : l.step = l'.step) (fuel : Nat) :
    run fuel l = run fuel l' := by
  cases fuel with
  | zero => rfl
  | succ fuel => rw [run, run, h]

theorem release_go_of_keys {l : Lexer} (h : l.keys = [none]) (queue : List Token) :
    release.go queue l =
      (queue, { l with queue := [], released := l.released + queue.length }) := by
  induction queue generalizing l with
  | nil => rfl
  | cons token queue ih =>
    have hwaiting : l.isWaiting = false := by simp [isWaiting, h]
    have htail := ih (l := { l with released := l.released + 1 }) h
    rw [release.go, hwaiting, if_neg Bool.false_ne_true, htail]
    simp [Nat.add_comm, Nat.add_left_comm]

theorem release_expectant (isInside : Bool) (key rest : List Char) (mark : Mark) (released : Nat) :
    (expectant isInside key rest mark released).release =
      ([], expectant isInside key rest mark released) := by
  simp [release, release.go, expectant, isWaiting, idle]

/-- Holds if a lexer lets go of tokens of these kinds on its way to another one, in no more steps
than there are characters between the two. -/
def Scans (l : Lexer) (kinds : List TokenKind) (l' : Lexer) : Prop :=
  ∃ (tokens : List Token) (steps : Nat), tokens.map (·.kind) = kinds ∧
    l'.cursor.rest.length + steps ≤ l.cursor.rest.length ∧
    ∀ fuel, run (fuel + steps) l = (tokens ++ (run fuel l').1, (run fuel l').2)

theorem Scans.refl (l : Lexer) : Scans l [] l := ⟨[], 0, rfl, Nat.le_refl _, fun _ => rfl⟩

theorem Scans.trans {l l' l'' : Lexer} {kinds kinds' : List TokenKind} (h : Scans l kinds l')
    (h' : Scans l' kinds' l'') : Scans l (kinds ++ kinds') l'' := by
  obtain ⟨tokens, steps, rfl, hlength, hrun⟩ := h
  obtain ⟨tokens', steps', rfl, hlength', hrun'⟩ := h'
  refine ⟨tokens ++ tokens', steps' + steps, List.map_append, by omega, ?_⟩
  intro fuel
  rw [← Nat.add_assoc, hrun, hrun', List.append_assoc]

theorem Scans.of_step {l m l' : Lexer} {tokens : List Token}
    (hstep : l.step >>= dropStale = .ok m) (hrelease : m.release = (tokens, l'))
    (hend : ∀ t ∈ tokens, t.kind ≠ .streamEnd)
    (hlength : l'.cursor.rest.length < l.cursor.rest.length) :
    Scans l (tokens.map (·.kind)) l' := by
  have hnone : tokens.any (·.kind == .streamEnd) = false := by simpa using hend
  refine ⟨tokens, 1, rfl, hlength, fun fuel => ?_⟩
  rw [run, hstep]
  simp only [hrelease, hnone]
  rfl

theorem Scans.of_break {isInside isKeyAllowed : Bool} {rest : List Char} {mark : Mark}
    {released : Nat} {kinds : List TokenKind} {l' : Lexer}
    (h : Scans (idle isInside rest (Cursor.newLine mark 1) released true) kinds l') :
    Scans (idle isInside ('\n' :: rest) mark released isKeyAllowed) kinds l' := by
  obtain ⟨tokens, steps, hkinds, hlength, hrun⟩ := h
  refine ⟨tokens, steps, hkinds, Nat.le_succ_of_le hlength, fun fuel => ?_⟩
  rw [run_congr (step_break isInside rest mark released isKeyAllowed), hrun]

theorem Scans.of_step_idle {l : Lexer} {isInside : Bool} {rest : List Char} {mark : Mark}
    {released : Nat} {isKeyAllowed : Bool} {tokens : List Token}
    (hstep : l.step >>= dropStale =
      .ok { idle isInside rest mark released isKeyAllowed with queue := tokens })
    (hend : ∀ t ∈ tokens, t.kind ≠ .streamEnd) (hlength : rest.length < l.cursor.rest.length) :
    Scans l (tokens.map (·.kind))
      (idle isInside rest mark (released + tokens.length) isKeyAllowed) :=
  .of_step hstep (release_go_of_keys rfl tokens) hend hlength

theorem scans_word {word rest : List Char} (hword : IsWord word) (hrest : BeginsLine rest)
    (mark : Mark) (released : Nat) (isKeyAllowed : Bool) :
    ∃ line released', line.column = 0 ∧
      Scans (idle true (' ' :: (word ++ '\n' :: rest)) mark released isKeyAllowed)
        [plainKind word] (idle true rest line released' true) := by
  obtain ⟨finish, line, hline, hstep⟩ := step_word hword hrest mark released isKeyAllowed
  refine ⟨line, _, hline, Scans.of_step_idle hstep ?_ ?_⟩
  · simp [plainKind]
  · simp [idle]
    omega

theorem beginsLine_items {items : List (List Char)} {rest : List Char} (hrest : BeginsLine rest) :
    BeginsLine (items.flatMap BlockValue.itemChars ++ rest) := by
  cases items with
  | nil => exact hrest
  | cons item items =>
    simp [BeginsLine, BlockValue.itemChars, endsWord, isSpace, isBreak, isSeparator]

theorem scans_items {items : List (List Char)} (hitems : ∀ item ∈ items, IsWord item)
    {rest : List Char} (hrest : BeginsLine rest) {mark : Mark} (hmark : mark.column = 0)
    (released : Nat) :
    ∃ line released', line.column = 0 ∧
      Scans (idle true (items.flatMap BlockValue.itemChars ++ rest) mark released true)
        (items.flatMap BlockValue.itemKinds) (idle true rest line released' true) := by
  induction items generalizing mark released with
  | nil => exact ⟨mark, released, hmark, .refl _⟩
  | cons item items ih =>
    obtain ⟨hitem, hitems⟩ := List.forall_mem_cons.mp hitems
    have hdash := Scans.of_step_idle
      (step_dash (item ++ '\n' :: (items.flatMap BlockValue.itemChars ++ rest)) hmark released)
      (by simp) (by simp [idle])
    obtain ⟨line, released', hline, hword⟩ :=
      scans_word hitem (beginsLine_items hrest) (behind mark 1) (released + 1) true
    obtain ⟨last, released'', hlast, htail⟩ := ih hitems hline released'
    refine ⟨last, released'', hlast, ?_⟩
    simpa [BlockValue.itemChars, BlockValue.itemKinds] using hdash.trans (hword.trans htail)

theorem scans_value {v : BlockValue} (hv : v.HasWords) {rest : List Char} (hrest : BeginsLine rest)
    (mark : Mark) (released : Nat) :
    ∃ line released', line.column = 0 ∧
      Scans (idle true (v.chars ++ rest) mark released false) v.tokenKinds
        (idle true rest line released' true) := by
  cases v with
  | word cs =>
    have hword := scans_word hv hrest mark released false
    simpa [BlockValue.chars, BlockValue.tokenKinds] using hword
  | list items =>
    have hmargin : (Cursor.newLine mark 1).column = 0 := rfl
    obtain ⟨line, released', hline, h⟩ := scans_items hv hrest hmargin released
    exact ⟨line, released', hline, h.of_break⟩

def entryKinds (isInside : Bool) (e : BlockEntry) : List TokenKind :=
  (if isInside then [] else [.blockMappingStart]) ++ e.tokenKinds

theorem scans_entry (isInside : Bool) {e : BlockEntry} (he : e.IsPlain) {rest : List Char}
    (hrest : BeginsLine rest) {mark : Mark} (hmark : mark.column = 0) (released : Nat) :
    ∃ line released', line.column = 0 ∧
      Scans (idle isInside (e.chars ++ rest) mark released true) (entryKinds isInside e)
        (idle true rest line released' true) := by
  obtain ⟨key, v⟩ := e
  obtain ⟨hkey, hlength, hv⟩ := he
  obtain ⟨y, more, hmore, hy⟩ :
      ∃ y more, v.chars ++ rest = y :: more ∧ endsWord (some y) = true := by
    cases v <;> exact ⟨_, _, rfl, rfl⟩
  have hfirst : Scans (idle isInside (key ++ ':' :: y :: more) mark released true) []
      (expectant isInside key (':' :: y :: more) mark released) := by
    have hpos := List.length_pos_iff.mpr hkey.ne_nil
    refine Scans.of_step (step_key isInside hkey hlength hy hmark released)
      (release_expectant ..) (by simp) ?_
    simp [expectant, idle]
    omega
  have hcolon := Scans.of_step_idle (step_colon isInside hlength more hy hmark released)
    (by cases isInside <;> simp [keyTokens, plainKind]) (by simp [expectant, idle])
  obtain ⟨line, released', hline, hvalue⟩ := scans_value hv hrest
    (behind (behind mark key.length) 1) (released + (keyTokens isInside key mark).length)
  refine ⟨line, released', hline, ?_⟩
  have hall := hfirst.trans (hcolon.trans (hmore ▸ hvalue))
  have hkinds : [] ++ ((keyTokens isInside key mark).map (·.kind) ++ v.tokenKinds) =
      entryKinds isInside ⟨key, v⟩ := by
    cases isInside <;> rfl
  have hchars : (BlockEntry.mk key v).chars ++ rest = key ++ ':' :: y :: more := by
    simp [BlockEntry.chars, hmore]
  rw [hchars, ← hkinds]
  exact hall

theorem beginsLine_entries {es : List BlockEntry} (hes : ∀ e ∈ es, e.IsPlain) :
    BeginsLine (es.flatMap BlockEntry.chars) := by
  cases es with
  | nil => simp [BeginsLine]
  | cons e es =>
    obtain ⟨x, hhead, hx⟩ := BlockEntry.head?_entries (hes e List.mem_cons_self) es
    intro c hc
    rw [hhead] at hc
    obtain rfl := Option.mem_some_iff.mp hc
    exact endsWord_of_isAlphanum hx

theorem scans_entries {es : List BlockEntry} (hes : ∀ e ∈ es, e.IsPlain) {mark : Mark}
    (hmark : mark.column = 0) (released : Nat) :
    ∃ line released', line.column = 0 ∧
      Scans (idle true (es.flatMap BlockEntry.chars) mark released true)
        (es.flatMap BlockEntry.tokenKinds) (idle true [] line released' true) := by
  induction es generalizing mark released with
  | nil => exact ⟨mark, released, hmark, .refl _⟩
  | cons e es ih =>
    obtain ⟨he, hes⟩ := List.forall_mem_cons.mp hes
    obtain ⟨line, released', hline, hentry⟩ :=
      scans_entry true he (beginsLine_entries hes) hmark released
    obtain ⟨last, released'', hlast, htail⟩ := ih hes hline released'
    exact ⟨last, released'', hlast, hentry.trans htail⟩

end Lexer

/-- The tokens of a block mapping at the margin. -/
theorem Token.scan_entries {e : BlockEntry} {es : List BlockEntry}
    (hes : ∀ entry ∈ e :: es, entry.IsPlain) :
    ∃ tokens, Token.scan ((e :: es).flatMap BlockEntry.chars) = (tokens, none) ∧
      tokens.map (·.kind) = .blockMappingStart ::
        (e :: es).flatMap BlockEntry.tokenKinds ++ [.blockEnd, .streamEnd] := by
  obtain ⟨he, hes⟩ := List.forall_mem_cons.mp hes
  have hmargin : ({} : Mark).column = 0 := rfl
  obtain ⟨line, released, hline, hfirst⟩ :=
    Lexer.scans_entry false he (Lexer.beginsLine_entries hes) hmargin 0
  obtain ⟨last, released', hlast, hmore⟩ := Lexer.scans_entries hes hline released
  obtain ⟨tokens, steps, hkinds, hlength, hrun⟩ := hfirst.trans hmore
  obtain ⟨fuel, hfuel⟩ : ∃ fuel, ((e :: es).flatMap BlockEntry.chars).length + 2 =
      (fuel + 1) + steps := by
    refine ⟨((e :: es).flatMap BlockEntry.chars).length + 1 - steps, ?_⟩
    simp only [Lexer.idle, List.length_nil, Nat.zero_add, List.flatMap_cons] at hlength ⊢
    omega
  have hend : Lexer.run (fuel + 1) (Lexer.idle true [] last released' true) =
      ([⟨.blockEnd, last, last⟩, ⟨.streamEnd, last, last⟩], none) := by
    rw [Lexer.run, Lexer.step_end hlast]
    rfl
  refine ⟨tokens ++ [⟨.blockEnd, last, last⟩, ⟨.streamEnd, last, last⟩], ?_, ?_⟩
  · have hrun' := hrun (fuel + 1)
    rw [hend, ← hfuel] at hrun'
    exact hrun'
  · rw [List.map_append, hkinds]
    simp [Lexer.entryKinds]

end Reachability.Yaml
