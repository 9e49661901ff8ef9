import Reachability.Proofs.Yaml.Lines

/-!
# The nodes of a block mapping

Each part of the grammar takes the tokens of what it reads and leaves those behind them. The
events that it adds have no anchors, so that every one of them becomes a node.
-/
namespace Reachability.Yaml

def plainScalar (cs : List Char) : Scalar := { text := .ofList cs }

/-- The node that an event without an anchor becomes. -/
def EventKind.node? : EventKind → Option NodeKind
  | .scalar none value => some (.scalar value)
  | .sequenceStart none => some .sequenceStart
  | .sequenceEnd => some .sequenceEnd
  | .mappingStart none => some .mappingStart
  | .mappingEnd => some .mappingEnd
  | _ => none

/-- The nodes of a value. Nothing at all is an empty scalar. -/
def BlockValue.nodeKinds : BlockValue → List NodeKind
  | .word cs => [.scalar (plainScalar cs)]
  | .list [] => [.scalar .empty]
  | .list items => .sequenceStart :: items.map (fun item => .scalar (plainScalar item)) ++
      [.sequenceEnd]

def BlockEntry.nodeKinds (e : BlockEntry) : List NodeKind :=
  .scalar (plainScalar e.key) :: e.value.nodeKinds

def mappingKinds (es : List BlockEntry) : List NodeKind :=
  .mappingStart :: es.flatMap BlockEntry.nodeKinds ++ [.mappingEnd]

namespace Build

theorem run_bind {α β : Type} {x : Build α} {f : α → Build β} {b b' : Builder} {a : α}
    (h : x.run.run b = (.ok a, b')) : (x >>= f).run.run b = (f a).run.run b' := by
  rw [ExceptT.run_bind, StateT.run_bind, h]
  rfl

theorem run_peek {b : Builder} {token : Token} {tokens : List Token}
    (h : b.tokens = token :: tokens) : peek.run.run b = (.ok token, b) := by
  obtain ⟨_, fault, events, handles⟩ := b
  obtain rfl : _ = token :: tokens := h
  rfl

theorem run_second {b : Builder} {first token : Token} {tokens : List Token}
    (h : b.tokens = first :: token :: tokens) :
    second.run.run b = (.ok token, { b with tokens := token :: tokens }) := by
  obtain ⟨_, fault, events, handles⟩ := b
  obtain rfl : _ = first :: token :: tokens := h
  rfl

theorem run_modify (f : Builder → Builder) (b : Builder) :
    (modify f : Build Unit).run.run b = (.ok (), f b) := rfl

/-- Holds if a part of the grammar takes some tokens that stand in front of others, and adds
events that become nodes of these kinds. -/
def Takes (x : Build Unit) (tokens behind : List Token) (kinds : List NodeKind) : Prop :=
  ∀ b : Builder, b.tokens = tokens ++ behind → ∃ events : List Event,
    x.run.run b = (.ok (), { b with tokens := behind, events := events.reverse ++ b.events }) ∧
    events.map (·.kind.node?) = kinds.map some

theorem Takes.bind {x y : Build Unit} {tokens tokens' behind : List Token}
    {kinds kinds' : List NodeKind} (h : Takes x tokens (tokens' ++ behind) kinds)
    (h' : Takes y tokens' behind kinds') :
    Takes (x >>= fun _ => y) (tokens ++ tokens') behind (kinds ++ kinds') := by
  intro b hb
  obtain ⟨events, hrun, hevents⟩ := h b (by rw [hb, List.append_assoc])
  obtain ⟨events', hrun', hevents'⟩ :=
    h' { b with tokens := tokens' ++ behind, events := events.reverse ++ b.events } rfl
  refine ⟨events ++ events', ?_, by simp [hevents, hevents']⟩
  rw [run_bind hrun, hrun']
  simp

theorem takes_node_scalar (isBlock mayBeIndentless : Bool) (fuel : Nat) {token : Token}
    {cs : List Char} (h : token.kind = plainKind cs) (behind : List Token) :
    Takes (node isBlock mayBeIndentless (fuel + 1)) [token] behind [.scalar (plainScalar cs)] := by
  obtain ⟨kind, start, finish⟩ := token
  obtain rfl : kind = plainKind cs := h
  rintro ⟨_, fault, events, handles⟩ hb
  obtain rfl : _ = _ :: behind := hb
  refine ⟨[⟨.scalar none (plainScalar cs), start⟩], ?_, rfl⟩
  rw [node, run_bind (run_peek rfl)]
  rfl

/-- Holds of a token behind a sequence that shares the indentation of the mapping around it. -/
def EndsValue (token : Token) : Prop := token.kind = .key ∨ token.kind = .blockEnd

theorem takes_indentlessSequence {items : List (List Char)} {tokens : List Token}
    (htokens : tokens.map (·.kind) = items.flatMap BlockValue.itemKinds)
    {next : Token} (hnext : EndsValue next) (more : List Token) {fuel : Nat}
    (hfuel : items.length < fuel) :
    Takes (indentlessSequence fuel) tokens (next :: more)
      (items.map (fun item => .scalar (plainScalar item)) ++ [.sequenceEnd]) := by
  obtain ⟨fuel, rfl⟩ := Nat.exists_eq_succ_of_ne_zero (Nat.ne_zero_of_lt hfuel)
  induction items generalizing tokens fuel with
  | nil =>
    obtain rfl := List.map_eq_nil_iff.mp htokens
    rintro ⟨_, fault, events, handles⟩ hb
    obtain rfl : _ = next :: more := hb
    refine ⟨[⟨.sequenceEnd, next.start⟩], ?_, rfl⟩
    rw [indentlessSequence, run_bind (run_peek rfl)]
    rcases hnext with h | h <;> rw [h] <;> rfl
  | cons item items ih =>
    obtain ⟨⟨_, start, finish⟩, _, rfl, rfl, hmore⟩ := List.map_eq_cons_iff.mp htokens
    obtain ⟨word, tokens, rfl, hword, hitems⟩ := List.map_eq_cons_iff.mp hmore
    obtain ⟨fuel, rfl⟩ := Nat.exists_eq_succ_of_ne_zero (show fuel ≠ 0 by simp at hfuel; omega)
    have htail := ih hitems fuel (by simpa using hfuel)
    have hentry := (takes_node_scalar true false fuel hword (tokens ++ next :: more)).bind htail
    rintro ⟨_, fault, events, handles⟩ hb
    obtain rfl : _ = _ :: word :: (tokens ++ next :: more) := hb
    obtain ⟨events', hrun, hevents⟩ :=
      hentry ⟨word :: (tokens ++ next :: more), fault, events, handles⟩ rfl
    refine ⟨events', ?_, hevents⟩
    rw [indentlessSequence, run_bind (run_peek rfl)]
    obtain ⟨kind, start', finish'⟩ := word
    obtain rfl : kind = plainKind item := hword
    exact hrun

theorem takes_node_value {v : BlockValue} (hv : v ≠ .list []) {tokens : List Token}
    (htokens : tokens.map (·.kind) = v.tokenKinds) {next : Token} (hnext : EndsValue next)
    (more : List Token) {fuel : Nat} (hfuel : tokens.length < fuel) :
    Takes (node true true (fuel + 1)) tokens (next :: more) v.nodeKinds := by
  cases v with
  | word cs =>
    obtain ⟨token, rfl, hkind⟩ := List.map_eq_singleton_iff.mp htokens
    exact takes_node_scalar true true fuel hkind (next :: more)
  | list items =>
    cases items with
    | nil => exact absurd rfl hv
    | cons item items =>
      have hlength : (item :: items).length < fuel := by
        have htwo := congrArg List.length htokens
        simp [BlockValue.tokenKinds, BlockValue.itemKinds, List.length_flatMap] at htwo
        rw [List.length_cons]
        omega
      have hsequence := takes_indentlessSequence htokens hnext more hlength
      obtain ⟨⟨_, start, finish⟩, tokens, rfl, rfl, -⟩ := List.map_eq_cons_iff.mp htokens
      rintro ⟨_, fault, events, handles⟩ hb
      obtain rfl : _ = _ :: (tokens ++ next :: more) := hb
      obtain ⟨events', hrun, hevents⟩ :=
        hsequence ⟨_, fault, ⟨.sequenceStart none, start⟩ :: events, handles⟩ rfl
      refine ⟨⟨.sequenceStart none, start⟩ :: events', ?_, ?_⟩
      · rw [node, run_bind (run_peek rfl), List.reverse_cons, List.append_assoc]
        exact hrun
      · exact congrArg (some NodeKind.sequenceStart :: ·) hevents

/-- An entry is read up to the next one, or up to the end of the mapping. -/
theorem run_entry {e : BlockEntry} {name : Token} (hname : name.kind = plainKind e.key)
    {tokens : List Token} (htokens : tokens.map (·.kind) = e.value.tokenKinds) {next : Token}
    (hnext : EndsValue next) (more : List Token) (start first last first' last' : Mark) {fuel : Nat}
    (hfuel : tokens.length < fuel) {b : Builder}
    (hb : b.tokens = ⟨.key, first, last⟩ :: name :: ⟨.value, first', last'⟩ ::
      (tokens ++ next :: more)) :
    ∃ events : List Event, (blockMapping start (fuel + 2)).run.run b =
        (blockMapping start (fuel + 1)).run.run
          { b with tokens := next :: more, events := events.reverse ++ b.events } ∧
      events.map (·.kind.node?) = e.nodeKinds.map some := by
  obtain ⟨_, fault, events, handles⟩ := b
  obtain rfl : _ = _ :: _ := hb
  have hkey := takes_node_scalar true true fuel hname
    (⟨.value, first', last'⟩ :: (tokens ++ next :: more))
  obtain ⟨kevents, hrun, hkevents⟩ := hkey ⟨_, fault, events, handles⟩ rfl
  obtain ⟨kind, first'', last''⟩ := name
  obtain rfl : kind = plainKind e.key := hname
  rw [blockMapping, run_bind (run_peek rfl)]
  dsimp only
  rw [run_bind (run_second rfl)]
  dsimp only [plainKind, List.cons_append, List.nil_append] at hrun ⊢
  rw [run_bind hrun, run_bind (run_peek rfl)]
  dsimp only
  -- The key has been read. A value with nothing in it has no token of its own, so that what
  -- follows decides between the two cases.
  obtain ⟨key, v⟩ := e
  by_cases habsent : v = .list []
  · subst habsent
    obtain rfl := List.map_eq_nil_iff.mp htokens
    refine ⟨kevents ++ [⟨.scalar none .empty, last'⟩], ?_, ?_⟩
    · dsimp only [List.nil_append]
      rw [run_bind (run_second rfl), List.reverse_append]
      rcases hnext with h | h <;> rw [h] <;> rfl
    · rw [List.map_append, hkevents]
      rfl
  · have hvalue := takes_node_value habsent htokens hnext more hfuel
    obtain ⟨vevents, hvrun, hvevents⟩ :=
      hvalue ⟨_, fault, kevents.reverse ++ events, handles⟩ rfl
    refine ⟨kevents ++ vevents, ?_, ?_⟩
    · calc
        _ = (node true true (fuel + 1) >>= fun _ => blockMapping start (fuel + 1)).run.run
              ⟨tokens ++ next :: more, fault, kevents.reverse ++ events, handles⟩ := by
          cases v with
          | word cs =>
            obtain ⟨⟨_, first, last⟩, _, rfl, rfl, -⟩ := List.map_eq_cons_iff.mp htokens
            rw [run_bind (run_second rfl)]
            rfl
          | list items =>
            cases items with
            | nil => exact absurd rfl habsent
            | cons item items =>
              obtain ⟨⟨_, first, last⟩, _, rfl, rfl, -⟩ := List.map_eq_cons_iff.mp htokens
              rw [run_bind (run_second rfl)]
              rfl
        _ = _ := by rw [run_bind hvrun, List.reverse_append, List.append_assoc]
    · rw [List.map_append, hkevents, hvevents]
      rfl

theorem exists_endsValue {es : List BlockEntry} {tokens : List Token}
    (htokens : tokens.map (·.kind) = es.flatMap BlockEntry.tokenKinds ++ [.blockEnd]) :
    ∃ next more, tokens = next :: more ∧ EndsValue next := by
  cases es with
  | nil =>
    obtain ⟨next, more, rfl, hnext, -⟩ := List.map_eq_cons_iff.mp htokens
    exact ⟨next, more, rfl, .inr hnext⟩
  | cons e es =>
    obtain ⟨next, more, rfl, hnext, -⟩ := List.map_eq_cons_iff.mp htokens
    exact ⟨next, more, rfl, .inl hnext⟩

theorem takes_blockMapping {es : List BlockEntry} {tokens : List Token}
    (htokens : tokens.map (·.kind) = es.flatMap BlockEntry.tokenKinds ++ [.blockEnd])
    (start : Mark) (behind : List Token) {fuel : Nat} (hfuel : tokens.length < fuel) :
    Takes (blockMapping start fuel) tokens behind
      (es.flatMap BlockEntry.nodeKinds ++ [.mappingEnd]) := by
  obtain ⟨fuel, rfl⟩ := Nat.exists_eq_succ_of_ne_zero (Nat.ne_zero_of_lt hfuel)
  induction es generalizing tokens fuel with
  | nil =>
    obtain ⟨⟨_, first, last⟩, rfl, rfl⟩ := List.map_eq_singleton_iff.mp htokens
    rintro ⟨_, fault, events, handles⟩ hb
    obtain rfl : _ = _ :: behind := hb
    refine ⟨[⟨.mappingEnd, first⟩], ?_, rfl⟩
    rw [blockMapping, run_bind (run_peek rfl)]
    rfl
  | cons e es ih =>
    rw [List.flatMap_cons, List.append_assoc] at htokens
    obtain ⟨⟨_, first, last⟩, _, rfl, rfl, hentry⟩ := List.map_eq_cons_iff.mp htokens
    obtain ⟨name, _, rfl, hname, hcolon⟩ := List.map_eq_cons_iff.mp hentry
    obtain ⟨⟨_, first', last'⟩, _, rfl, rfl, hrest⟩ := List.map_eq_cons_iff.mp hcolon
    obtain ⟨value, tail, rfl, hvalue, htail⟩ := List.map_eq_append_iff.mp hrest
    obtain ⟨next, more, rfl, hnext⟩ := exists_endsValue htail
    obtain ⟨fuel, rfl⟩ := Nat.exists_eq_succ_of_ne_zero (show fuel ≠ 0 by simp at hfuel; omega)
    simp only [List.length_cons, List.length_append] at hfuel
    intro b hb
    rw [List.cons_append, List.cons_append, List.cons_append, List.append_assoc,
      List.cons_append] at hb
    obtain ⟨events, hrun, hevents⟩ := run_entry hname hvalue hnext (more ++ behind) start first last
      first' last' (show value.length < fuel by omega) hb
    obtain ⟨events', hrun', hevents'⟩ := ih htail fuel (by simp only [List.length_cons]; omega)
      { b with tokens := next :: (more ++ behind), events := events.reverse ++ b.events } rfl
    refine ⟨events ++ events', ?_, by simp [hevents, hevents']⟩
    rw [hrun, hrun', List.reverse_append, List.append_assoc]

theorem takes_node_mapping {es : List BlockEntry} {tokens : List Token}
    (htokens : tokens.map (·.kind) = es.flatMap BlockEntry.tokenKinds ++ [.blockEnd])
    (start finish : Mark) (behind : List Token) {fuel : Nat} (hfuel : tokens.length < fuel) :
    Takes (node true false (fuel + 1)) (⟨.blockMappingStart, start, finish⟩ :: tokens) behind
      (mappingKinds es) := by
  rintro ⟨_, fault, events, handles⟩ hb
  obtain rfl : _ = _ :: (tokens ++ behind) := hb
  obtain ⟨events', hrun, hevents⟩ := takes_blockMapping htokens start behind hfuel
    ⟨_, fault, ⟨.mappingStart none, start⟩ :: events, handles⟩ rfl
  refine ⟨⟨.mappingStart none, start⟩ :: events', ?_, ?_⟩
  · rw [node, run_bind (run_peek rfl), List.reverse_cons, List.append_assoc]
    exact hrun
  · exact congrArg (some NodeKind.mappingStart :: ·) hevents

theorem run_document {es : List BlockEntry} {tokens : List Token}
    (htokens : tokens.map (·.kind) =
      .blockMappingStart :: es.flatMap BlockEntry.tokenKinds ++ [.blockEnd, .streamEnd])
    (fault : Option Error) {fuel : Nat} (hfuel : tokens.length < fuel) :
    ∃ (events : List Event) (last : Token) (handles : List (String × String)),
      (document fuel).run.run { tokens, fault } =
        (.ok (), ⟨[last], fault, events.reverse, handles⟩) ∧
      last.kind = .streamEnd ∧ events.map (·.kind.node?) = (mappingKinds es).map some := by
  obtain ⟨⟨_, start, finish⟩, _, rfl, rfl, hrest⟩ := List.map_eq_cons_iff.mp htokens
  rw [List.append_eq, List.append_cons] at hrest
  obtain ⟨inner, _, rfl, hinner, hlast⟩ := List.map_eq_append_iff.mp hrest
  obtain ⟨⟨_, first, finish'⟩, rfl, rfl⟩ := List.map_eq_singleton_iff.mp hlast
  simp only [List.length_cons, List.length_append] at hfuel
  obtain ⟨fuel, rfl⟩ := Nat.exists_eq_succ_of_ne_zero (Nat.ne_zero_of_lt hfuel)
  obtain ⟨events, hrun, hevents⟩ := takes_node_mapping hinner start finish
    [⟨.streamEnd, first, finish'⟩] (show inner.length < fuel by omega)
    ⟨_, fault, [], defaultHandles⟩ rfl
  rw [List.append_nil] at hrun
  refine ⟨events, ⟨.streamEnd, first, finish'⟩, defaultHandles, ?_, rfl, hevents⟩
  rw [document, run_bind (run_peek rfl)]
  dsimp only
  rw [run_bind (run_modify _ _)]
  dsimp only [List.nil_append, List.cons_append] at hrun ⊢
  rw [run_bind hrun]
  rfl

end Build

namespace Document

theorem ofEvents_of_node? {events : List Event} {kinds : List NodeKind}
    (h : events.map (·.kind.node?) = kinds.map some) (names : Names) :
    ∃ nodes : List Node, ofEvents names events = (nodes, [], none) ∧
      nodes.map (·.kind) = kinds := by
  induction events generalizing kinds with
  | nil =>
    obtain rfl := List.map_eq_nil_iff.mp h.symm
    exact ⟨[], rfl, rfl⟩
  | cons event events ih =>
    obtain ⟨kind, kinds, rfl, hkind, hkinds⟩ := List.map_eq_cons_iff.mp h.symm
    obtain ⟨nodes, hnodes, rfl⟩ := ih hkinds.symm
    obtain ⟨eventKind, mark⟩ := event
    refine ⟨⟨kind, mark⟩ :: nodes, ?_, rfl⟩
    have hnode : nodeKind names mark eventKind = .ok (kind, none) := by
      replace hkind : eventKind.node? = some kind := hkind.symm
      unfold EventKind.node? at hkind
      split at hkind <;> cases hkind <;> rfl
    rw [ofEvents, hnode]
    dsimp only
    rw [hnodes]

theorem ofChars_entries {e : BlockEntry} {es : List BlockEntry}
    (hes : ∀ entry ∈ e :: es, entry.IsPlain) :
    ∃ nodes : List Node, nodes.map (·.kind) = mappingKinds (e :: es) ∧
      ofChars ((e :: es).flatMap BlockEntry.chars) = { nodes } := by
  obtain ⟨tokens, hscan, htokens⟩ := Token.scan_entries hes
  obtain ⟨events, ⟨_, start, finish⟩, handles, hrun, rfl, hevents⟩ :=
    Build.run_document htokens none (show tokens.length < 4 * tokens.length + 8 by omega)
  obtain ⟨nodes, hnodes, hkinds⟩ := ofEvents_of_node? hevents []
  refine ⟨nodes, hkinds, ?_⟩
  rw [ofChars, hscan]
  simp only [hrun, List.reverse_reverse, hnodes]
  rfl

theorem badOffset?_eq_none {cs : List Char} (h : ∀ c ∈ cs, mayHold c = true) (offset : Nat) :
    badOffset? offset cs = none := by
  induction cs generalizing offset with
  | nil => rfl
  | cons c cs ih =>
    obtain ⟨hc, hcs⟩ := List.forall_mem_cons.mp h
    rw [badOffset?, if_pos hc, ih hcs]

theorem mayHold_of_mem_value {v : BlockValue} (hv : v.HasWords) {c : Char} (hc : c ∈ v.chars) :
    mayHold c = true := by
  cases v with
  | word cs =>
    simp only [BlockValue.chars, List.mem_cons, List.mem_append, List.not_mem_nil, or_false] at hc
    rcases hc with rfl | hc | rfl
    · rfl
    · exact (hv.chars c hc).2
    · rfl
  | list items =>
    simp only [BlockValue.chars, BlockValue.itemChars, List.mem_cons, List.mem_flatMap,
      List.mem_append, List.not_mem_nil, or_false] at hc
    rcases hc with rfl | ⟨item, hitem, rfl | rfl | hc | rfl⟩
    · rfl
    · rfl
    · rfl
    · exact ((hv item hitem).chars c hc).2
    · rfl

theorem mayHold_of_mem_entry {e : BlockEntry} (he : e.IsPlain) {c : Char} (hc : c ∈ e.chars) :
    mayHold c = true := by
  rw [BlockEntry.chars, List.mem_append, List.mem_cons] at hc
  rcases hc with hc | rfl | hc
  · exact (he.key.chars c hc).2
  · rfl
  · exact mayHold_of_mem_value he.value hc

/-- A text of such lines is read as one document with the keys and values in it. -/
theorem ofText_entries {e : BlockEntry} {es : List BlockEntry}
    (hes : ∀ entry ∈ e :: es, entry.IsPlain) :
    ∃ nodes : List Node, nodes.map (·.kind) = mappingKinds (e :: es) ∧
      ofText (.ofList ((e :: es).flatMap BlockEntry.chars)) = { nodes } := by
  obtain ⟨nodes, hkinds, hnodes⟩ := ofChars_entries hes
  refine ⟨nodes, hkinds, ?_⟩
  have hbad : badOffset? 0 ((e :: es).flatMap BlockEntry.chars) = none := by
    apply badOffset?_eq_none
    intro c hc
    obtain ⟨entry, hentry, hc⟩ := List.mem_flatMap.mp hc
    exact mayHold_of_mem_entry (hes entry hentry) hc
  rw [ofText, String.toList_ofList]
  simp only [hbad]
  split
  · next chars heq =>
    obtain ⟨x, hhead, hx⟩ := BlockEntry.head?_entries (hes e List.mem_cons_self) es
    rw [heq] at hhead
    obtain rfl := Option.some_inj.mp hhead
    cases hx
  · exact hnodes

end Document

end Reachability.Yaml
