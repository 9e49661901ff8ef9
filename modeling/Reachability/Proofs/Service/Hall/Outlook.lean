import Reachability.Proofs.Network.Dialogue
import Reachability.Proofs.Service.Asked
import Reachability.Proofs.Service.Hall.Ownership

/-!
# What a connection will answer

In every state the answers that a connection has given and those that it still owes are those
of the program that answers everything that has come in on it, with the answers that it has got
from the network. The other connections have no part in it.
-/
namespace Reachability.Service

variable {σ : Type} {h g : Hall σ} {c : Nat} {t : Duration}

theorem handle_of_test? {i : Incoming} {probe : Probe} (h : i.test? t = some probe) :
    handle t i = (fun ended => .ofResponse (.ofTest ended)) <$> probe.test := by
  cases i with
  | unreadable _ | malformed => cases h
  | request r =>
    simp only [Incoming.test?] at h
    split at h
    · next p hroute =>
      split at h
      · next hallows =>
        obtain ⟨method, path, body⟩ := r
        obtain rfl : path = (Route.probe p).path := Route.ofPath?_eq_some.mp hroute
        obtain rfl : method = "POST" := Route.allows_probe.mp hallows
        cases hprobe : probeOf t body p with
        | error reason =>
          rw [hprobe] at h
          cases h
        | ok probe' =>
          rw [hprobe] at h
          obtain rfl := Option.some.inj h
          simp [handle, respond_of_probeOf hprobe]
      · cases h
    all_goals cases h

def Errand.rest (f : Floor σ) : Errand → Program Reply
  | .test k =>
    match f.calls[k]? with
    | some call => (fun ended => .ofResponse (.ofTest ended)) <$> call.rest
    | none => .done default
  | .direct rest => rest

def Session.current (f : Floor σ) (s : Session) : Program (List Reply) :=
  match s.errand with
  | some errand => (fun reply => [reply]) <$> errand.rest f
  | none => .done []

/-- All answers of a connection, when only some more is still to come in on it. -/
def Session.outlook (t : Duration) (f : Floor σ) (later : List Incoming) (s : Session) :
    Program (List Reply) := do
  let now ← s.current f
  return s.replies ++ now ++ (← handleAll t (s.arrived ++ later))

namespace Session

variable {s : Session} {later : List Incoming}

theorem outlook_of_isAtRest (hs : s.IsAtRest) (t : Duration) (f : Floor σ) :
    s.outlook t f [] = .done s.replies := by
  have hcurrent : s.current f = .done [] := by rw [current, hs.2]
  simp only [outlook, hcurrent, hs.1, handleAll, List.append_nil, Program.done_bind]
  rfl

theorem replies_isPrefix (s : Session) (t : Duration) (f : Floor σ) (later : List Incoming)
    {τ : Type} (net : Network τ) (n : τ) : s.replies <+: (s.outlook t f later).run net n := by
  simp only [outlook, Program.run_bind, Program.run_pure, List.append_assoc]
  exact List.prefix_append _ _

theorem outlook_receive (s : Session) (bytes : List UInt8) (t : Duration) (f : Floor σ)
    (later : List Incoming) :
    (s.receive bytes).outlook t f later = s.outlook t f ((s.phase.feed bytes).2 ++ later) := by
  simp only [outlook, receive, List.append_assoc]
  rfl

theorem outlook_attend {i : Incoming} {arrived : List Incoming} {errand : Errand} {f g : Floor σ}
    (hfree : s.errand = none) (harrived : s.arrived = i :: arrived)
    (hrest : errand.rest g = handle t i) :
    { s with arrived, errand := some errand }.outlook t g later = s.outlook t f later := by
  simp [outlook, current, hfree, harrived, hrest, handleAll]

theorem outlook_answer {errand : Errand} {reply : Reply} (f : Floor σ)
    (herrand : s.errand = some errand) (hrest : errand.rest f = .done reply) :
    (s.answer reply).outlook t f later = s.outlook t f later := by
  simp [outlook, current, herrand, hrest, answer]

theorem follows_outlook {s' : Session} {errand errand' : Errand} {f g : Floor σ}
    {xs : List Exchange} (herrand : s.errand = some errand) (herrand' : s'.errand = some errand')
    (harrived : s'.arrived = s.arrived) (hreplies : s'.replies = s.replies)
    (h : (errand.rest f).Follows xs (errand'.rest g)) :
    (s.outlook t f later).Follows xs (s'.outlook t g later) := by
  simp only [outlook, current, herrand, herrand', harrived, hreplies]
  exact (h.map _).bind _

end Session

namespace Hall

theorem heardBy_append_self {h g : Hall σ} {xs : List Exchange}
    (hg : g.heard = h.heard ++ xs.map (c, ·)) : g.heardBy c = h.heardBy c ++ xs := by
  simp [heardBy, hg, List.filter_map, Function.comp_def]

theorem heardBy_append_of_ne {h g : Hall σ} {d : Nat} {xs : List Exchange} (hd : c ≠ d)
    (hg : g.heard = h.heard ++ xs.map (d, ·)) : g.heardBy c = h.heardBy c := by
  simp [heardBy, hg, List.filter_map, Function.comp_def, Ne.symm hd]

/-- When its turn comes a connection goes on with its answers. -/
theorem exists_follows_proceed (hsound : h.Sound) (net : Network σ) (t : Duration) (c : Nat)
    (later : List Incoming) : ∃ xs, (h.proceed net t c).heardBy c = h.heardBy c ++ xs ∧
      ((h.sessions c).outlook t h.floor later).Follows xs
        (((h.proceed net t c).sessions c).outlook t (h.proceed net t c).floor later) := by
  have hmoved := proceeds hsound net t c
  generalize h.proceed net t c = g at hmoved
  have hquiet (hheard : g.heard = h.heard)
      (houtlook : (g.sessions c).outlook t g.floor later = (h.sessions c).outlook t h.floor later) :
      ∃ xs, g.heardBy c = h.heardBy c ++ xs ∧
        ((h.sessions c).outlook t h.floor later).Follows xs
          ((g.sessions c).outlook t g.floor later) := by
    refine ⟨[], ?_, ?_⟩
    · rw [heardBy, hheard, List.append_nil, heardBy]
    · rw [houtlook]
      exact .refl _
  cases hmoved with
  | rests => exact hquiet rfl rfl
  | @enlists i arrived probe hfree harrived htest =>
    have hrest : (Errand.test h.floor.calls.length).rest (h.floor.enlist probe) = handle t i := by
      rw [Errand.rest, Floor.getElem?_enlist, if_pos rfl, handle_of_test? htest]
      rfl
    refine hquiet rfl ?_
    simp only [sessions_setSession]
    exact Session.outlook_attend hfree harrived hrest
  | begins hfree harrived htest =>
    refine hquiet rfl ?_
    simp only [sessions_setSession]
    exact Session.outlook_attend hfree harrived rfl
  | @calls k call howns hcall hended =>
    obtain ⟨call', hcall', hstage⟩ := hsound.alive c k howns
    rw [hcall] at hcall'
    cases hcall'
    obtain ⟨next, hnext, -, hfollows⟩ := Floor.follows_proceed net hsound.orderly hcall hstage
    refine ⟨_, heardBy_append_self rfl, Session.follows_outlook howns howns rfl rfl ?_⟩
    simp only [Errand.rest, hcall, hnext]
    exact hfollows.map _
  | @ends k call ended howns hcall hended =>
    have hrest : (Errand.test k).rest h.floor = .done (.ofResponse (.ofTest ended)) := by
      simp only [Errand.rest, hcall, Call.rest_of_ended? hended]
      rfl
    refine hquiet rfl ?_
    simp only [sessions_setSession]
    exact Session.outlook_answer h.floor howns hrest
  | @asks action next herrand =>
    have hheard : [(c, ⟨action, (net.answer h.floor.network action).1⟩)] =
        [Exchange.mk action (net.answer h.floor.network action).1].map (c, ·) := rfl
    refine ⟨_, heardBy_append_self (congrArg (h.heard ++ ·) hheard), ?_⟩
    simp only [sessions_setSession]
    exact Session.follows_outlook herrand rfl rfl rfl (.single action _ next)
  | answers herrand =>
    refine hquiet rfl ?_
    simp only [sessions_setSession]
    exact Session.outlook_answer h.floor herrand rfl

theorem heardBy_move_of_ne (hsound : h.Sound) (net : Network σ) (t : Duration) {m : HallMove}
    (hm : c ≠ m.connection) : (h.move net t m).heardBy c = h.heardBy c := by
  cases m with
  | receive d bytes => rfl
  | finish d => rfl
  | drop d =>
    rw [move, drop]
    split <;> rfl
  | proceed d =>
    have hmoved := proceeds hsound net t d
    rw [move]
    generalize h.proceed net t d = g at hmoved
    cases hmoved with
    | calls => exact heardBy_append_of_ne hm rfl
    | @asks action next herrand =>
      have hheard : [(d, ⟨action, (net.answer h.floor.network action).1⟩)] =
          [Exchange.mk action (net.answer h.floor.network action).1].map (d, ·) := rfl
      exact heardBy_append_of_ne hm (congrArg (h.heard ++ ·) hheard)
    | rests | enlists | begins | ends | answers => rfl

theorem outlook_move_of_ne (hsound : h.Sound) (net : Network σ) (t : Duration) {m : HallMove}
    (hm : c ≠ m.connection) (later : List Incoming) :
    ((h.move net t m).sessions c).outlook t (h.move net t m).floor later =
      (h.sessions c).outlook t h.floor later := by
  have hcurrent : (h.sessions c).current (h.move net t m).floor =
      (h.sessions c).current h.floor := by
    unfold Session.current
    split
    · next errand herrand =>
      cases errand with
      | direct rest => rfl
      | test k =>
        obtain ⟨call, hcall, -⟩ := hsound.alive c k herrand
        obtain ⟨call', hcall', hby⟩ :=
          Call.Bystands.exists_of_rel (bystands_move hsound net t hm herrand) hcall
        simp only [Errand.rest, hcall, hcall', hby.rest_eq]
    · rfl
  rw [sessions_move_of_ne net t h hm, Session.outlook, hcurrent, Session.outlook]

theorem phase_proceed (hsound : h.Sound) (net : Network σ) (t : Duration) (c : Nat) :
    ((h.proceed net t c).sessions c).phase = (h.sessions c).phase := by
  have hmoved := proceeds hsound net t c
  generalize h.proceed net t c = g at hmoved
  cases hmoved with
  | rests | calls => rfl
  | enlists | begins | asks => simp only [sessions_setSession]
  | ends | answers => simp only [sessions_setSession, Session.answer]

theorem flatten_readsOf_cons (c : Nat) (m : HallMove) (moves : List HallMove) :
    (readsOf c (m :: moves)).flatten = (readsOf c [m]).flatten ++ (readsOf c moves).flatten := by
  cases m with
  | receive d bytes =>
    simp only [readsOf]
    split <;> simp
  | finish d | proceed d | drop d => simp [readsOf]

/-- A move that does not end a connection brings it the bytes that come in on it, and lets it go
on with its answers if it is its turn. -/
theorem exists_follows_move (hsound : h.Sound) (net : Network σ) (t : Duration) {m : HallMove}
    (hopen : m ≠ .drop c ∧ m ≠ .finish c) (later : List Incoming) :
    ((h.move net t m).sessions c).phase =
      ((h.sessions c).phase.feed (readsOf c [m]).flatten).1 ∧
    ∃ xs, (h.move net t m).heardBy c = h.heardBy c ++ xs ∧
      ((h.sessions c).outlook t h.floor
        (((h.sessions c).phase.feed (readsOf c [m]).flatten).2 ++ later)).Follows xs
        (((h.move net t m).sessions c).outlook t (h.move net t m).floor later) := by
  by_cases hc : c = m.connection
  · cases m with
    | finish d => exact absurd (congrArg HallMove.finish hc.symm) hopen.2
    | drop d => exact absurd (congrArg HallMove.drop hc.symm) hopen.1
    | proceed d =>
      obtain rfl : c = d := hc
      exact ⟨phase_proceed hsound net t c, exists_follows_proceed hsound net t c later⟩
    | receive d bytes =>
      obtain rfl : c = d := hc
      have hread : (readsOf c [.receive c bytes]).flatten = bytes := by simp [readsOf]
      rw [hread, move, sessions_setSession, ← Session.outlook_receive]
      exact ⟨rfl, [], (List.append_nil _).symm, .refl _⟩
  · have hread : readsOf c [m] = [] := by
      cases m with
      | receive d bytes => exact if_neg (Ne.symm hc)
      | finish d | proceed d | drop d => rfl
    rw [hread, heardBy_move_of_ne hsound net t hc, outlook_move_of_ne hsound net t hc,
      sessions_move_of_ne net t h hc]
    exact ⟨rfl, [], (List.append_nil _).symm, .refl _⟩

/-- After every schedule in which a connection is not ended it has taken all bytes that have come
in on it, and goes on with the answers to what they have brought. -/
theorem exists_follows_run (hsound : h.Sound) (net : Network σ) (t : Duration)
    {moves : List HallMove} (hopen : ∀ m ∈ moves, m ≠ .drop c ∧ m ≠ .finish c)
    (later : List Incoming) :
    ((h.run net t moves).sessions c).phase =
      ((h.sessions c).phase.feed (readsOf c moves).flatten).1 ∧
    ∃ xs, (h.run net t moves).heardBy c = h.heardBy c ++ xs ∧
      ((h.sessions c).outlook t h.floor
        (((h.sessions c).phase.feed (readsOf c moves).flatten).2 ++ later)).Follows xs
        (((h.run net t moves).sessions c).outlook t (h.run net t moves).floor later) := by
  induction moves generalizing h with
  | nil => exact ⟨rfl, [], (List.append_nil _).symm, .refl _⟩
  | cons m moves ih =>
    obtain ⟨hm, hmoves⟩ := List.forall_mem_cons.mp hopen
    obtain ⟨hphase, xs, hheard, hfollows⟩ := ih (hsound.move net t m) hmoves
    obtain ⟨hmoved, ys, hfirst, hgoes⟩ := exists_follows_move hsound net t hm
      ((((h.move net t m).sessions c).phase.feed (readsOf c moves).flatten).2 ++ later)
    rw [hfirst, List.append_assoc] at hheard
    rw [hmoved] at hphase hfollows hgoes
    rw [← List.append_assoc] at hgoes
    rw [run, flatten_readsOf_cons, Phase.feed_append]
    exact ⟨hphase, ys ++ xs, hheard, hgoes.trans hfollows⟩

end Hall

end Reachability.Service
