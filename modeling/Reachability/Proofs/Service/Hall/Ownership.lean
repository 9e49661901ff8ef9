import Reachability.Proofs.Floor.Steps
import Reachability.Service.Hall

/-!
# Calls and their connections

Each call that goes on belongs to one connection, which waits for it. No other connection can
drop it, and whoever holds the lock or queues for it belongs to a connection that goes on.
-/
namespace Reachability.Service.Hall

variable {σ : Type} {h g : Hall σ} {c d k : Nat} {s : Session}

def Owns (h : Hall σ) (c k : Nat) : Prop := (h.sessions c).errand = some (.test k)

/-- What holds of every hall: the lock agrees with the calls, and these have their owners. -/
structure Sound (h : Hall σ) : Prop where
  orderly : h.floor.Orderly
  alive : ∀ c k, h.Owns c k → ∃ call, h.floor.calls[k]? = some call ∧ call.stage ≠ .dropped
  unique : ∀ c d k, h.Owns c k → h.Owns d k → c = d
  manned : ∀ k call, h.floor.calls[k]? = some call → call.stage.isIdle = false → ∃ c, h.Owns c k

/-! ## Sessions -/

@[simp] theorem sessions_setSession (h : Hall σ) (c : Nat) (s : Session) :
    (h.setSession c s).sessions c = s := by
  simp [setSession]

theorem sessions_setSession_of_ne (h : Hall σ) (hd : d ≠ c) (s : Session) :
    (h.setSession c s).sessions d = h.sessions d := by
  simp [setSession, hd]

theorem sessions_move_of_ne (net : Network σ) (t : Duration) (h : Hall σ) {m : HallMove}
    (hd : d ≠ m.connection) : (h.move net t m).sessions d = h.sessions d := by
  cases m with
  | receive c bytes => exact sessions_setSession_of_ne h hd _
  | finish c => exact sessions_setSession_of_ne h hd _
  | drop c =>
    simp only [move, drop]
    split <;> exact sessions_setSession_of_ne h hd _
  | proceed c =>
    simp only [move, proceed]
    split
    · simp only [attend]
      split
      · rfl
      · split <;> exact sessions_setSession_of_ne h hd _
    · split
      · simp only [pursue]
        split
        · exact sessions_setSession_of_ne h hd _
        · rfl
      · rfl
    · exact sessions_setSession_of_ne h hd _
    · exact sessions_setSession_of_ne h hd _

/-! ## Ownership -/

theorem sound_opened (network : σ) : (opened network).Sound where
  orderly := Floor.orderly_ofProbes [] network
  alive := nofun
  unique := nofun
  manned := nofun

theorem Owns.congr (hd : (g.sessions d).errand = (h.sessions d).errand) :
    g.Owns d k ↔ h.Owns d k := by
  rw [Owns, Owns, hd]

theorem not_owns_of_errand {errand : Option Errand} (hc : (h.sessions c).errand = errand)
    (hne : ∀ k, errand ≠ some (.test k)) (k : Nat) : ¬ h.Owns c k :=
  fun hk => hne k (hc.symm.trans hk)

namespace Sound

theorem of_calls (hsound : h.Sound) (hcalls : g.floor.calls = h.floor.calls)
    (hlock : g.floor.lock = h.floor.lock)
    (hothers : ∀ d ≠ c, (g.sessions d).errand = (h.sessions d).errand)
    (hkept : ∀ k, g.Owns c k → h.Owns c k)
    (hlost : ∀ k call, h.Owns c k → ¬ g.Owns c k → h.floor.calls[k]? = some call →
      call.stage.isIdle = true) : g.Sound := by
  have howns {d k : Nat} (hd : g.Owns d k) : h.Owns d k := by
    by_cases hdc : d = c
    · subst hdc
      exact hkept k hd
    · exact (Owns.congr (hothers d hdc)).mp hd
  refine ⟨?_, fun d k hd => ?_, fun d e k hd he => ?_, fun k call hcall hbusy => ?_⟩
  · have hstage : g.floor.stage? = h.floor.stage? := by
      funext i
      rw [Floor.stage?, hcalls, Floor.stage?]
    rw [Floor.Orderly, hlock, hstage]
    exact hsound.orderly
  · rw [hcalls]
    exact hsound.alive d k (howns hd)
  · exact hsound.unique d e k (howns hd) (howns he)
  · rw [hcalls] at hcall
    obtain ⟨d, hd⟩ := hsound.manned k call hcall hbusy
    by_cases hdc : d = c
    · subst hdc
      by_contra hnone
      have hidle := hlost k call hd (fun hg => hnone ⟨d, hg⟩) hcall
      rw [hidle] at hbusy
      cases hbusy
    · exact ⟨d, (Owns.congr (hothers d hdc)).mpr hd⟩

theorem of_move (hsound : h.Sound) (net : Network σ) {m : Move} (hc : h.Owns c m.call)
    (hfloor : g.floor = h.floor.move net m)
    (hothers : ∀ d ≠ c, (g.sessions d).errand = (h.sessions d).errand)
    (hself : (g.sessions c).errand = (h.sessions c).errand ∧
        (∃ call, g.floor.calls[m.call]? = some call ∧ call.stage ≠ .dropped) ∨
      (g.sessions c).errand = none ∧
        ∃ call, g.floor.calls[m.call]? = some call ∧ call.stage.isIdle = true) : g.Sound := by
  have hframe {k : Nat} (hk : k ≠ m.call) :
      Option.Rel Call.Bystands h.floor.calls[k]? g.floor.calls[k]? := by
    rw [hfloor]
    exact Floor.bystands_move net hsound.orderly m hk
  have howns {d k : Nat} (hd : g.Owns d k) : h.Owns d k := by
    by_cases hdc : d = c
    · subst hdc
      rcases hself with ⟨hsame, -⟩ | ⟨hnone, -⟩
      · exact (Owns.congr hsame).mp hd
      · rw [Owns, hnone] at hd
        cases hd
    · exact (Owns.congr (hothers d hdc)).mp hd
  refine ⟨?_, fun d k hd => ?_, fun d e k hd he => ?_, fun k call hcall hbusy => ?_⟩
  · rw [hfloor]
    exact (Floor.moved net hsound.orderly m).orderly hsound.orderly
  · by_cases hk : k = m.call
    · subst hk
      obtain rfl := hsound.unique d c _ (howns hd) hc
      rcases hself with ⟨-, hcall⟩ | ⟨hnone, -⟩
      · exact hcall
      · rw [Owns, hnone] at hd
        cases hd
    · obtain ⟨call, hcall, hstage⟩ := hsound.alive d k (howns hd)
      obtain ⟨call', hcall', hby⟩ := Call.Bystands.exists_of_rel (hframe hk) hcall
      exact ⟨call', hcall', hby.stage_ne_dropped hstage⟩
  · exact hsound.unique d e k (howns hd) (howns he)
  · by_cases hk : k = m.call
    · subst hk
      rcases hself with ⟨hsame, -⟩ | ⟨-, call', hcall', hidle⟩
      · exact ⟨c, (Owns.congr hsame).mpr hc⟩
      · rw [hcall] at hcall'
        cases hcall'
        rw [hidle] at hbusy
        cases hbusy
    · obtain ⟨call', hcall', hby⟩ := Call.Bystands.exists_of_rel' (hframe hk) hcall
      obtain ⟨d, hd⟩ := hsound.manned k call' hcall' (hby.isIdle_eq ▸ hbusy)
      have hdc : d ≠ c := by
        rintro rfl
        have herrand := Option.some.inj (hd.symm.trans hc)
        exact hk (Errand.test.inj herrand)
      exact ⟨d, (Owns.congr (hothers d hdc)).mpr hd⟩

theorem of_enlist (hsound : h.Sound) {probe : Probe} (hfloor : g.floor = h.floor.enlist probe)
    (hothers : ∀ d ≠ c, (g.sessions d).errand = (h.sessions d).errand)
    (hfree : (h.sessions c).errand = none) (hc : g.Owns c h.floor.calls.length) : g.Sound := by
  have hcalls (k : Nat) : g.floor.calls[k]? =
      if k = h.floor.calls.length then some { probe } else h.floor.calls[k]? := by
    rw [hfloor, Floor.getElem?_enlist]
  have howns {d k : Nat} (hd : g.Owns d k) :
      d = c ∧ k = h.floor.calls.length ∨ d ≠ c ∧ h.Owns d k := by
    by_cases hdc : d = c
    · subst hdc
      exact .inl ⟨rfl, Errand.test.inj (Option.some.inj (hd.symm.trans hc))⟩
    · exact .inr ⟨hdc, (Owns.congr (hothers d hdc)).mp hd⟩
  have hfresh {d : Nat} : ¬ h.Owns d h.floor.calls.length := by
    intro hd
    obtain ⟨call, hcall, -⟩ := hsound.alive d _ hd
    simp at hcall
  refine ⟨?_, fun d k hd => ?_, fun d e k hd he => ?_, fun k call hcall hbusy => ?_⟩
  · rw [hfloor]
    exact Floor.orderly_enlist hsound.orderly probe
  · rw [hcalls]
    split
    · exact ⟨_, rfl, nofun⟩
    · next hk =>
      rcases howns hd with ⟨-, heq⟩ | ⟨-, hd⟩
      · exact absurd heq hk
      · exact hsound.alive d k hd
  · rcases howns hd with ⟨rfl, rfl⟩ | ⟨-, hd⟩
    · rcases howns he with ⟨rfl, -⟩ | ⟨-, he⟩
      · rfl
      · exact absurd he hfresh
    · rcases howns he with ⟨-, rfl⟩ | ⟨-, he⟩
      · exact absurd hd hfresh
      · exact hsound.unique d e k hd he
  · rw [hcalls] at hcall
    split at hcall
    · cases hcall
      cases hbusy
    · obtain ⟨d, hd⟩ := hsound.manned k call hcall hbusy
      have hdc : d ≠ c := by
        rintro rfl
        rw [Owns, hfree] at hd
        cases hd
      exact ⟨d, (Owns.congr (hothers d hdc)).mpr hd⟩

theorem of_errand (hsound : h.Sound) (hcalls : g.floor.calls = h.floor.calls)
    (hlock : g.floor.lock = h.floor.lock)
    (hothers : ∀ d ≠ c, (g.sessions d).errand = (h.sessions d).errand)
    (hbefore : ∀ k, ¬ h.Owns c k) (hafter : ∀ k, ¬ g.Owns c k) : g.Sound :=
  hsound.of_calls hcalls hlock hothers (fun k hk => absurd hk (hafter k))
    fun k _ hk => absurd hk (hbefore k)

theorem of_session (hsound : h.Sound) (hs : s.errand = (h.sessions c).errand) :
    (h.setSession c s).Sound := by
  have hself {k : Nat} : (h.setSession c s).Owns c k ↔ h.Owns c k :=
    Owns.congr (by rw [sessions_setSession, hs])
  refine hsound.of_calls rfl rfl (fun d hd => ?_) (fun k => hself.mp)
    fun k _ hk hlost _ => absurd (hself.mpr hk) hlost
  rw [sessions_setSession_of_ne h hd]

end Sound

/-! ## Steps -/

/-- All that a connection can do when its turn comes. -/
inductive Proceeds (net : Network σ) (t : Duration) (h : Hall σ) (c : Nat) : Hall σ → Prop
  | rests (hrest : (h.sessions c).IsAtRest) : Proceeds net t h c h
  | enlists {i arrived probe} (hfree : (h.sessions c).errand = none)
      (harrived : (h.sessions c).arrived = i :: arrived) (htest : i.test? t = some probe) :
      Proceeds net t h c
        { h.setSession c { h.sessions c with
            arrived, errand := some (.test h.floor.calls.length) } with
          floor := h.floor.enlist probe }
  | begins {i arrived} (hfree : (h.sessions c).errand = none)
      (harrived : (h.sessions c).arrived = i :: arrived) (htest : i.test? t = none) :
      Proceeds net t h c
        (h.setSession c { h.sessions c with arrived, errand := some (.direct (handle t i)) })
  | calls {k call} (howns : h.Owns c k) (hcall : h.floor.calls[k]? = some call)
      (hended : call.stage.ended? = none) :
      Proceeds net t h c
        { h with
          floor := h.floor.proceed net k
          heard := h.heard ++ (call.stage.exchange? net h.floor.network).toList.map (c, ·) }
  | ends {k call ended} (howns : h.Owns c k) (hcall : h.floor.calls[k]? = some call)
      (hended : call.stage.ended? = some ended) :
      Proceeds net t h c (h.setSession c ((h.sessions c).answer (.ofResponse (.ofTest ended))))
  | asks {action next} (herrand : (h.sessions c).errand = some (.direct (.ask action next))) :
      Proceeds net t h c
        { h.setSession c { h.sessions c with
            errand := some (.direct (next (net.answer h.floor.network action).1)) } with
          floor := { h.floor with network := (net.answer h.floor.network action).2 }
          heard := h.heard ++ [(c, ⟨action, (net.answer h.floor.network action).1⟩)] }
  | answers {reply} (herrand : (h.sessions c).errand = some (.direct (.done reply))) :
      Proceeds net t h c (h.setSession c ((h.sessions c).answer reply))

theorem proceeds (hsound : h.Sound) (net : Network σ) (t : Duration) (c : Nat) :
    Proceeds net t h c (h.proceed net t c) := by
  unfold proceed
  split
  · next hfree =>
    simp only [attend]
    split
    · next harrived => exact .rests ⟨harrived, hfree⟩
    · next harrived =>
      split
      · next htest => exact .enlists hfree harrived htest
      · next htest => exact .begins hfree harrived htest
  · next k howns =>
    obtain ⟨call, hcall, -⟩ := hsound.alive c k howns
    simp only [hcall, pursue]
    split
    · next hended => exact .ends howns hcall hended
    · next hended => exact .calls howns hcall hended
  · next herrand => exact .answers herrand
  · next herrand => exact .asks herrand

namespace Sound

theorem proceed (hsound : h.Sound) (net : Network σ) (t : Duration) (c : Nat) :
    (h.proceed net t c).Sound := by
  have hothers : ∀ d ≠ c, ((h.proceed net t c).sessions d).errand = (h.sessions d).errand :=
    fun d hd => congrArg Session.errand (sessions_move_of_ne net t h (m := .proceed c) hd)
  have hmoved := proceeds hsound net t c
  generalize h.proceed net t c = g at hmoved hothers
  cases hmoved with
  | rests => exact hsound
  | enlists hfree _ _ =>
    exact hsound.of_enlist rfl hothers hfree (congrArg Session.errand (sessions_setSession h c _))
  | begins hfree _ _ =>
    exact hsound.of_errand rfl rfl hothers (not_owns_of_errand hfree (by simp))
      (not_owns_of_errand (congrArg Session.errand (sessions_setSession h c _)) (by simp))
  | @calls k call howns hcall _ =>
    obtain ⟨call', hcall', hstage⟩ := hsound.alive c k howns
    obtain ⟨call'', hcall'', hstage'', -⟩ := Floor.follows_proceed net hsound.orderly hcall' hstage
    exact hsound.of_move net (m := .proceed k) howns rfl hothers
      (.inl ⟨rfl, call'', hcall'', hstage''⟩)
  | @ends k call ended howns hcall hended =>
    refine hsound.of_calls rfl rfl hothers (fun k' hk' => ?_) fun k' call' hk' _ hcall' => ?_
    · rw [Owns, sessions_setSession] at hk'
      cases hk'
    · obtain rfl : k' = k := Errand.test.inj (Option.some.inj (hk'.symm.trans howns))
      rw [hcall] at hcall'
      cases hcall'
      exact Stage.isIdle_of_ended? hended
  | asks herrand =>
    exact hsound.of_errand rfl rfl hothers (not_owns_of_errand herrand (by simp))
      (not_owns_of_errand (congrArg Session.errand (sessions_setSession h c _)) (by simp))
  | answers herrand =>
    exact hsound.of_errand rfl rfl hothers (not_owns_of_errand herrand (by simp))
      (not_owns_of_errand (congrArg Session.errand (sessions_setSession h c _))
        (by simp [Session.answer]))

theorem drop (hsound : h.Sound) (net : Network σ) (t : Duration) (c : Nat) :
    (h.drop c).Sound := by
  have hothers : ∀ d ≠ c, ((h.drop c).sessions d).errand = (h.sessions d).errand :=
    fun d hd => congrArg Session.errand (sessions_move_of_ne net t h (m := .drop c) hd)
  cases herrand : (h.sessions c).errand with
  | none =>
    have hdrop : h.drop c = h.setSession c (h.sessions c).abandon := by simp [Hall.drop, herrand]
    rw [hdrop]
    exact hsound.of_session herrand.symm
  | some errand =>
    cases errand with
    | direct rest =>
      have hdrop : h.drop c = h.setSession c (h.sessions c).abandon := by
        simp [Hall.drop, herrand]
      rw [hdrop] at hothers ⊢
      exact hsound.of_errand rfl rfl hothers (not_owns_of_errand herrand (by simp))
        (not_owns_of_errand (congrArg Session.errand (sessions_setSession h c _))
          (by simp [Session.abandon]))
    | test k =>
      have hdrop : h.drop c = { h.setSession c (h.sessions c).abandon with
          floor := h.floor.dropCall k } := by
        simp [Hall.drop, herrand]
      rw [hdrop] at hothers ⊢
      obtain ⟨call, hcall, -⟩ := hsound.alive c k herrand
      exact hsound.of_move net (m := .drop k) herrand rfl hothers
        (.inr ⟨congrArg Session.errand (sessions_setSession h c _),
          Floor.isIdle_dropCall hsound.orderly hcall⟩)

/-- What every move keeps. -/
theorem move (hsound : h.Sound) (net : Network σ) (t : Duration) (m : HallMove) :
    (h.move net t m).Sound := by
  cases m with
  | receive c bytes => exact hsound.of_session rfl
  | finish c => exact hsound.of_session rfl
  | proceed c => exact hsound.proceed net t c
  | drop c => exact hsound.drop net t c

end Sound

/-- What becomes of the call of a connection when another one makes a move. -/
theorem bystands_move (hsound : h.Sound) (net : Network σ) (t : Duration) {m : HallMove}
    (hm : c ≠ m.connection) (hc : h.Owns c k) :
    Option.Rel Call.Bystands h.floor.calls[k]? (h.move net t m).floor.calls[k]? := by
  have hother {d j : Nat} (hd : c ≠ d) (hj : h.Owns d j) : k ≠ j := by
    rintro rfl
    exact hd (hsound.unique c d k hc hj)
  cases m with
  | receive d bytes => exact Call.Bystands.rel_refl _
  | finish d => exact Call.Bystands.rel_refl _
  | proceed d =>
    have hmoved := proceeds hsound net t d
    rw [Hall.move]
    generalize h.proceed net t d = g at hmoved
    cases hmoved with
    | enlists hfree harrived htest =>
      obtain ⟨call, hcall, -⟩ := hsound.alive c k hc
      have hk := (List.getElem?_eq_some_iff.mp hcall).1
      rw [Floor.getElem?_enlist, if_neg (Nat.ne_of_lt hk)]
      exact Call.Bystands.rel_refl _
    | calls howns _ _ =>
      exact Floor.bystands_move net hsound.orderly (.proceed _) (hother hm howns)
    | rests | begins | ends | asks | answers => exact Call.Bystands.rel_refl _
  | drop d =>
    simp only [Hall.move, Hall.drop]
    split
    · next j hj => exact Floor.bystands_move net hsound.orderly (.drop j) (hother hm hj)
    · exact Call.Bystands.rel_refl _
    · exact Call.Bystands.rel_refl _

end Reachability.Service.Hall
