import Reachability.Proofs.Probe.Contract

/-!
# The port and the time of a probe

Whatever the network answers, a probe goes to no other port than its own, and it gives up a
connection after its own time.
-/
namespace Reachability

/-! ## Programs and what they ask at most -/

namespace Program

variable {α β : Type} {P Q : Action → Prop}

/-- Holds of a program all of whose questions are of a kind, whatever the answers are. -/
inductive AsksOnly (P : Action → Prop) : Program α → Prop
  | done (a : α) : AsksOnly P (.done a)
  | ask {action : Action} {next : action.Answer → Program α} (h : P action)
      (hnext : ∀ answer, AsksOnly P (next answer)) : AsksOnly P (.ask action next)

namespace AsksOnly

theorem perform {action : Action} (h : P action) : AsksOnly P (perform action) := .ask h .done

theorem bind {p : Program α} {f : α → Program β} (hp : AsksOnly P p) (hf : ∀ a, AsksOnly P (f a)) :
    AsksOnly P (p >>= f) := by
  induction hp with
  | done a => exact hf a
  | ask h _ ih => exact .ask h ih

theorem map {p : Program α} (hp : AsksOnly P p) (f : α → β) : AsksOnly P (f <$> p) := by
  rw [← bind_pure_comp]
  exact hp.bind fun a => .done _

theorem mono {p : Program α} (hp : AsksOnly P p) (h : ∀ action, P action → Q action) :
    AsksOnly Q p := by
  induction hp with
  | done a => exact .done a
  | ask hask _ ih => exact .ask (h _ hask) ih

theorem forall_trace {σ : Type} {net : Network σ} {s : σ} {p : Program α} (hp : AsksOnly P p) :
    ∀ action ∈ (p.trace net s).2.2, P action := by
  induction hp generalizing s with
  | done a => exact fun action h => absurd h List.not_mem_nil
  | ask h _ ih => exact List.forall_mem_cons.mpr ⟨h, ih _⟩

end AsksOnly

end Program

open Program (AsksOnly)

/-! ## Ports and times -/

/-- Holds if a question goes to this port, if there is one, and waits for no other time. -/
def Action.Within (port? : Option UInt16) (limit : Duration) : Action → Prop
  | .connect target time => (∀ port ∈ port?, target.port = port) ∧ time = limit
  | .send target _ => ∀ port ∈ port?, target.port = port
  | .instant | .epochSeconds | .lookup _ | .bind _ => True

theorem Action.Within.none {port? : Option UInt16} {limit : Duration} {action : Action}
    (h : action.Within port? limit) : action.Within none limit := by
  cases action with
  | connect target time => exact ⟨fun port hport => (Option.not_mem_none port hport).elim, h.2⟩
  | send target payload => exact fun port hport => (Option.not_mem_none port hport).elim
  | instant | epochSeconds | lookup _ | bind _ => trivial

@[simp] theorem SocketAddress.port_ofIp (ip : IpAddress) (port : UInt16) :
    (ofIp ip port).port = port := by
  cases ip <;> rfl

variable {host : String} {port : UInt16} {limit : Duration} {port? : Option UInt16}

theorem HostName.asksOnly_resolve : AsksOnly (Action.Within port? limit) (resolve host) := by
  unfold resolve
  dsimp only
  split
  · exact .done _
  · exact .done _
  · exact .ask trivial fun _ => .done _

namespace Attempt

theorem asksOnly_tcp : AsksOnly (Action.Within (some port) limit) (tcp host port limit) := by
  refine .bind (.perform trivial) fun start => .bind HostName.asksOnly_resolve fun resolved => ?_
  cases resolved with
  | error failure => exact .done _
  | ok ip =>
    refine .bind (.perform ⟨by simp, rfl⟩) fun connection => ?_
    exact .bind (.perform trivial) fun finish => .done _

theorem asksOnly_udp : AsksOnly (Action.Within (some port) limit) (udp host port) := by
  refine .bind (.perform trivial) fun start => .bind HostName.asksOnly_resolve fun resolved => ?_
  cases resolved with
  | error failure => exact .done _
  | ok ip =>
    refine .bind (.perform trivial) fun bound => ?_
    cases bound with
    | error e => exact .done _
    | ok _ =>
      refine .bind (.perform (by simp [Action.Within])) fun sent => ?_
      exact .bind (.perform trivial) fun finish => .done _

theorem asksOnly_http (url : String) : AsksOnly (Action.Within none limit) (http url limit) := by
  unfold http
  split
  · exact .done _
  · exact asksOnly_tcp.mono fun _ => Action.Within.none

end Attempt

namespace Probe

theorem asksOnly_measure (p : Probe) : AsksOnly (Action.Within p.port? p.timeout) p.measure := by
  have hclock {port? : Option UInt16} {limit : Duration} (f : Nat → Verdict) :
      AsksOnly (Action.Within port? limit) (f <$> Program.perform .epochSeconds) := by
    have hperform : AsksOnly (Action.Within port? limit) (Program.perform .epochSeconds) :=
      .perform trivial
    exact hperform.map f
  cases p with
  | tcp host port timeout => exact Attempt.asksOnly_tcp.bind fun outcome => hclock _
  | udp host port timeout => exact Attempt.asksOnly_udp.bind fun outcome => hclock _
  | elasticsearch url credentials timeout =>
    refine (Attempt.asksOnly_http url).bind fun base => .bind ?_ fun health => hclock _
    unfold health
    split
    · exact (Attempt.asksOnly_http _).map some
    · exact .done _
  | mqtt host port credentials timeout =>
    refine .bind ?_ fun outcome => hclock _
    cases port with
    | none => exact Attempt.asksOnly_tcp.mono fun _ => Action.Within.none
    | some port => exact Attempt.asksOnly_tcp

/-- The questions of a test go to its port and wait for its time. -/
theorem asksOnly_test (p : Probe) : AsksOnly (Action.Within p.port? p.timeout) p.test := by
  unfold test
  split
  · exact .done _
  · exact p.asksOnly_measure.bind fun verdict => .done _

end Probe

end Reachability
