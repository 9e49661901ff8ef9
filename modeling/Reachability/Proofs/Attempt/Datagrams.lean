import Reachability.Proofs.Network.Dialogue
import Reachability.Proofs.Verdict.Status

/-!
# Datagrams of attempts and tests

Only an attempt over UDP sends, and it sends at most once: the marker, to the address that its
host has at the time, and only if the attempt succeeds. Every other attempt is silent, and so is
every other test.
-/
namespace Reachability

open Program (Silent)

variable {σ : Type} {net : Network σ} {s : σ}

theorem HostName.silent_resolve (host : String) : Silent (resolve host) := by
  unfold resolve
  dsimp only
  split
  · exact .done _
  · exact .done _
  · exact .ask (by simp) fun _ => .done _

namespace Attempt

theorem silent_tcp (host : String) (port : UInt16) (limit : Duration) :
    Silent (tcp host port limit) := by
  refine (Silent.perform (by simp)).bind fun start => ?_
  refine (HostName.silent_resolve host).bind fun resolved => ?_
  cases resolved with
  | error failure => exact .done _
  | ok ip =>
    refine (Silent.perform (by simp)).bind fun connection => ?_
    exact (Silent.perform (by simp)).bind fun finish => .done _

theorem silent_http (url : String) (limit : Duration) : Silent (http url limit) := by
  unfold http
  split
  · exact .done _
  · exact silent_tcp _ _ limit

def resolved (net : Network σ) (s : σ) (host : String) : Except Failure IpAddress :=
  (HostName.resolve host).run net (net.answer s .instant).2

/-- What an attempt over UDP does once it has an address. -/
def sendTo (start : Nat) (ip : IpAddress) (port : UInt16) : Program Outcome := do
  match ← Program.perform (.bind (source ip)) with
  | .error e => return .failed 0 (.socketSetup e)
  | .ok () =>
    let sent ← Program.perform (.send (.ofIp ip port) payload)
    let finish ← Program.perform .instant
    return ofSend (elapsedMs start finish) sent

theorem udp_eq (host : String) (port : UInt16) :
    udp host port = Program.perform .instant >>= fun start => HostName.resolve host >>= fun ended =>
      match ended with
      | .error failure => pure (.failed 0 failure)
      | .ok ip => sendTo start ip port := rfl

/-- A send that tells of bytes is a success, and those are one datagram. -/
theorem datagrams_send (elapsedMs : Nat) (target : SocketAddress) (payload : List UInt8) :
    (Program.perform (.send target payload)).datagrams net s =
      if (ofSend elapsedMs ((Program.perform (.send target payload)).run net s)).isSuccess then
        [(target, payload)]
      else [] := by
  have hsent : (Program.perform (.send target payload)).datagrams net s =
      (Exchange.datagram? ⟨.send target payload, (net.answer s (.send target payload)).1⟩).toList :=
    Program.datagrams_perform _
  rw [hsent, Program.run_perform]
  cases (net.answer s (.send target payload)).1 with
  | error e => rfl
  | ok n => cases n <;> rfl

theorem datagrams_sendTo (start : Nat) (ip : IpAddress) (port : UInt16) :
    (sendTo start ip port).datagrams net s =
      if ((sendTo start ip port).run net s).isSuccess then [(.ofIp ip port, payload)] else [] := by
  have hbind : (Program.perform (.bind (source ip))).datagrams net s = [] :=
    (Silent.perform (by simp)).datagrams_eq_nil
  have hclock (t : σ) : (Program.perform .instant).datagrams net t = [] :=
    (Silent.perform (by simp)).datagrams_eq_nil
  rw [sendTo, Program.datagrams_bind, Program.run_bind, hbind, List.nil_append]
  cases (Program.perform (.bind (source ip))).run net s with
  | error e => rfl
  | ok _ =>
    simp only [Program.datagrams_bind, Program.run_bind, hclock, Program.datagrams_pure,
      Program.run_pure, List.append_nil]
    exact datagrams_send _ _ _

/-- An attempt over UDP that succeeds sends the marker to the address of its host, and one that
fails sends nothing. -/
theorem datagrams_udp (host : String) (port : UInt16) :
    (udp host port).datagrams net s =
      match resolved net s host with
      | .ok ip =>
        if ((udp host port).run net s).isSuccess then [(.ofIp ip port, payload)] else []
      | .error _ => [] := by
  have hclock : (Program.perform .instant).datagrams net s = [] :=
    (Silent.perform (by simp)).datagrams_eq_nil
  have hsilent (t : σ) : (HostName.resolve host).datagrams net t = [] :=
    (HostName.silent_resolve host).datagrams_eq_nil
  simp only [udp_eq, Program.datagrams_bind, Program.run_bind, hclock, hsilent, List.nil_append]
  change _ = match (HostName.resolve host).run net ((Program.perform .instant).trace net s).2.1 with
    | .ok ip => _
    | .error _ => _
  cases (HostName.resolve host).run net ((Program.perform .instant).trace net s).2.1 with
  | error failure => rfl
  | ok ip => exact datagrams_sendTo _ ip port

theorem isSuccess_udp_of_unresolved {host : String} {failure : Failure}
    (h : resolved net s host = .error failure) (port : UInt16) :
    ((udp host port).run net s).isSuccess = false := by
  have hresolve : (HostName.resolve host).run net ((Program.perform .instant).trace net s).2.1 =
      .error failure := h
  simp only [udp_eq, Program.run_bind, hresolve]
  rfl

end Attempt

namespace Probe

theorem silent_measure {p : Probe} (h : ∀ host port timeout, p ≠ .udp host port timeout) :
    Silent p.measure := by
  have hperform : Silent (Program.perform .epochSeconds) := .perform (by simp)
  have hclock (f : Nat → Verdict) : Silent (f <$> Program.perform .epochSeconds) := hperform.map f
  cases p with
  | tcp host port timeout => exact (Attempt.silent_tcp _ _ _).bind fun outcome => hclock _
  | udp host port timeout => exact absurd rfl (h host port timeout)
  | elasticsearch url credentials timeout =>
    refine (Attempt.silent_http _ _).bind fun base => Silent.bind ?_ fun health => hclock _
    unfold health
    split
    · exact (Attempt.silent_http _ _).map some
    · exact .done _
  | mqtt host port credentials timeout =>
    exact (Attempt.silent_tcp _ _ _).bind fun outcome => hclock _

theorem measure_udp (host : String) (port : UInt16) (timeout : Duration) :
    (udp host port timeout).measure.datagrams net s = (Attempt.udp host port).datagrams net s ∧
      ((udp host port timeout).measure.run net s).status =
        if ((Attempt.udp host port).run net s).isSuccess then .success else .warning := by
  have hperform : Silent (Program.perform .epochSeconds) := .perform (by simp)
  have hclock (f : Nat → Verdict) (t : σ) :
      (f <$> Program.perform .epochSeconds).datagrams net t = [] :=
    (hperform.map f).datagrams_eq_nil
  constructor
  · rw [measure, Program.datagrams_bind]
    exact (congrArg _ (hclock _ _)).trans (List.append_nil _)
  · rw [measure, Program.run_bind]
    exact Verdict.status_ofUdp _ _ _ _

end Probe

end Reachability
