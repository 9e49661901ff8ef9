import Reachability.Proofs.Attempt.Datagrams
import Reachability.Proofs.Endpoint
import Reachability.Proofs.Network.Follows
import Reachability.Proofs.Probe.Contract
import Reachability.Proofs.Probe.Credentials
import Reachability.Proofs.Verdict

/-!
# The time that an attempt takes

An attempt reads the clock, finds the address of its host, prepares and makes its contact, and
reads the clock again. It either goes all the way, and then tells the time between the two
readings, or it fails before its contact, and then makes none and tells no time. A test tells the
time of its first attempt.
-/
namespace Reachability

/-! ## Causes -/

namespace Failure

/-- Whether an attempt fails in this way before it makes its contact. -/
def isUntimed : Failure → Bool
  | .unresolved .. | .malformedUrl .. | .socketSetup _ => true
  | .connect _ | .connectTimeout _ | .send _ => false

inductive OfTcp (limit : Duration) : Failure → Prop
  | unresolved (host reason : String) : OfTcp limit (.unresolved host reason)
  | connect (e : IoError) : OfTcp limit (.connect e)
  | connectTimeout : OfTcp limit (.connectTimeout limit)

inductive OfUdp : Failure → Prop
  | unresolved (host reason : String) : OfUdp (.unresolved host reason)
  | socketSetup (e : IoError) : OfUdp (.socketSetup e)
  | send (e : IoError) : OfUdp (.send e)

inductive OfHttp (limit : Duration) : Failure → Prop
  | malformedUrl (url reason : String) : OfHttp limit (.malformedUrl url reason)
  | tcp {failure : Failure} (h : OfTcp limit failure) : OfHttp limit failure

end Failure

namespace Action

/-- Whether it reaches for the target of an attempt. -/
def isContact : Action → Bool
  | .connect .. | .send .. => true
  | .instant | .epochSeconds | .lookup _ | .bind _ => false

/-- Whether it is done before a contact and for it. -/
def isPreparation : Action → Bool
  | .lookup _ | .bind _ => true
  | .instant | .epochSeconds | .connect .. | .send .. => false

theorem isContact_of_isPreparation {action : Action} (h : action.isPreparation = true) :
    action.isContact = false := by
  cases action <;> first | rfl | cases h

end Action

/-! ## The clock -/

theorem Attempt.elapsedMs_eq (start finish : Nat) :
    elapsedMs start finish = min ((finish - start) / 1000000) (UInt64.size - 1) := by
  have hnanoseconds (n : Nat) : (Duration.ofNanoseconds n).toNanoseconds = n := by
    simp only [Duration.toNanoseconds, Duration.ofNanoseconds, Duration.ofParts]
    omega
  rw [elapsedMs, Outcome.milliseconds, Duration.wholeMilliseconds, hnanoseconds]

/-! ## Host names -/

namespace HostName

variable {σ : Type} (net : Network σ) (s : σ) (host : String)

theorem isPreparation_of_mem_dialogue :
    ∀ x ∈ (resolve host).dialogue net s, x.action.isPreparation = true := by
  unfold resolve
  dsimp only
  split
  · simp [Program.dialogue]
  · simp [Program.dialogue]
  · simp [Program.dialogue, Action.isPreparation]

theorem exists_of_run_eq_error {failure : Failure}
    (h : (resolve host).run net s = .error failure) :
    ∃ name reason, failure = .unresolved name reason := by
  unfold resolve at h
  dsimp only at h
  split at h
  · cases h
  · cases h
    exact ⟨_, _, rfl⟩
  · change firstAddress _ _ = _ at h
    unfold firstAddress at h
    split at h <;> cases h
    · exact ⟨_, _, rfl⟩
    · exact ⟨_, _, rfl⟩

end HostName

/-! ## Tests -/

namespace Probe

variable {σ : Type} (net : Network σ) (s : σ) (p : Probe)

/-- Whatever a probe goes on with, its verdict tells the time of the first attempt. -/
theorem responseTimeMs_conclude (outcome : Outcome) :
    ((p.conclude outcome).run net s).responseTimeMs = outcome.elapsedMs := by
  have htime (v : Verdict) : v.responseTimeMs = v.subject.2.2 := rfl
  rw [htime]
  cases p with
  | tcp host port timeout => exact congrArg (·.2.2) (Verdict.subject_ofTcp host port outcome _)
  | udp host port timeout => exact congrArg (·.2.2) (Verdict.subject_ofUdp host port outcome _)
  | elasticsearch url credentials timeout =>
    rw [conclude, Program.run_bind]
    exact congrArg (·.2.2) (Verdict.subject_ofElasticsearch url outcome _ credentials _)
  | mqtt host port credentials timeout =>
    exact congrArg (·.2.2) (Verdict.subject_ofMqtt host _ outcome credentials _)

theorem responseTimeMs_measure :
    (p.measure.run net s).responseTimeMs = (p.primary.run net s).elapsedMs := by
  rw [measure_eq, Program.run_bind, responseTimeMs_conclude]

theorem dialogue_conclude_of_failed {outcome : Outcome} (h : outcome.isSuccess = false) :
    (p.conclude outcome).dialogue net s =
      [⟨.epochSeconds, (net.answer s .epochSeconds).1⟩] := by
  cases p with
  | tcp _ _ _ | udp _ _ _ | mqtt _ _ _ _ => rfl
  | elasticsearch url credentials timeout =>
    rw [conclude, health, h]
    rfl

theorem dialogue_test_of_none (h : p.violation? = none) :
    p.test.dialogue net s = p.measure.dialogue net s := by
  rw [test, h]
  exact Program.dialogue_map Except.ok p.measure net s

end Probe

/-! ## Attempts -/

namespace Attempt

/-- How an attempt goes: what it asks and is answered, and its outcome. The first relation tells
why it fails before its contact, the second how its contact ends. -/
inductive Course (hinders : List Exchange → Failure → Prop)
    (ends : Exchange → Option Failure → Prop) : List Exchange → Outcome → Prop
  /-- It fails before its contact, makes none, and tells no time. -/
  | early {xs : List Exchange} {failure : Failure} (hhinders : hinders xs failure)
      (huntimed : failure.isUntimed = true) (hxs : ∀ x ∈ xs, x.action.isContact = false) :
      Course hinders ends xs ⟨0, some failure⟩
  /-- It tells the time from before its preparation to the end of its contact. -/
  | timed {start finish : Nat} {before : List Exchange} {last : Exchange}
      {failure : Option Failure} (hbefore : ∀ x ∈ before, x.action.isPreparation = true)
      (hends : ends last failure) (htimed : ∀ f ∈ failure, f.isUntimed = false) :
      Course hinders ends (⟨.instant, start⟩ :: before ++ [last, ⟨.instant, finish⟩])
        ⟨min ((finish - start) / 1000000) (UInt64.size - 1), failure⟩

namespace Course

variable {hinders weaker : List Exchange → Failure → Prop}
  {ends : Exchange → Option Failure → Prop} {xs : List Exchange} {o : Outcome}

theorem mono (h : Course hinders ends xs o) (himp : ∀ xs f, hinders xs f → weaker xs f) :
    Course weaker ends xs o := by
  cases h with
  | early hhinders huntimed hxs => exact .early (himp _ _ hhinders) huntimed hxs
  | timed hbefore hends htimed => exact .timed hbefore hends htimed

/-- An attempt fails for what hinders it or for how its contact ends. -/
theorem forall_failure {p : Failure → Prop} (h : Course hinders ends xs o)
    (hhinders : ∀ xs f, hinders xs f → p f) (hends : ∀ x f, ends x (some f) → p f) :
    ∀ f ∈ o.failure, p f := by
  rintro f hf
  cases h with
  | early h _ _ =>
    cases hf
    exact hhinders _ _ h
  | timed _ h _ =>
    cases hf
    exact hends _ _ h

theorem prepared {start : Nat} {before : List Exchange} {failure : Failure}
    (hbefore : ∀ x ∈ before, x.action.isPreparation = true)
    (hhinders : hinders (⟨.instant, start⟩ :: before) failure)
    (huntimed : failure.isUntimed = true) :
    Course hinders ends (⟨.instant, start⟩ :: before) (.failed 0 failure) := by
  refine .early hhinders huntimed ?_
  rw [List.forall_mem_cons]
  exact ⟨rfl, fun x hx => Action.isContact_of_isPreparation (hbefore x hx)⟩

end Course

/-- How an attempt to connect ends that is given up after a limit. -/
inductive Connects (limit : Duration) : Exchange → Option Failure → Prop
  | established (target : SocketAddress) :
      Connects limit ⟨.connect target limit, .established⟩ none
  | failed (target : SocketAddress) (e : IoError) :
      Connects limit ⟨.connect target limit, .failed e⟩ (some (.connect e))
  | timedOut (target : SocketAddress) :
      Connects limit ⟨.connect target limit, .timedOut⟩ (some (.connectTimeout limit))

inductive Sends : Exchange → Option Failure → Prop
  | sent (target : SocketAddress) (n : Nat) : Sends ⟨.send target payload, .ok (n + 1)⟩ none
  | nothing (target : SocketAddress) : Sends ⟨.send target payload, .ok 0⟩
      (some (.send (.described .writeZero "no bytes sent")))
  | failed (target : SocketAddress) (e : IoError) :
      Sends ⟨.send target payload, .error e⟩ (some (.send e))

variable {σ : Type} (net : Network σ) (s : σ) (host url : String) (port : UInt16)
  (limit : Duration)

/-- A host without an address hinders an attempt. -/
def HindersTcp (_ : List Exchange) (failure : Failure) : Prop :=
  resolved net s host = .error failure

def HindersUdp (xs : List Exchange) (failure : Failure) : Prop :=
  resolved net s host = .error failure ∨
    ∃ source e, ⟨.bind source, .error e⟩ ∈ xs ∧ failure = .socketSetup e

def HindersHttp (xs : List Exchange) (failure : Failure) : Prop :=
  Endpoint.ofUrl url = .error failure ∨
    ∃ endpoint, Endpoint.ofUrl url = .ok endpoint ∧ HindersTcp net s endpoint.host xs failure

/-- The clock is read and the address of the host found, and an attempt goes on with both. -/
def withAddress (host : String) (rest : Nat → IpAddress → Program Outcome) : Program Outcome := do
  let start ← Program.perform .instant
  match ← HostName.resolve host with
  | .error failure => return .failed 0 failure
  | .ok ip => rest start ip

theorem course_withAddress {hinders : List Exchange → Failure → Prop}
    {ends : Exchange → Option Failure → Prop} {rest : Nat → IpAddress → Program Outcome}
    (hhinders : ∀ xs f, HindersTcp net s host xs f → hinders xs f)
    (hrest : ∀ start ip t before, (∀ x ∈ before, x.action.isPreparation = true) →
      Course hinders ends (⟨.instant, start⟩ :: before ++ (rest start ip).dialogue net t)
        ((rest start ip).run net t)) :
    Course hinders ends ((withAddress host rest).dialogue net s)
      ((withAddress host rest).run net s) := by
  have hbefore := HostName.isPreparation_of_mem_dialogue net (net.answer s .instant).2 host
  rw [withAddress, Program.dialogue_perform_bind, Program.run_perform_bind,
    Program.dialogue_bind_run, Program.run_bind]
  cases hended : (HostName.resolve host).run net (net.answer s .instant).2 with
  | error failure =>
    rw [Program.dialogue_pure, List.append_nil]
    refine .prepared hbefore (hhinders _ _ hended) ?_
    obtain ⟨name, reason, rfl⟩ := HostName.exists_of_run_eq_error net _ host hended
    rfl
  | ok ip => exact hrest _ ip _ _ hbefore

theorem course_ofConnection {hinders : List Exchange → Failure → Prop} (start finish : Nat)
    (target : SocketAddress) (before : List Exchange)
    (hbefore : ∀ x ∈ before, x.action.isPreparation = true) (connection : Connection) :
    Course hinders (Connects limit)
      (⟨.instant, start⟩ :: before ++ [⟨.connect target limit, connection⟩, ⟨.instant, finish⟩])
      (ofConnection limit (elapsedMs start finish) connection) := by
  rw [elapsedMs_eq]
  cases connection with
  | established => exact .timed hbefore (.established target) (by simp)
  | failed e => exact .timed hbefore (.failed target e) (by simp [Failure.isUntimed])
  | timedOut => exact .timed hbefore (.timedOut target) (by simp [Failure.isUntimed])

theorem course_tcp :
    Course (HindersTcp net s host) (Connects limit) ((tcp host port limit).dialogue net s)
      ((tcp host port limit).run net s) :=
  course_withAddress net s host (fun _ _ => id) fun _ _ _ before hbefore =>
    course_ofConnection limit _ _ _ before hbefore _

theorem course_ofSend {hinders : List Exchange → Failure → Prop} (start finish : Nat)
    (target : SocketAddress) (before : List Exchange)
    (hbefore : ∀ x ∈ before, x.action.isPreparation = true) (sent : Except IoError Nat) :
    Course hinders Sends
      (⟨.instant, start⟩ :: before ++ [⟨.send target payload, sent⟩, ⟨.instant, finish⟩])
      (ofSend (elapsedMs start finish) sent) := by
  rw [elapsedMs_eq]
  match sent with
  | .ok 0 => exact .timed hbefore (.nothing target) (by simp [Failure.isUntimed])
  | .ok (n + 1) => exact .timed hbefore (.sent target n) (by simp)
  | .error e => exact .timed hbefore (.failed target e) (by simp [Failure.isUntimed])

theorem course_sendTo (start : Nat) (ip : IpAddress) (t : σ) (before : List Exchange)
    (hbefore : ∀ x ∈ before, x.action.isPreparation = true) :
    Course (HindersUdp net s host) Sends
      (⟨.instant, start⟩ :: before ++ (sendTo start ip port).dialogue net t)
      ((sendTo start ip port).run net t) := by
  rw [sendTo, Program.dialogue_perform_bind, Program.run_perform_bind, List.append_cons]
  generalize hbound : (net.answer t (.bind (source ip))).1 = bound
  have hprepared : ∀ x ∈ before ++ [⟨.bind (source ip), bound⟩], x.action.isPreparation = true := by
    simpa [or_imp, forall_and, Action.isPreparation] using hbefore
  cases bound with
  | error e =>
    rw [Program.dialogue_pure, List.append_nil]
    exact .prepared hprepared (.inr ⟨source ip, e, by simp, rfl⟩) rfl
  | ok _ => exact course_ofSend _ _ _ _ hprepared _

theorem course_udp :
    Course (HindersUdp net s host) Sends ((udp host port).dialogue net s)
      ((udp host port).run net s) :=
  course_withAddress net s host (fun _ _ => .inl) (course_sendTo net s host port)

theorem course_http :
    Course (HindersHttp net s url) (Connects limit) ((http url limit).dialogue net s)
      ((http url limit).run net s) := by
  unfold http
  rcases Endpoint.ofUrl_eq_ok_or_error url with ⟨endpoint, hread⟩ | ⟨reason, hread⟩
  · rw [hread]
    refine (course_tcp net s endpoint.host endpoint.port limit).mono ?_
    exact fun _ _ h => .inr ⟨endpoint, hread, h⟩
  · rw [hread]
    exact .early (.inl hread) rfl (by simp [Program.dialogue])

/-! ## Causes of failures -/

theorem ofTcp_of_hinders {xs : List Exchange} {failure : Failure}
    (h : HindersTcp net s host xs failure) : failure.OfTcp limit := by
  obtain ⟨name, reason, rfl⟩ := HostName.exists_of_run_eq_error net _ host h
  exact .unresolved name reason

theorem ofTcp_of_connects {x : Exchange} {failure : Failure}
    (h : Connects limit x (some failure)) : failure.OfTcp limit := by
  cases h with
  | failed _ e => exact .connect e
  | timedOut => exact .connectTimeout

theorem ofUdp_of_hinders {xs : List Exchange} {failure : Failure}
    (h : HindersUdp net s host xs failure) : failure.OfUdp := by
  rcases h with h | ⟨source, e, -, rfl⟩
  · obtain ⟨name, reason, rfl⟩ := HostName.exists_of_run_eq_error net _ host h
    exact .unresolved name reason
  · exact .socketSetup e

theorem ofUdp_of_sends {x : Exchange} {failure : Failure} (h : Sends x (some failure)) :
    failure.OfUdp := by
  cases h with
  | nothing => exact .send _
  | failed _ e => exact .send e

theorem ofHttp_of_hinders {xs : List Exchange} {failure : Failure}
    (h : HindersHttp net s url xs failure) : failure.OfHttp limit := by
  rcases h with h | ⟨endpoint, -, h⟩
  · rcases Endpoint.ofUrl_eq_ok_or_error url with ⟨endpoint, hread⟩ | ⟨reason, hread⟩
    · cases h.symm.trans hread
    · cases h.symm.trans hread
      exact .malformedUrl url reason
  · exact .tcp (ofTcp_of_hinders net s endpoint.host limit h)

/-- However the network answers, an attempt fails for a cause of its own only. It either makes its
contact and tells the time from before the lookup to the end of the contact, or something hinders
it, and then it makes no contact and tells no time. A test tells the time of its first attempt, and
makes no other where that one failed. -/
theorem timed_by_contact :
    ((∀ f ∈ ((tcp host port limit).run net s).failure, f.OfTcp limit) ∧
      Course (HindersTcp net s host) (Connects limit) ((tcp host port limit).dialogue net s)
        ((tcp host port limit).run net s)) ∧
    ((∀ f ∈ ((udp host port).run net s).failure, f.OfUdp) ∧
      Course (HindersUdp net s host) Sends ((udp host port).dialogue net s)
        ((udp host port).run net s)) ∧
    ((∀ f ∈ ((http url limit).run net s).failure, f.OfHttp limit) ∧
      Course (HindersHttp net s url) (Connects limit) ((http url limit).dialogue net s)
        ((http url limit).run net s)) ∧
    ∀ p : Probe, p.violation? = none →
      (∃ verdict, p.test.run net s = .ok verdict ∧
        verdict.responseTimeMs = (p.primary.run net s).elapsedMs) ∧
      p.primary.dialogue net s <+: p.test.dialogue net s ∧
      ((p.primary.run net s).isSuccess = false → ∃ date,
        p.test.dialogue net s = p.primary.dialogue net s ++ [⟨.epochSeconds, date⟩]) := by
  have htcp := course_tcp net s host port limit
  have hudp := course_udp net s host port
  have hhttp := course_http net s url limit
  refine ⟨⟨?_, htcp⟩, ⟨?_, hudp⟩, ⟨?_, hhttp⟩, ?_⟩
  · exact htcp.forall_failure (fun _ _ => ofTcp_of_hinders net s host limit)
      fun _ _ => ofTcp_of_connects limit
  · exact hudp.forall_failure (fun _ _ => ofUdp_of_hinders net s host) fun _ _ => ofUdp_of_sends
  · exact hhttp.forall_failure (fun _ _ => ofHttp_of_hinders net s url limit)
      fun _ _ h => .tcp (ofTcp_of_connects limit h)
  intro p h
  have hdialogue : p.test.dialogue net s = p.primary.dialogue net s ++
      (p.conclude (p.primary.run net s)).dialogue net (p.primary.trace net s).2.1 := by
    rw [p.dialogue_test_of_none net s h, Probe.measure_eq, Program.dialogue_bind_run]
  refine ⟨⟨_, p.run_test_of_none net s h, p.responseTimeMs_measure net s⟩, ?_, ?_⟩
  · rw [hdialogue]
    exact List.prefix_append _ _
  · intro hfailed
    rw [hdialogue, p.dialogue_conclude_of_failed net _ hfailed]
    exact ⟨_, rfl⟩

/-- A connection that is given up after four milliseconds, of which the last is not over. -/
theorem timed_by_contact_timed_out :
    let p : Probe := .tcp "127.0.0.1" 80 (.ofParts 0 3500000)
    let answers : List Exchange := [⟨.instant, (1000000 : Nat)⟩,
      ⟨.connect (.v4 .loopback 80) (.ofParts 0 3500000), .timedOut⟩,
      ⟨.instant, (4900000 : Nat)⟩, ⟨.epochSeconds, (7 : Nat)⟩]
    p.violation? = none ∧ (p.primary.run .recorded answers).isSuccess = false ∧
      ∃ verdict, p.test.run .recorded answers = .ok verdict ∧ verdict.responseTimeMs = 3 := by
  intro p answers
  have hallowed : p.violation? = none := by decide
  have htest := (timed_by_contact .recorded answers "127.0.0.1" "" 80 .zero).2.2.2 p hallowed
  obtain ⟨verdict, hrun, htime⟩ := htest.1
  exact ⟨hallowed, by decide +kernel, verdict, hrun, htime.trans (by decide +kernel)⟩

end Attempt

end Reachability
