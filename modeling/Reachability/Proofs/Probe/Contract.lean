import Reachability.Proofs.Verdict.Status

/-!
# The contract of a probe

A probe needs a target with something in it, a port and time. A test that breaks this is
refused with the first thing that is wrong: its target, then its port, then its time. Nothing
is asked of the outside before that. A test that keeps to it ends with a verdict, whatever the
network does.
-/
namespace Reachability

namespace Text

def whiteSpace : List Char := [
  '\u0009', '\u000a', '\u000b', '\u000c', '\u000d', '\u0020', '\u0085', '\u00a0', '\u1680',
  '\u2000', '\u2001', '\u2002', '\u2003', '\u2004', '\u2005', '\u2006', '\u2007', '\u2008',
  '\u2009', '\u200a', '\u2028', '\u2029', '\u202f', '\u205f', '\u3000']

theorem isBlank_iff {c : Char} : isBlank c = true ↔ c ∈ whiteSpace := by
  have htoNat (d : Char) : c = d ↔ c.toNat = d.toNat :=
    ⟨congrArg Char.toNat, fun h => Char.ext (UInt32.toNat_inj.mp h)⟩
  have hnumbers : whiteSpace.map Char.toNat = [
      0x09, 0x0A, 0x0B, 0x0C, 0x0D, 0x20, 0x85, 0xA0, 0x1680, 0x2000, 0x2001, 0x2002, 0x2003,
      0x2004, 0x2005, 0x2006, 0x2007, 0x2008, 0x2009, 0x200A, 0x2028, 0x2029, 0x202F, 0x205F,
      0x3000] := by decide
  have hmem : c ∈ whiteSpace ↔ c.toNat ∈ whiteSpace.map Char.toNat := by
    simp only [List.mem_map]
    exact ⟨fun h => ⟨c, h, rfl⟩, fun ⟨d, hd, h⟩ => (htoNat d).mpr h.symm ▸ hd⟩
  rw [hmem, hnumbers]
  simp only [isBlank, List.mem_cons, List.not_mem_nil, or_false, Bool.or_eq_true,
    Bool.and_eq_true, decide_eq_true_eq, beq_iff_eq]
  omega

theorem isAllBlank_iff {text : String} :
    isAllBlank text = true ↔ ∀ c ∈ text.toList, c ∈ whiteSpace := by
  simp only [isAllBlank, List.all_eq_true, isBlank_iff]

end Text

theorem Duration.isZero_iff {d : Duration} : d.isZero = true ↔ d = .zero := by
  obtain ⟨seconds, nanoseconds, h⟩ := d
  simp [isZero, zero]

def Violation.place : Violation → Nat
  | .missingHost | .missingUrl => 0
  | .missingPort => 1
  | .zeroTimeout => 2

namespace Probe

def host? : Probe → Option String
  | .tcp host _ _ | .udp host _ _ | .mqtt host _ _ _ => some host
  | .elasticsearch .. => none

def url? : Probe → Option String
  | .elasticsearch url _ _ => some url
  | .tcp .. | .udp .. | .mqtt .. => none

/-- The port that a probe names. That of a broker may be left open, and a URL is not asked for
one. -/
def port? : Probe → Option UInt16
  | .tcp _ port _ | .udp _ port _ => some port
  | .mqtt _ port _ _ => port
  | .elasticsearch .. => none

def timeout : Probe → Duration
  | .tcp _ _ timeout | .udp _ _ timeout | .elasticsearch _ _ timeout | .mqtt _ _ _ timeout =>
    timeout

/-- Holds if a probe breaks its contract in some way, whatever else is wrong with it. -/
inductive Breaks (p : Probe) : Violation → Prop
  | host {host : String} (hhost : p.host? = some host)
      (h : ∀ c ∈ host.toList, c ∈ Text.whiteSpace) : Breaks p .missingHost
  | url {url : String} (hurl : p.url? = some url) (h : ∀ c ∈ url.toList, c ∈ Text.whiteSpace) :
      Breaks p .missingUrl
  | port (h : p.port? = some 0) : Breaks p .missingPort
  | timeout (h : p.timeout = .zero) : Breaks p .zeroTimeout

/-- Holds of the first violation of a contract. -/
def BreaksFirst (p : Probe) (v : Violation) : Prop :=
  p.Breaks v ∧ ∀ w, p.Breaks w → v.place ≤ w.place

variable {p : Probe} {v w : Violation}

/-- A probe has either a host or a URL, so no place is that of two violations. -/
theorem Breaks.eq_of_place (hv : p.Breaks v) (hw : p.Breaks w) (h : v.place = w.place) :
    v = w := by
  have hnot {host url : String} (hhost : p.host? = some host) (hurl : p.url? = some url) :
      False := by
    cases p <;> simp [host?, url?] at hhost hurl
  cases hv with
  | host hhost _ =>
    cases hw with
    | host _ _ => rfl
    | url hurl _ => exact (hnot hhost hurl).elim
    | port _ | timeout _ => cases h
  | url hurl _ =>
    cases hw with
    | host hhost _ => exact (hnot hhost hurl).elim
    | url _ _ => rfl
    | port _ | timeout _ => cases h
  | port _ =>
    cases hw with
    | port _ => rfl
    | host _ _ | url _ _ | timeout _ => cases h
  | timeout _ =>
    cases hw with
    | timeout _ => rfl
    | host _ _ | url _ _ | port _ => cases h

theorem breaks_missingHost :
    p.Breaks .missingHost ↔ ∃ host, p.host? = some host ∧ Text.isAllBlank host = true := by
  constructor
  · rintro ⟨hhost, h⟩
    exact ⟨_, hhost, Text.isAllBlank_iff.mpr h⟩
  · rintro ⟨host, hhost, h⟩
    exact .host hhost (Text.isAllBlank_iff.mp h)

theorem breaks_missingUrl :
    p.Breaks .missingUrl ↔ ∃ url, p.url? = some url ∧ Text.isAllBlank url = true := by
  constructor
  · rintro ⟨⟩
    exact ⟨_, ‹_›, Text.isAllBlank_iff.mpr ‹_›⟩
  · rintro ⟨url, hurl, h⟩
    exact .url hurl (Text.isAllBlank_iff.mp h)

theorem breaks_missingPort : p.Breaks .missingPort ↔ p.port? = some 0 := by
  constructor
  · rintro ⟨⟩
    assumption
  · exact .port

theorem breaks_zeroTimeout : p.Breaks .zeroTimeout ↔ p.timeout.isZero = true := by
  constructor
  · rintro ⟨⟩
    exact Duration.isZero_iff.mpr ‹_›
  · intro h
    exact .timeout (Duration.isZero_iff.mp h)

/-! ### The checks in order -/

/-- Holds of what the checks from a place on say: the first violation there is from that place
on, or none if there is none. -/
def JudgedFrom (p : Probe) (place : Nat) : Option Violation → Prop
  | some v => p.Breaks v ∧ ∀ w, p.Breaks w → place ≤ w.place → v.place ≤ w.place
  | none => ∀ w, p.Breaks w → ¬ place ≤ w.place

theorem judgedFrom_none : p.JudgedFrom 3 none := by
  intro w _
  cases w <;> decide

theorem JudgedFrom.check {c : Prop} [Decidable c] {place : Nat} {rest : Option Violation}
    (hv : p.Breaks v ↔ c) (hplace : v.place = place)
    (hsole : ∀ w, p.Breaks w → w.place = place → w = v) (hrest : p.JudgedFrom (place + 1) rest) :
    p.JudgedFrom place (if c then some v else rest) := by
  by_cases hc : c
  · rw [if_pos hc]
    exact ⟨hv.mpr hc, fun w _ hle => hplace ▸ hle⟩
  · rw [if_neg hc]
    have hlater {w : Violation} (hw : p.Breaks w) (hle : place ≤ w.place) :
        place + 1 ≤ w.place := by
      refine Nat.lt_of_le_of_ne hle fun heq => hc (hv.mp ?_)
      exact hsole w hw heq.symm ▸ hw
    cases rest with
    | none => exact fun w hw hle => hrest w hw (hlater hw hle)
    | some u => exact ⟨hrest.1, fun w hw hle => hrest.2 w hw (hlater hw hle)⟩

theorem judgedFrom_time :
    p.JudgedFrom 2 (if p.timeout.isZero then some .zeroTimeout else none) := by
  refine .check breaks_zeroTimeout rfl ?_ judgedFrom_none
  intro w _ hplace
  cases w with
  | zeroTimeout => rfl
  | missingHost | missingUrl | missingPort => cases hplace

theorem eq_missingPort (hplace : w.place = 1) : w = .missingPort := by
  cases w with
  | missingPort => rfl
  | missingHost | missingUrl | zeroTimeout => cases hplace

theorem judgedFrom_hostViolation? {host : String} {port : UInt16} (hhost : p.host? = some host)
    (hport : p.port? = some 0 ↔ port = 0) :
    p.JudgedFrom 0 (hostViolation? host port p.timeout) := by
  refine .check ?_ rfl ?_ (.check ?_ rfl (fun w _ => eq_missingPort) judgedFrom_time)
  · simp [breaks_missingHost, hhost]
  · intro w hw hplace
    cases w with
    | missingHost => rfl
    | missingUrl =>
      obtain ⟨url, hurl, -⟩ := breaks_missingUrl.mp hw
      cases p <;> simp [host?, url?] at hhost hurl
    | missingPort | zeroTimeout => cases hplace
  · rw [breaks_missingPort, hport]

/-- A URL is not asked for a port, so the check of the port never fails. -/
theorem judgedFrom_urlViolation? {url : String} (hurl : p.url? = some url)
    (hport : p.port? = none) : p.JudgedFrom 0 (urlViolation? url p.timeout) := by
  have hrest : p.JudgedFrom 1
      (if False then some .missingPort else if p.timeout.isZero then some .zeroTimeout else none) :=
    .check (by simp [breaks_missingPort, hport]) rfl (fun w _ => eq_missingPort) judgedFrom_time
  rw [if_neg not_false] at hrest
  refine .check ?_ rfl ?_ hrest
  · simp [breaks_missingUrl, hurl]
  · intro w hw hplace
    cases w with
    | missingUrl => rfl
    | missingHost =>
      obtain ⟨host, hhost, -⟩ := breaks_missingHost.mp hw
      cases p <;> simp [host?, url?] at hhost hurl
    | missingPort | zeroTimeout => cases hplace

theorem judgedFrom_violation? (p : Probe) : p.JudgedFrom 0 p.violation? := by
  cases p with
  | tcp host port timeout => exact judgedFrom_hostViolation? rfl (by simp [port?])
  | udp host port timeout => exact judgedFrom_hostViolation? rfl (by simp [port?])
  | elasticsearch url credentials timeout => exact judgedFrom_urlViolation? rfl rfl
  | mqtt host port credentials timeout =>
    -- The port that stands in for one left open is none that a check refuses.
    refine judgedFrom_hostViolation? rfl ?_
    cases port <;> simp [port?, Mqtt.defaultPort]

theorem violation?_eq_some : p.violation? = some v ↔ p.BreaksFirst v := by
  have hjudged := judgedFrom_violation? p
  constructor
  · intro h
    rw [h] at hjudged
    exact ⟨hjudged.1, fun w hw => hjudged.2 w hw (Nat.zero_le _)⟩
  · rintro ⟨hv, hfirst⟩
    cases hviolation : p.violation? with
    | none =>
      rw [hviolation] at hjudged
      exact absurd (Nat.zero_le _) (hjudged v hv)
    | some w =>
      rw [hviolation] at hjudged
      obtain ⟨hw, hle⟩ := hjudged
      have hplace := Nat.le_antisymm (hle v hv (Nat.zero_le _)) (hfirst w hw)
      rw [hw.eq_of_place hv hplace]

theorem violation?_eq_none : p.violation? = none ↔ ∀ v, ¬ p.Breaks v := by
  have hjudged := judgedFrom_violation? p
  constructor
  · intro h v hv
    rw [h] at hjudged
    exact hjudged v hv (Nat.zero_le _)
  · intro h
    rw [Option.eq_none_iff_forall_ne_some]
    intro v hv
    exact h v (violation?_eq_some.mp hv).1

/-! ### The test -/

theorem run_test_of_violation? {σ : Type} (net : Network σ) (s : σ) (h : p.violation? = some v) :
    p.test.trace net s = (.error v, s, []) := by
  rw [test, h]
  rfl

theorem run_test_of_none {σ : Type} (net : Network σ) (s : σ) (h : p.violation? = none) :
    p.test.run net s = .ok (p.measure.run net s) := by
  simp [test, h, Program.run]

/-- A test is refused exactly if its contract is broken, with the first violation and before
anything is asked of the outside. Every other test ends with a verdict, which is a success, a
warning or an error, whatever the network does. -/
theorem refused_by_contract {σ : Type} (net : Network σ) (p : Probe) (s : σ) :
    let ended := p.test.run net s
    ((∃ v, ended = .error v) ↔ ∃ v, p.Breaks v) ∧
    (∀ v, ended = .error v ↔ p.BreaksFirst v) ∧
    ((∃ v, ended = .error v) → (p.test.trace net s).2 = (s, [])) ∧
    ((∀ v, ¬ p.Breaks v) → ∃ verdict, ended = .ok verdict ∧
      (verdict.status = .success ∨ verdict.status = .warning ∨ verdict.status = .error)) := by
  intro ended
  cases hviolation : p.violation? with
  | none =>
    have hkept := violation?_eq_none.mp hviolation
    have hended : ended = .ok (p.measure.run net s) := run_test_of_none net s hviolation
    refine ⟨?_, ?_, ?_, fun _ => ⟨_, hended, isSettled_run net p s⟩⟩
    · simp [hended, hkept]
    · intro v
      simp [hended, BreaksFirst, hkept]
    · simp [hended]
  | some v =>
    have htrace := run_test_of_violation? net s hviolation
    have hended : ended = .error v := congrArg Prod.fst htrace
    have hfirst := violation?_eq_some.mp hviolation
    refine ⟨?_, ?_, fun _ => congrArg Prod.snd htrace, fun hkept => absurd hfirst.1 (hkept v)⟩
    · exact ⟨fun _ => ⟨v, hfirst.1⟩, fun _ => ⟨v, hended⟩⟩
    · intro w
      rw [← violation?_eq_some, hviolation, hended, Except.error.injEq, Option.some_inj]

end Probe

end Reachability
