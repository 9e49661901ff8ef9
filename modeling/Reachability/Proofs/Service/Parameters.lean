import Reachability.Proofs.Json.Record
import Reachability.Proofs.Service.Answers

/-!
# Asking for a probe by a body

An object that holds the parameters of a probe is decoded to just these parameters, however
it is written: its members may stand in any order, among others that mean nothing, and a
parameter that has its default may be left out. The answer is then what the test itself ends
with.
-/
namespace Reachability.Service

open Json (Document Reader Shape)

/-! ## Parameters of an object -/

/-- Holds if a member of an object has a value, or if there is no such member and the value is
the default. -/
def Has (ms : List (String × Json)) (name : String) (toJson : α → Json) (default x : α) : Prop :=
  ms.lookup name = some (toJson x) ∨ ms.lookup name = none ∧ x = default

def Once (ms : List (String × Json)) (names : List String) : Prop :=
  ∀ name ∈ names, (ms.map (·.1)).count name ≤ 1

/-- A value that may be missing, which is null then. -/
def orNull (toJson : α → Json) : Option α → Json
  | none => .null
  | some a => toJson a

def portJson (port : UInt16) : Json := .natural port.toNat

theorem lookup_of_mem {ms : List (String × Json)} {name : String} {v : Json} (h : (name, v) ∈ ms)
    (honce : (ms.map (·.1)).count name ≤ 1) : ms.lookup name = some v := by
  induction ms with
  | nil => cases h
  | cons m ms ih =>
    rcases List.mem_cons.mp h with rfl | h
    · simp
    · have hmem : name ∈ ms.map (·.1) := List.mem_map_of_mem h
      have hcount := List.one_le_count_iff.mpr hmem
      rw [List.map_cons, List.count_cons] at honce
      have hne : m.1 ≠ name := by
        rintro rfl
        simp at honce
        omega
      have hbeq : (name == m.1) = false := beq_eq_false_iff_ne.mpr hne.symm
      rw [List.lookup_cons, hbeq]
      exact ih h (by omega)

section

variable {α : Type} {ms : List (String × Json)} {name : String} {toJson : α → Json} {default x : α}

theorem Has.reads_into {ρ : Type} {r : Reader α} {set : α → ρ → ρ} {step : ρ → String → ρ}
    (h : Has ms name toJson default x) (hr : r.Reads (toJson x) x)
    (honce : (ms.map (·.1)).count name ≤ 1) {m : String × Json} (hm : m ∈ ms) (hname : name = m.1)
    (hstep : ∀ record, step record name = set x record) :
    (Reader.into r set).Reads m.2 (step · m.1) := by
  obtain ⟨k, v⟩ := m
  obtain rfl : name = k := hname
  have hlookup := lookup_of_mem hm honce
  rcases h with h | ⟨h, -⟩
  · obtain rfl : toJson x = v := Option.some_inj.mp (h.symm.trans hlookup)
    simp only [hstep]
    exact Reader.reads_into hr set
  · rw [hlookup] at h
    cases h

theorem Has.eq_default (h : Has ms name toJson default x) (hnone : name ∉ ms.map (·.1)) :
    x = default := by
  rcases h with h | ⟨-, h⟩
  · obtain ⟨front, back, rfl, -⟩ := List.lookup_eq_some_iff.mp h
    exact absurd (by simp) hnone
  · exact h

end

/-! ## Readers of parameters -/

theorem reads_portNumber (port : UInt16) : portNumber.Reads (portJson port) port := by
  intro before bs rest hbefore h hrest
  have hlimit : port.toNat ≤ 65535 := Nat.le_of_lt_succ port.toNat_lt
  have hsize : port.toNat < UInt64.size := Nat.lt_of_le_of_lt hlimit (by decide)
  have hread := Reader.reads_natural hlimit hsize "u16" hbefore h hrest
  simp only [portNumber, hread, Except.map, UInt16.ofNat_toNat]

theorem reads_seconds {n : Nat} (h : n < UInt64.size) : seconds.Reads (.natural n) n :=
  Reader.reads_natural (Nat.le_sub_one_of_lt h) h "u64"

theorem reads_orNull {r : Reader α} {toJson : α → Json} {x : Option α}
    (hnull : ∀ a, toJson a ≠ .null) (h : ∀ a ∈ x, r.Reads (toJson a) a) :
    (Reader.optional r).Reads (orNull toJson x) x := by
  cases x with
  | none => exact Reader.reads_optional_null r
  | some a => exact Reader.reads_optional (hnull a) (h a rfl)

theorem reads_timeout {timeout : Option Nat} (h : ∀ n ∈ timeout, n < UInt64.size) :
    (Reader.optional seconds).Reads (orNull .natural timeout) timeout :=
  reads_orNull (fun n => by simp [Json.natural]) fun n hn => reads_seconds (h n hn)

theorem reads_port (port : Option UInt16) :
    (Reader.optional portNumber).Reads (orNull portJson port) port :=
  reads_orNull (fun n => by simp [portJson, Json.natural]) fun n _ => reads_portNumber n

theorem all_isBodyBlank_document {v : Json} {body : List UInt8} (h : Document v body) :
    body.all isBodyBlank = false := by
  cases h with
  | mk hbefore hv hafter =>
    obtain ⟨b, tail, rfl, hb⟩ := hv.begins
    have hfirst : isBodyBlank b = false := by
      cases v with
      | boolean value =>
        obtain rfl := eq_of_beq hb
        cases value <;> decide
      | number n =>
        rcases Bool.or_eq_true_iff.mp hb with hb | hb
        · obtain rfl := eq_of_beq hb
          decide
        · simp [isBodyBlank, Json.Numeral.ne_of_isDigit hb]
      | null | text _ | array _ | object _ =>
        obtain rfl := eq_of_beq hb
        decide
    simp [hfirst]

theorem decodeBody_document {ρ : Type} {s : Shape ρ} {step : ρ → String → ρ}
    {ms : List (String × Json)} {body : List UInt8} (h : Document (.object ms) body)
    (hfollows : ∀ m ∈ ms, s.Follows step m) (honce : Once ms (s.fields.map (·.name))) :
    decodeBody s body = .ok ((ms.map (·.1)).foldl step s.defaults) := by
  have hread := Shape.readAll_document h hfollows fun field hfield =>
    honce field.name (List.mem_map_of_mem hfield)
  rw [decodeBody, all_isBodyBlank_document h, hread]
  rfl

/-! ## Records of parameters -/

/-- A component of a record: the name of its member, and how that is read and written. -/
structure Parameter (ρ : Type) where
  {α : Type}
  name : String
  reader : Reader α
  toJson : α → Json
  get : ρ → α
  set : α → ρ → ρ

/-- Holds of the parameters that make up the records of a shape. -/
structure MakeUp (s : Shape ρ) (ps : List (Parameter ρ)) : Prop where
  fields : s.fields.map (fun field => (field.name, field.read)) =
    ps.map fun p => (p.name, Reader.into p.reader p.set)
  names : (ps.map (·.name)).Nodup
  get_set : ∀ p ∈ ps, ∀ x r, p.get (p.set x r) = x
  get_set_ne : ∀ p ∈ ps, ∀ q ∈ ps, q.name ≠ p.name → ∀ x r, p.get (q.set x r) = p.get r
  ext : ∀ r r', (∀ p ∈ ps, p.get r = p.get r') → r = r'

def take (ps : List (Parameter ρ)) (full r : ρ) (name : String) : ρ :=
  match ps.find? (·.name == name) with
  | some p => p.set (p.get full) r
  | none => r

namespace MakeUp

variable {ρ : Type} {s : Shape ρ} {ps : List (Parameter ρ)} {full : ρ} {ms : List (String × Json)}

theorem find?_name (h : MakeUp s ps) {p : Parameter ρ} (hp : p ∈ ps) :
    ps.find? (·.name == p.name) = some p := by
  obtain ⟨before, after, rfl⟩ := List.append_of_mem hp
  have hnames := h.names
  rw [List.map_append, List.nodup_append] at hnames
  refine List.find?_eq_some_iff_append.mpr ⟨beq_self_eq_true _, before, after, rfl, ?_⟩
  intro q hq
  have hne := hnames.2.2 q.name (List.mem_map_of_mem hq) p.name (by simp)
  simpa using hne

theorem get_take (h : MakeUp s ps) {p : Parameter ρ} (hp : p ∈ ps) (r : ρ) (name : String) :
    p.get (take ps full r name) = if name = p.name then p.get full else p.get r := by
  by_cases hname : name = p.name
  · rw [take, hname, h.find?_name hp, if_pos rfl]
    exact h.get_set p hp _ r
  · rw [take, if_neg hname]
    cases hfind : ps.find? (·.name == name) with
    | none => rfl
    | some q =>
      have hq : q.name = name := by simpa using List.find?_some hfind
      exact h.get_set_ne p hp q (List.mem_of_find?_eq_some hfind) (hq ▸ hname) _ r

theorem get_foldl_take (h : MakeUp s ps) {p : Parameter ρ} (hp : p ∈ ps) (names : List String)
    (r : ρ) :
    p.get (names.foldl (take ps full) r) = if p.name ∈ names then p.get full else p.get r := by
  induction names generalizing r with
  | nil => rfl
  | cons first names ih =>
    rw [List.foldl_cons, ih, h.get_take hp]
    by_cases hmem : p.name ∈ names
    · simp [hmem]
    · by_cases hfirst : first = p.name
      · simp [hfirst]
      · simp [hmem, hfirst, Ne.symm hfirst]

/-- Each member changes the record as taking its name does. -/
theorem follows (h : MakeUp s ps) (honce : Once ms (ps.map (·.name)))
    (hhas : ∀ p ∈ ps, Has ms p.name p.toJson (p.get s.defaults) (p.get full))
    (hreads : ∀ p ∈ ps, p.reader.Reads (p.toJson (p.get full)) (p.get full)) :
    ∀ m ∈ ms, s.Follows (take ps full) m := by
  intro m hm
  constructor
  · intro field hfield hname
    have hmem : (field.name, field.read) ∈ ps.map fun p => (p.name, Reader.into p.reader p.set) :=
      h.fields ▸ List.mem_map_of_mem hfield
    obtain ⟨p, hp, heq⟩ := List.mem_map.mp hmem
    obtain ⟨hpname, hpread⟩ := Prod.mk.inj heq
    rw [← hpread]
    refine (hhas p hp).reads_into (hreads p hp) (honce _ (List.mem_map_of_mem hp)) hm
      (hpname.trans hname) fun record => ?_
    rw [take, h.find?_name hp]
  · intro hunknown r
    have hnone : ps.find? (·.name == m.1) = none := by
      rw [List.find?_eq_none]
      intro p hp hname
      have hmem : (p.name, Reader.into p.reader p.set) ∈
          s.fields.map fun field => (field.name, field.read) :=
        h.fields ▸ List.mem_map_of_mem hp
      obtain ⟨field, hfield, heq⟩ := List.mem_map.mp hmem
      exact hunknown field hfield ((Prod.mk.inj heq).1.trans (eq_of_beq hname))
    rw [take, hnone]

theorem foldl_take (h : MakeUp s ps)
    (hhas : ∀ p ∈ ps, Has ms p.name p.toJson (p.get s.defaults) (p.get full)) :
    (ms.map (·.1)).foldl (take ps full) s.defaults = full := by
  apply h.ext
  intro p hp
  rw [h.get_foldl_take hp]
  split
  · rfl
  · next hnone => exact ((hhas p hp).eq_default hnone).symm

/-- A body that is an object of parameters is decoded to the record that these make up. -/
theorem decodeBody (h : MakeUp s ps) (honce : Once ms (ps.map (·.name)))
    (hhas : ∀ p ∈ ps, Has ms p.name p.toJson (p.get s.defaults) (p.get full))
    (hreads : ∀ p ∈ ps, p.reader.Reads (p.toJson (p.get full)) (p.get full))
    {body : List UInt8} (hdoc : Document (.object ms) body) :
    Service.decodeBody s body = .ok full := by
  have hnames : s.fields.map (·.name) = ps.map (·.name) := by
    have hfirst := congrArg (List.map Prod.fst) h.fields
    simpa only [List.map_map, Function.comp_def] using hfirst
  rw [decodeBody_document hdoc (h.follows honce hhas hreads) (hnames ▸ honce), h.foldl_take hhas]

end MakeUp

/-! ## Requests -/

namespace HostRequest

/-- Holds if an object has the parameters of a request. -/
structure StandsIn (full : HostRequest) (ms : List (String × Json)) : Prop where
  once : Once ms ["host", "port", "timeout"]
  host : Has ms "host" .text "" full.host
  port : Has ms "port" portJson 0 full.port
  timeout : Has ms "timeout" (orNull .natural) none full.timeout

def parameters : List (Parameter HostRequest) := [
  ⟨"host", Reader.text, .text, host, fun host r => { r with host }⟩,
  ⟨"port", portNumber, portJson, port, fun port r => { r with port }⟩,
  ⟨"timeout", Reader.optional seconds, orNull .natural, timeout, fun timeout r =>
    { r with timeout }⟩]

theorem makeUp : MakeUp shape parameters where
  fields := rfl
  names := by decide
  get_set := by simp [parameters]
  get_set_ne := by simp [parameters]
  ext := by
    rintro ⟨host, port, timeout⟩ ⟨host', port', timeout'⟩ h
    simpa [parameters] using h

theorem StandsIn.decodeBody {full : HostRequest} {ms : List (String × Json)} (h : full.StandsIn ms)
    (hsize : ∀ n ∈ full.timeout, n < UInt64.size) {body : List UInt8}
    (hdoc : Document (.object ms) body) : Service.decodeBody shape body = .ok full := by
  apply makeUp.decodeBody h.once ?_ ?_ hdoc
  · simp only [parameters, List.forall_mem_cons]
    exact ⟨h.host, h.port, h.timeout, by simp⟩
  · simp only [parameters, List.forall_mem_cons]
    exact ⟨Reader.reads_text _, reads_portNumber _, reads_timeout hsize, by simp⟩

end HostRequest

namespace ClusterRequest

structure StandsIn (full : ClusterRequest) (ms : List (String × Json)) : Prop where
  once : Once ms ["url", "username", "password", "timeout"]
  url : Has ms "url" .text "" full.url
  username : Has ms "username" .text "" full.credentials.username
  password : Has ms "password" .text "" full.credentials.password
  timeout : Has ms "timeout" (orNull .natural) none full.timeout

def parameters : List (Parameter ClusterRequest) := [
  ⟨"url", Reader.text, .text, url, fun url r => { r with url }⟩,
  ⟨"username", Reader.text, .text, (·.credentials.username), fun s r =>
    { r with credentials := withUsername s r.credentials }⟩,
  ⟨"password", Reader.text, .text, (·.credentials.password), fun s r =>
    { r with credentials := withPassword s r.credentials }⟩,
  ⟨"timeout", Reader.optional seconds, orNull .natural, timeout, fun timeout r =>
    { r with timeout }⟩]

theorem makeUp : MakeUp shape parameters where
  fields := rfl
  names := by decide
  get_set := by simp [parameters, withUsername, withPassword]
  get_set_ne := by simp [parameters, withUsername, withPassword]
  ext := by
    rintro ⟨url, ⟨username, password⟩, timeout⟩ ⟨url', ⟨username', password'⟩, timeout'⟩ h
    simpa [parameters, and_assoc] using h

theorem StandsIn.decodeBody {full : ClusterRequest} {ms : List (String × Json)}
    (h : full.StandsIn ms) (hsize : ∀ n ∈ full.timeout, n < UInt64.size) {body : List UInt8}
    (hdoc : Document (.object ms) body) : Service.decodeBody shape body = .ok full := by
  apply makeUp.decodeBody h.once ?_ ?_ hdoc
  · simp only [parameters, List.forall_mem_cons]
    exact ⟨h.url, h.username, h.password, h.timeout, by simp⟩
  · simp only [parameters, List.forall_mem_cons]
    exact ⟨Reader.reads_text _, Reader.reads_text _, Reader.reads_text _, reads_timeout hsize,
      by simp⟩

end ClusterRequest

namespace BrokerRequest

structure StandsIn (full : BrokerRequest) (ms : List (String × Json)) : Prop where
  once : Once ms ["host", "port", "username", "password", "timeout"]
  host : Has ms "host" .text "" full.host
  port : Has ms "port" (orNull portJson) none full.port
  username : Has ms "username" .text "" full.credentials.username
  password : Has ms "password" .text "" full.credentials.password
  timeout : Has ms "timeout" (orNull .natural) none full.timeout

def parameters : List (Parameter BrokerRequest) := [
  ⟨"host", Reader.text, .text, host, fun host r => { r with host }⟩,
  ⟨"port", Reader.optional portNumber, orNull portJson, port, fun port r => { r with port }⟩,
  ⟨"username", Reader.text, .text, (·.credentials.username), fun s r =>
    { r with credentials := withUsername s r.credentials }⟩,
  ⟨"password", Reader.text, .text, (·.credentials.password), fun s r =>
    { r with credentials := withPassword s r.credentials }⟩,
  ⟨"timeout", Reader.optional seconds, orNull .natural, timeout, fun timeout r =>
    { r with timeout }⟩]

theorem makeUp : MakeUp shape parameters where
  fields := rfl
  names := by decide
  get_set := by simp [parameters, withUsername, withPassword]
  get_set_ne := by simp [parameters, withUsername, withPassword]
  ext := by
    rintro ⟨host, port, ⟨username, password⟩, timeout⟩
      ⟨host', port', ⟨username', password'⟩, timeout'⟩ h
    simpa [parameters, and_assoc] using h

theorem StandsIn.decodeBody {full : BrokerRequest} {ms : List (String × Json)}
    (h : full.StandsIn ms) (hsize : ∀ n ∈ full.timeout, n < UInt64.size) {body : List UInt8}
    (hdoc : Document (.object ms) body) : Service.decodeBody shape body = .ok full := by
  apply makeUp.decodeBody h.once ?_ ?_ hdoc
  · simp only [parameters, List.forall_mem_cons]
    exact ⟨h.host, h.port, h.username, h.password, h.timeout, by simp⟩
  · simp only [parameters, List.forall_mem_cons]
    exact ⟨Reader.reads_text _, reads_port _, Reader.reads_text _, Reader.reads_text _,
      reads_timeout hsize, by simp⟩

end BrokerRequest

end Reachability.Service
