import Reachability.Proofs.Yaml.Entries
import Reachability.Proofs.Yaml.Record
import Reachability.Settings.Load

/-!
# What a settings file says

A file gives a value for some of the settings, and the others have their defaults. Reading the
settings and reading what is said of them go side by side.
-/
namespace Reachability

namespace Settings

/-- The settings that a file gives a value for. -/
@[ext]
structure Part where
  listenAddress : Option SocketAddress := none
  defaultTimeout : Option Nat := none
  dnsHosts : Option (List String) := none
deriving DecidableEq

namespace Part

def complete (p : Part) : Settings where
  listenAddress := p.listenAddress.getD ({} : Settings).listenAddress
  defaultTimeout := p.defaultTimeout.getD ({} : Settings).defaultTimeout
  dnsHosts := p.dnsHosts.getD ({} : Settings).dnsHosts

def fields : List (Yaml.Reader.Field Part) := [
  ⟨"listen_addr", Yaml.Reader.into socketAddress fun a p => { p with listenAddress := some a }⟩,
  ⟨"default_timeout_seconds",
    Yaml.Reader.into Yaml.Reader.natural fun n p => { p with defaultTimeout := some n }⟩,
  ⟨"dns_hosts", Yaml.Reader.into (Yaml.Reader.sequence Yaml.Reader.text) fun hosts p =>
    { p with dnsHosts := some hosts }⟩]

def ofText (text : String) : Except Yaml.Error Part :=
  Yaml.Reader.record "struct ServiceConfig" fields {} (Yaml.Document.ofText text)

/-- Holds if the settings are those of the part and the defaults, and a time in it is a number of
64 bits. -/
def Makes (p : Part) (s : Settings) : Prop :=
  s = p.complete ∧ ∀ n ∈ p.defaultTimeout, n < UInt64.size

end Part

end Settings

theorem Yaml.Reader.yields_natural : natural.Yields (· < UInt64.size) := by
  intro d path nodes n rest h
  unfold natural at h
  cases hresolve : resolve d nodes with
  | error e =>
    rw [hresolve] at h
    cases h
  | ok r =>
    simp only [hresolve, bind, Except.bind] at h
    split at h
    · next found hfound =>
      obtain ⟨rfl, -⟩ : found = n ∧ r.after = rest := by simpa [pure, Except.pure] using h
      exact of_decide_eq_true (Option.filter_eq_some_iff.mp hfound).2
    · cases h

namespace Settings

open Yaml (Alike)
open Yaml.Reader (Field record_alike)

/-- The settings of a file are those that it gives a value for, and the defaults. -/
theorem ofText_alike (text : String) : Alike Part.Makes (Part.ofText text) (ofText text) := by
  have hfields : List.Forall₂ (Field.Alike Part.Makes) Part.fields fields := by
    refine .cons (Field.alike_into (P := fun _ => True) (fun _ _ _ _ _ _ => trivial) ?_) <|
      .cons (Field.alike_into Yaml.Reader.yields_natural ?_) <|
      .cons (Field.alike_into (P := fun _ => True) (fun _ _ _ _ _ _ => trivial) ?_) .nil
    · rintro a - p _ ⟨rfl, h⟩
      exact ⟨rfl, h⟩
    · rintro n hn p _ ⟨rfl, -⟩
      exact ⟨rfl, by simpa using hn⟩
    · rintro hosts - p _ ⟨rfl, h⟩
      exact ⟨rfl, h⟩
  exact record_alike hfields _ ⟨rfl, by simp⟩ _

namespace Part

open Yaml (BlockEntry IsWord isWord_digits)
open Yaml.Reader (Changes Reads reads_scalarText reads_natural reads_sequence record_ofText)

/-- Holds if an entry of a block mapping says what a part has for one of the settings, or is about
something else. -/
inductive Gives (p : Part) : BlockEntry → Prop
  | listenAddress {cs : List Char} {a : SocketAddress} (hcs : IsWord cs)
      (hread : SocketAddress.ofText? (.ofList cs) = some a) (h : p.listenAddress = some a) :
      Gives p ⟨"listen_addr".toList, .word cs⟩
  | defaultTimeout {n : Nat} (hn : n < UInt64.size) (h : p.defaultTimeout = some n) :
      Gives p ⟨"default_timeout_seconds".toList, .word (Decimal.digits n)⟩
  | dnsHosts {hosts : List (List Char)} (hhosts : ∀ host ∈ hosts, IsWord host)
      (h : p.dnsHosts = some (hosts.map .ofList)) : Gives p ⟨"dns_hosts".toList, .list hosts⟩
  | other {e : BlockEntry} (he : e.IsPlain) (h : .ofList e.key ∉ fields.map (·.name)) : Gives p e

/-- Holds if a record becomes the part once the settings of some keys are read. -/
structure Completes (p : Part) (keys : List (List Char)) (r : Part) : Prop where
  listenAddress : r.listenAddress = p.listenAddress ∨ "listen_addr".toList ∈ keys
  defaultTimeout : r.defaultTimeout = p.defaultTimeout ∨ "default_timeout_seconds".toList ∈ keys
  dnsHosts : r.dnsHosts = p.dnsHosts ∨ "dns_hosts".toList ∈ keys

theorem Gives.isPlain {p : Part} {e : BlockEntry} (h : p.Gives e) : e.IsPlain := by
  cases h with
  | listenAddress hcs _ _ =>
    have hkey : IsWord "listen_addr".toList := by decide +kernel
    exact ⟨hkey, by simp, hcs⟩
  | @defaultTimeout n _ _ =>
    have hkey : IsWord "default_timeout_seconds".toList := by decide +kernel
    exact ⟨hkey, by simp, isWord_digits n⟩
  | dnsHosts hhosts _ =>
    have hkey : IsWord "dns_hosts".toList := by decide +kernel
    exact ⟨hkey, by simp, hhosts⟩
  | other he _ => exact he

theorem Gives.exists_changes {p : Part} {e : BlockEntry} (h : p.Gives e) :
    ∃ set, Changes fields e set ∧
      ∀ keys r, p.Completes (e.key :: keys) r → p.Completes keys (set r) := by
  cases h with
  | @listenAddress cs a _ hread h =>
    have hread : socketAddress.Reads [.scalar (Yaml.plainScalar cs)] a :=
      reads_scalarText (by simp [Yaml.plainScalar, hread]) _
    refine ⟨_, .of_reads rfl hread, ?_⟩
    rintro keys r ⟨-, hn, hhosts⟩
    exact ⟨.inl h.symm, by simpa using hn, by simpa using hhosts⟩
  | @defaultTimeout n hn h =>
    refine ⟨_, .of_reads rfl (reads_natural hn), ?_⟩
    rintro keys r ⟨ha, -, hhosts⟩
    exact ⟨by simpa using ha, .inl h.symm, by simpa using hhosts⟩
  | @dnsHosts hosts _ h =>
    have hitems : List.Forall₂ (fun host a =>
        Yaml.Reader.text.Reads [.scalar (Yaml.plainScalar host)] a) hosts (hosts.map .ofList) :=
      List.forall₂_map_right_iff.mpr (List.forall₂_same.mpr fun _ _ => reads_scalarText rfl _)
    refine ⟨_, .of_reads rfl (reads_sequence hitems), ?_⟩
    rintro keys r ⟨ha, hn, -⟩
    exact ⟨by simpa using ha, by simpa using hn, .inl h.symm⟩
  | other _ h =>
    have hfield : fields.find? (·.name == .ofList e.key) = none := by
      rw [List.find?_eq_none]
      intro field hfield heq
      exact h (List.mem_map.mpr ⟨field, hfield, beq_iff_eq.mp heq⟩)
    have hne {name : String} (hname : name ∈ fields.map (·.name)) : name.toList ≠ e.key := by
      rintro heq
      rw [← heq, String.ofList_toList] at h
      exact h hname
    refine ⟨id, .unknown hfield, ?_⟩
    rintro keys r ⟨ha, hn, hhosts⟩
    exact ⟨ha.imp_right (List.mem_of_ne_of_mem (hne (by simp [fields]))),
      hn.imp_right (List.mem_of_ne_of_mem (hne (by simp [fields]))),
      hhosts.imp_right (List.mem_of_ne_of_mem (hne (by simp [fields])))⟩

theorem exists_changes {p : Part} {es : List BlockEntry} (hes : ∀ e ∈ es, p.Gives e) {r : Part}
    (hr : p.Completes (es.map (·.key)) r) :
    ∃ sets, List.Forall₂ (Changes fields) es sets ∧ sets.foldl (fun r set => set r) r = p := by
  induction es generalizing r with
  | nil =>
    exact ⟨[], .nil, Part.ext (hr.listenAddress.resolve_right List.not_mem_nil)
      (hr.defaultTimeout.resolve_right List.not_mem_nil)
      (hr.dnsHosts.resolve_right List.not_mem_nil)⟩
  | cons e es ih =>
    obtain ⟨he, hes⟩ := List.forall_mem_cons.mp hes
    obtain ⟨set, hset, hcloser⟩ := he.exists_changes
    obtain ⟨sets, hsets, hfold⟩ := ih hes (hcloser _ _ hr)
    exact ⟨set :: sets, .cons hset hsets, hfold⟩

structure IsWritten (p : Part) (es : List BlockEntry) : Prop where
  gives : ∀ e ∈ es, p.Gives e
  nodup : (es.map (·.key)).Nodup
  all : p.Completes (es.map (·.key)) {}

/-- A file that gives some of the settings, in whatever order and among other things, is read as
these. -/
theorem ofText_entries {p : Part} {es : List BlockEntry} (h : p.IsWritten es) :
    ofText (.ofList (es.flatMap BlockEntry.chars)) = .ok p := by
  obtain ⟨sets, hsets, hfold⟩ := exists_changes h.gives h.all
  cases es with
  | nil =>
    obtain rfl : {} = p := by
      cases hsets
      exact hfold
    rfl
  | cons e es =>
    rw [ofText, record_ofText (fun e he => (h.gives e he).isPlain) hsets h.nodup, hfold]

example : ofText "dns_hosts:\n- 9.9.9.9\nlisten_addr: 127.0.0.1:80\n" =
    .ok ⟨some (.v4 .loopback 80), none, some ["9.9.9.9"]⟩ := by decide +kernel

end Part

end Settings

end Reachability
