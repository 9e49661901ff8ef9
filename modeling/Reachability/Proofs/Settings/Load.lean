import Reachability.Proofs.Settings.File
import Reachability.Proofs.Settings.Overrides

/-!
# Where the settings come from

Each setting is the value of its variable, or else what the file says, or else its default. A
value that is not valid ends the matter, and of several faults the one that comes first in the
order of the sources is reported. The time that a probe may take is checked at the end, so that
a zero in the file does no harm if a variable replaces it.
-/
namespace Reachability

namespace FileState

def IsAbsent (file : FileState) : Prop := ∃ e, file.text = .error e ∧ e.isNotFound = true

open Settings (Part)

/-- Holds if a file says this of the settings. Where there is none, and it was not asked for by
name, nothing is said. -/
inductive Says (isExplicit : Bool) (file : FileState) : Part → Prop
  | absent (h : file.IsAbsent) (hdefault : isExplicit = false) : Says isExplicit file {}
  | text {text : String} {part : Part} (h : file.text = .ok text)
      (hpart : Part.ofText text = .ok part) : Says isExplicit file part

theorem Says.unique {isExplicit : Bool} {file : FileState} {part other : Part}
    (h : file.Says isExplicit part) (h' : file.Says isExplicit other) : part = other := by
  cases h with
  | absent habsent _ =>
    obtain ⟨e, he, -⟩ := habsent
    cases h' with
    | absent _ _ => rfl
    | text htext _ =>
      rw [he] at htext
      cases htext
  | text htext hpart =>
    cases h' with
    | absent habsent _ =>
      obtain ⟨e, he, -⟩ := habsent
      rw [he] at htext
      cases htext
    | text htext' hpart' =>
      rw [htext] at htext'
      obtain rfl := Except.ok.inj htext'
      rw [hpart] at hpart'
      exact Except.ok.inj hpart'

end FileState

namespace Settings

open Overrides (SpellsAddress SpellsTimeout SpellsHosts)

/-- Holds if each of the settings is what its variable denotes, or else what the file says, or
else the default. -/
structure Merged (o : Overrides) (part : Part) (s : Settings) : Prop where
  listenAddress : Chosen SpellsAddress o.listenAddress
    (part.listenAddress.getD ({} : Settings).listenAddress) s.listenAddress
  defaultTimeout : Chosen SpellsTimeout o.defaultTimeout
    (part.defaultTimeout.getD ({} : Settings).defaultTimeout) s.defaultTimeout
  dnsHosts : Chosen SpellsHosts o.dnsHosts
    (part.dnsHosts.getD ({} : Settings).dnsHosts) s.dnsHosts

/-- The faults that there are, in whatever order they are noticed. -/
inductive Applies (path : String) (isExplicit : Bool) (file : FileState) (o : Overrides) :
    SettingsError → Prop
  | unreadable {e : IoError} (h : file.text = .error e)
      (hneeded : e.isNotFound = true → isExplicit = true) :
      Applies path isExplicit file o (.unreadable path e)
  | malformed {text : String} {e : Yaml.Error} (h : file.text = .ok text)
      (hpart : Part.ofText text = .error e) : Applies path isExplicit file o (.malformed e)
  | invalidListenAddress {value : String} (h : o.listenAddress = some value)
      (hvalue : ∀ a, ¬ SpellsAddress value a) :
      Applies path isExplicit file o (.invalidListenAddress value)
  | invalidTimeout {value : String} (h : o.defaultTimeout = some value)
      (hvalue : ∀ n, ¬ SpellsTimeout value n) :
      Applies path isExplicit file o (.invalidTimeout value)
  | zeroTimeout {part : Part} (hfile : file.Says isExplicit part)
      (hzero : part.defaultTimeout = some 0) (h : o.defaultTimeout = none) :
      Applies path isExplicit file o (.invalidTimeout "0")

def stage : SettingsError → Nat
  | .unreadable _ _ => 0
  | .malformed _ => 1
  | .invalidListenAddress _ => 2
  | .invalidTimeout _ => 3

/-- Holds of the fault that is reported. -/
def IsFirst (path : String) (isExplicit : Bool) (file : FileState) (o : Overrides)
    (e : SettingsError) : Prop :=
  Applies path isExplicit file o e ∧
    ∀ other, Applies path isExplicit file o other → stage e ≤ stage other

/-! ## One source after the other -/

section

variable {path : String} {isExplicit : Bool} {file : FileState} {o : Overrides}

theorem one_le_stage {text : String} (htext : file.text = .ok text) {e : SettingsError}
    (h : Applies path isExplicit file o e) : 1 ≤ stage e := by
  cases h with
  | unreadable h _ =>
    rw [htext] at h
    cases h
  | malformed _ _ => exact Nat.le_refl 1
  | invalidListenAddress _ _ => exact Nat.le_succ 1
  | invalidTimeout _ _ | zeroTimeout _ _ _ => exact Nat.le_add_left 1 2

theorem two_le_stage {part : Part} (hfile : file.Says isExplicit part) {e : SettingsError}
    (h : Applies path isExplicit file o e) : 2 ≤ stage e := by
  cases h with
  | unreadable h hneeded =>
    cases hfile with
    | absent habsent hdefault =>
      obtain ⟨e', he', hmissing⟩ := habsent
      rw [h] at he'
      obtain rfl := Except.error.inj he'
      rw [hneeded hmissing] at hdefault
      cases hdefault
    | text htext _ =>
      rw [h] at htext
      cases htext
  | malformed h hpart =>
    cases hfile with
    | absent habsent _ =>
      obtain ⟨e', he', -⟩ := habsent
      rw [h] at he'
      cases he'
    | text htext hpart' =>
      rw [h] at htext
      obtain rfl := Except.ok.inj htext
      rw [hpart] at hpart'
      cases hpart'
  | invalidListenAddress _ _ => exact Nat.le_refl 2
  | invalidTimeout _ _ | zeroTimeout _ _ _ => exact Nat.le_succ 2

theorem three_le_stage {part : Part} (hfile : file.Says isExplicit part)
    {before a : SocketAddress} (ha : Chosen SpellsAddress o.listenAddress before a)
    {e : SettingsError} (h : Applies path isExplicit file o e) : 3 ≤ stage e := by
  have hstage := two_le_stage hfile h
  cases h with
  | unreadable _ _ => exact absurd hstage (Nat.not_succ_le_zero 1)
  | malformed _ _ => exact absurd hstage (Nat.not_succ_le_self 1)
  | invalidListenAddress hvalue hinvalid =>
    rw [hvalue] at ha
    exact absurd (chosen_some.mp ha) (hinvalid a)
  | invalidTimeout _ _ | zeroTimeout _ _ _ => exact Nat.le_refl 3

/-- A file is read for what it says, or its fault is the first. -/
theorem ofFile_cases (path : String) (isExplicit : Bool) (file : FileState) (o : Overrides) :
    (∃ part s, file.Says isExplicit part ∧ part.Makes s ∧ ofFile path isExplicit file = .ok s) ∨
      ∃ e, IsFirst path isExplicit file o e ∧ ofFile path isExplicit file = .error e := by
  cases htext : file.text with
  | error e =>
    by_cases hmissing : e.isNotFound = true ∧ isExplicit = false
    · refine .inl ⟨{}, {}, .absent ⟨e, htext, hmissing.1⟩ hmissing.2, ⟨rfl, by simp⟩, ?_⟩
      simp [ofFile, htext, hmissing]
    · have hneeded : e.isNotFound = true → isExplicit = true := by simpa using hmissing
      have hcond : (!isExplicit && e.isNotFound) = false := by
        cases hfound : e.isNotFound with
        | true => simp [hneeded hfound]
        | false => simp
      refine .inr ⟨.unreadable path e, ⟨.unreadable htext hneeded, fun _ _ => Nat.zero_le _⟩, ?_⟩
      simp [ofFile, htext, hcond]
  | ok text =>
    have halike := ofText_alike text
    generalize hpart : Part.ofText text = part at halike
    generalize hsettings : ofText text = settings at halike
    cases halike with
    | ok hmakes =>
      exact .inl ⟨_, _, .text htext hpart, hmakes, by simp only [ofFile, htext, hsettings]; rfl⟩
    | error e =>
      refine .inr ⟨.malformed e, ⟨.malformed htext hpart, fun _ => one_le_stage htext⟩, ?_⟩
      simp only [ofFile, htext, hsettings]
      rfl

theorem Chosen.timeout_eq_zero {value : Option String} {part : Part}
    (h : Chosen SpellsTimeout value (part.defaultTimeout.getD ({} : Settings).defaultTimeout) 0) :
    value = none ∧ part.defaultTimeout = some 0 := by
  cases value with
  | none =>
    refine ⟨rfl, ?_⟩
    have h := chosen_none.mp h
    cases htimeout : part.defaultTimeout with
    | none =>
      rw [htimeout] at h
      cases h
    | some n =>
      rw [htimeout] at h
      exact congrArg some h.symm
  | some text =>
    obtain ⟨-, -, -, hpositive, -, -⟩ := chosen_some.mp h
    exact absurd hpositive (Nat.lt_irrefl 0)

theorem merged_iff_overridden {part : Part} {s : Settings} :
    Merged o part s ↔ Overridden o part.complete s :=
  ⟨fun h => ⟨h.listenAddress, h.defaultTimeout, h.dnsHosts⟩,
    fun h => ⟨h.listenAddress, h.defaultTimeout, h.dnsHosts⟩⟩

theorem load_of_override_some {s t : Settings} {e : SettingsError}
    (hfile : ofFile path isExplicit file = .ok s) (h : s.override o = (t, some e)) :
    load path isExplicit file o = .error e := by
  simp only [load, hfile, bind, Except.bind, h]

theorem load_of_override_none {s t : Settings} (hfile : ofFile path isExplicit file = .ok s)
    (h : s.override o = (t, none)) : load path isExplicit file o =
      if t.defaultTimeout = 0 then .error (.invalidTimeout "0") else .ok t := by
  simp only [load, hfile, bind, Except.bind, h]
  rfl

/-- Settings are loaded with all sources merged, or the first fault is reported. -/
theorem load_cases (path : String) (isExplicit : Bool) (file : FileState) (o : Overrides) :
    (∃ part s, file.Says isExplicit part ∧ Merged o part s ∧ 0 < s.defaultTimeout ∧
      s.defaultTimeout < UInt64.size ∧ load path isExplicit file o = .ok s) ∨
    ∃ e, IsFirst path isExplicit file o e ∧ load path isExplicit file o = .error e := by
  rcases ofFile_cases path isExplicit file o with ⟨part, s, hsaid, ⟨rfl, hsize⟩, hfile⟩ |
    ⟨e, hfirst, hfile⟩
  · rcases override_cases o part.complete with ⟨s, hover, hload⟩ | ⟨v, e, s, hfails, hover, hload⟩
    · have hmerged : Merged o part s := merged_iff_overridden.mpr hover
      rw [load_of_override_none hfile hload]
      by_cases hzero : s.defaultTimeout = 0
      · have htimeout := hmerged.defaultTimeout
        rw [hzero] at htimeout
        obtain ⟨hnone, hpart⟩ := htimeout.timeout_eq_zero
        rw [if_pos hzero]
        refine .inr ⟨_, ⟨.zeroTimeout hsaid hpart hnone, ?_⟩, rfl⟩
        exact fun other hother => three_le_stage hsaid hmerged.listenAddress hother
      · rw [if_neg hzero]
        have hbefore : part.defaultTimeout.getD ({} : Settings).defaultTimeout < UInt64.size := by
          cases hpart : part.defaultTimeout with
          | none => decide
          | some n => exact hsize n hpart
        exact .inl ⟨part, s, hsaid, hmerged, Nat.pos_of_ne_zero hzero,
          hmerged.defaultTimeout.timeout_lt hbefore, rfl⟩
    · refine .inr ⟨e, ?_, load_of_override_some hfile hload⟩
      cases hfails with
      | listenAddress htext hinvalid =>
        exact ⟨.invalidListenAddress htext hinvalid, fun other => two_le_stage hsaid⟩
      | defaultTimeout htext hinvalid =>
        have haddress : Chosen SpellsAddress o.listenAddress part.complete.listenAddress
            s.listenAddress := hover.listenAddress
        exact ⟨.invalidTimeout htext hinvalid, fun other => three_le_stage hsaid haddress⟩
  · refine .inr ⟨e, hfirst, ?_⟩
    rw [load, hfile]
    rfl

/-! ## One result -/

theorem Merged.unique {part : Part} {s t : Settings} (hs : Merged o part s)
    (ht : Merged o part t) : s = t :=
  (merged_iff_overridden.mp hs).unique (merged_iff_overridden.mp ht)

/-- Of faults that are noticed at the same time there is only one. -/
theorem Applies.unique {e e' : SettingsError} (h : Applies path isExplicit file o e)
    (h' : Applies path isExplicit file o e') (hstage : stage e = stage e') : e = e' := by
  cases h with
  | unreadable h _ =>
    cases h' with
    | unreadable h' _ => rw [Except.error.inj (h.symm.trans h')]
    | malformed _ _ | invalidListenAddress _ _ | invalidTimeout _ _ | zeroTimeout _ _ _ =>
      cases hstage
  | malformed h hpart =>
    cases h' with
    | malformed h' hpart' =>
      obtain rfl := Except.ok.inj (h.symm.trans h')
      rw [Except.error.inj (hpart.symm.trans hpart')]
    | unreadable _ _ | invalidListenAddress _ _ | invalidTimeout _ _ | zeroTimeout _ _ _ =>
      cases hstage
  | invalidListenAddress h _ =>
    cases h' with
    | invalidListenAddress h' _ => rw [Option.some.inj (h.symm.trans h')]
    | unreadable _ _ | malformed _ _ | invalidTimeout _ _ | zeroTimeout _ _ _ => cases hstage
  | invalidTimeout h _ =>
    cases h' with
    | invalidTimeout h' _ => rw [Option.some.inj (h.symm.trans h')]
    | zeroTimeout _ _ h' => cases h.symm.trans h'
    | unreadable _ _ | malformed _ _ | invalidListenAddress _ _ => cases hstage
  | zeroTimeout _ _ h =>
    cases h' with
    | zeroTimeout _ _ _ => rfl
    | invalidTimeout h' _ => cases h.symm.trans h'
    | unreadable _ _ | malformed _ _ | invalidListenAddress _ _ => cases hstage

theorem Merged.not_applies {part : Part} {s : Settings} (hsaid : file.Says isExplicit part)
    (hmerged : Merged o part s) (hpositive : 0 < s.defaultTimeout) (e : SettingsError) :
    ¬ Applies path isExplicit file o e := by
  intro h
  have hstage := three_le_stage hsaid hmerged.listenAddress h
  have htimeout := hmerged.defaultTimeout
  cases h with
  | unreadable _ _ => exact absurd hstage (Nat.not_succ_le_zero 2)
  | malformed _ _ => exact absurd hstage (by simp [stage])
  | invalidListenAddress _ _ => exact absurd hstage (Nat.not_succ_le_self 2)
  | invalidTimeout hvalue hinvalid =>
    rw [hvalue] at htimeout
    exact hinvalid _ (chosen_some.mp htimeout)
  | zeroTimeout hfile hzero hnone =>
    obtain rfl := hsaid.unique hfile
    rw [hnone, hzero] at htimeout
    rw [chosen_none.mp htimeout] at hpositive
    exact Nat.lt_irrefl 0 hpositive

theorem load_eq_ok {s : Settings} : load path isExplicit file o = .ok s ↔
    ∃ part, file.Says isExplicit part ∧ Merged o part s ∧ 0 < s.defaultTimeout := by
  constructor
  · intro h
    rcases load_cases path isExplicit file o with ⟨part, t, hsaid, hmerged, hpos, -, hload⟩ |
      ⟨e, -, hload⟩
    · obtain rfl := Except.ok.inj (h.symm.trans hload)
      exact ⟨part, hsaid, hmerged, hpos⟩
    · cases h.symm.trans hload
  · rintro ⟨part, hsaid, hmerged, hpos⟩
    rcases load_cases path isExplicit file o with ⟨part', t, hsaid', hmerged', -, -, hload⟩ |
      ⟨e, hfirst, -⟩
    · obtain rfl := hsaid.unique hsaid'
      obtain rfl := hmerged.unique hmerged'
      exact hload
    · exact absurd hfirst.1 (hmerged.not_applies hsaid hpos e)

theorem load_eq_error {e : SettingsError} :
    load path isExplicit file o = .error e ↔ IsFirst path isExplicit file o e := by
  rcases load_cases path isExplicit file o with ⟨part, s, hsaid, hmerged, hpos, -, hload⟩ |
    ⟨e', hfirst, hload⟩
  · rw [hload]
    constructor
    · intro h
      cases h
    · intro h
      exact absurd h.1 (hmerged.not_applies hsaid hpos e)
  · rw [hload]
    constructor
    · intro h
      exact Except.error.inj h ▸ hfirst
    · intro h
      have hstage : stage e' = stage e := Nat.le_antisymm (hfirst.2 e h.1) (h.2 e' hfirst.1)
      rw [hfirst.1.unique h.1 hstage]

theorem load_bounds {s : Settings} (h : load path isExplicit file o = .ok s) :
    0 < s.defaultTimeout ∧ s.defaultTimeout < UInt64.size := by
  rcases load_cases path isExplicit file o with ⟨part, t, -, -, hpos, hsize, hload⟩ |
    ⟨e, -, hload⟩
  · obtain rfl := Except.ok.inj (h.symm.trans hload)
    exact ⟨hpos, hsize⟩
  · cases h.symm.trans hload

theorem exists_merged_iff {part : Part} :
    (∃ s, Merged o part s ∧ 0 < s.defaultTimeout) ↔
      (∀ value ∈ o.listenAddress, ∃ a, SpellsAddress value a) ∧
      (∀ value ∈ o.defaultTimeout, ∃ n, SpellsTimeout value n) ∧
      (o.defaultTimeout = none → part.defaultTimeout ≠ some 0) := by
  constructor
  · rintro ⟨s, hmerged, hpos⟩
    refine ⟨?_, ?_, ?_⟩
    · intro value hvalue
      have haddress := hmerged.listenAddress
      rw [Option.mem_def.mp hvalue] at haddress
      exact ⟨_, chosen_some.mp haddress⟩
    · intro value hvalue
      have htimeout := hmerged.defaultTimeout
      rw [Option.mem_def.mp hvalue] at htimeout
      exact ⟨_, chosen_some.mp htimeout⟩
    · intro hnone hzero
      have htimeout := hmerged.defaultTimeout
      rw [hnone, hzero] at htimeout
      rw [chosen_none.mp htimeout] at hpos
      exact Nat.lt_irrefl 0 hpos
  · rintro ⟨haddress, htimeout, hzero⟩
    rcases override_cases o part.complete with ⟨s, hover, -⟩ | ⟨v, e, s, hfails, -, -⟩
    · have hmerged : Merged o part s := merged_iff_overridden.mpr hover
      refine ⟨s, hmerged, Nat.pos_of_ne_zero ?_⟩
      intro h
      have hchosen := hmerged.defaultTimeout
      rw [h] at hchosen
      obtain ⟨hnone, hpart⟩ := hchosen.timeout_eq_zero
      exact hzero hnone hpart
    · cases hfails with
      | listenAddress htext hinvalid =>
        obtain ⟨a, ha⟩ := haddress _ htext
        exact absurd ha (hinvalid a)
      | defaultTimeout htext hinvalid =>
        obtain ⟨n, hn⟩ := htimeout _ htext
        exact absurd hn (hinvalid n)

theorem exists_load_eq_ok : (∃ s, load path isExplicit file o = .ok s) ↔
    ∃ part, file.Says isExplicit part ∧
      (∀ value ∈ o.listenAddress, ∃ a, SpellsAddress value a) ∧
      (∀ value ∈ o.defaultTimeout, ∃ n, SpellsTimeout value n) ∧
      (o.defaultTimeout = none → part.defaultTimeout ≠ some 0) := by
  constructor
  · rintro ⟨s, h⟩
    obtain ⟨part, hsaid, hmerged, hpos⟩ := load_eq_ok.mp h
    exact ⟨part, hsaid, exists_merged_iff.mp ⟨s, hmerged, hpos⟩⟩
  · rintro ⟨part, hsaid, hvalid⟩
    obtain ⟨s, hmerged, hpos⟩ := exists_merged_iff.mpr hvalid
    exact ⟨s, load_eq_ok.mpr ⟨part, hsaid, hmerged, hpos⟩⟩

theorem exists_load_eq_ok_of_zero {part : Part} (hsaid : file.Says isExplicit part)
    (hzero : part.defaultTimeout = some 0) : (∃ s, load path isExplicit file o = .ok s) ↔
      (∀ value ∈ o.listenAddress, ∃ a, SpellsAddress value a) ∧
        ∃ value n, o.defaultTimeout = some value ∧ SpellsTimeout value n := by
  rw [exists_load_eq_ok]
  constructor
  · rintro ⟨other, hother, haddress, htimeout, hkept⟩
    obtain rfl := hsaid.unique hother
    cases hvalue : o.defaultTimeout with
    | none => exact absurd hzero (hkept hvalue)
    | some value =>
      obtain ⟨n, hn⟩ := htimeout value hvalue
      exact ⟨haddress, value, n, rfl, hn⟩
  · rintro ⟨haddress, value, n, hvalue, hn⟩
    refine ⟨part, hsaid, haddress, ?_, ?_⟩
    · intro other hother
      obtain rfl := Option.some.inj (hvalue.symm.trans hother)
      exact ⟨n, hn⟩
    · intro hnone
      cases hvalue.symm.trans hnone

theorem load_congr_isExplicit (h : ¬ file.IsAbsent) (other : Bool) :
    load path other file o = load path isExplicit file o := by
  have hfile : ofFile path other file = ofFile path isExplicit file := by
    cases htext : file.text with
    | ok text => simp only [ofFile, htext]
    | error e =>
      have hfound : e.isNotFound = false := Bool.eq_false_iff.mpr fun hmissing =>
        h ⟨e, htext, hmissing⟩
      simp only [ofFile, htext, hfound, Bool.and_false]
  rw [load, load, hfile]

end

/-- Settings are loaded if the file, or the defaults in place of a missing one, and the variables
are valid, and the time that is left is positive. Then each is the value of its variable, or else
that of the file, or else the default. Otherwise the first fault in the order of file, text,
address and time is reported. A zero in the file needs a variable in its place. Whether the file
was asked for by name matters only if it is absent. -/
theorem loaded_from_layers (path : String) (isExplicit : Bool) (file : FileState)
    (lookup : String → Option String) :
    let o := Overrides.ofLookup lookup
    let loaded := load path isExplicit file o
    ((∃ s, loaded = .ok s) ↔ ∃ part, file.Says isExplicit part ∧
      (∀ value ∈ lookup "LISTEN_ADDR", ∃ a, SpellsAddress value a) ∧
      (∀ value ∈ lookup "DEFAULT_TIMEOUT_SECONDS", ∃ n, SpellsTimeout value n) ∧
      (lookup "DEFAULT_TIMEOUT_SECONDS" = none → part.defaultTimeout ≠ some 0)) ∧
    (∀ s, loaded = .ok s ↔
      ∃ part, file.Says isExplicit part ∧ Merged o part s ∧ 0 < s.defaultTimeout) ∧
    (∀ e, loaded = .error e ↔ Applies path isExplicit file o e ∧
      ∀ other, Applies path isExplicit file o other → stage e ≤ stage other) ∧
    (∀ part, file.Says isExplicit part → part.defaultTimeout = some 0 →
      ((∃ s, loaded = .ok s) ↔ (∀ value ∈ lookup "LISTEN_ADDR", ∃ a, SpellsAddress value a) ∧
        ∃ value n, lookup "DEFAULT_TIMEOUT_SECONDS" = some value ∧ SpellsTimeout value n)) ∧
    (¬ file.IsAbsent → ∀ other, load path other file o = loaded) := by
  intro o loaded
  refine ⟨exists_load_eq_ok, fun s => load_eq_ok, fun e => load_eq_error, ?_,
    load_congr_isExplicit⟩
  intro part hsaid hzero
  exact exists_load_eq_ok_of_zero hsaid hzero

/-- A zero in the file without a variable in its place and with one, and a sequence without an
end. -/
theorem loaded_from_layers_of_zero :
    let file (text : String) := FileState.contents (Text.Utf8.encode text.toList)
    let five (name : String) := if name = "DEFAULT_TIMEOUT_SECONDS" then some " 5" else none
    load defaultPath false (file "default_timeout_seconds: 0") (.ofLookup fun _ => none) =
        .error (.invalidTimeout "0") ∧
      load defaultPath false (file "default_timeout_seconds: 0") (.ofLookup five) =
        .ok { defaultTimeout := 5 } ∧
      load defaultPath false (file "dns_hosts: [") (.ofLookup fun _ => none) =
        .error (.malformed
          (.malformed .noNodeContent ⟨12, 1, 0⟩ (some (.flowNode, ⟨12, 1, 0⟩)))) := by
  intro file five
  have hzero : (file "default_timeout_seconds: 0").Says false { defaultTimeout := some 0 } :=
    have htext : (file "default_timeout_seconds: 0").text = .ok "default_timeout_seconds: 0" := by
      decide +kernel
    .text htext (by decide +kernel)
  have htext : (file "dns_hosts: [").text = .ok "dns_hosts: [" := by decide +kernel
  have hfive : SpellsTimeout " 5" 5 := Overrides.timeout?_eq_some.mp (by decide +kernel)
  obtain ⟨-, -, herror, -⟩ :=
    loaded_from_layers defaultPath false (file "default_timeout_seconds: 0") fun _ => none
  obtain ⟨-, hok, -⟩ :=
    loaded_from_layers defaultPath false (file "default_timeout_seconds: 0") five
  obtain ⟨-, -, hbad, -⟩ := loaded_from_layers defaultPath false (file "dns_hosts: [") fun _ => none
  refine ⟨(herror _).mpr ⟨.zeroTimeout hzero rfl rfl, ?_⟩, (hok _).mpr ⟨_, hzero, ?_, by decide⟩,
    (hbad _).mpr ⟨.malformed htext (by decide +kernel), fun _ => one_le_stage htext⟩⟩
  · have hunset (a : SocketAddress) : Chosen SpellsAddress none a a := rfl
    exact fun _ => three_le_stage hzero (hunset ({} : Settings).listenAddress)
  · exact ⟨rfl, hfive, rfl⟩

end Settings

end Reachability
