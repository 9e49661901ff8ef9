import Reachability.Proofs.Digits
import Reachability.Proofs.Text.Split
import Reachability.Settings.Overrides

/-!
# What variables say of the settings

A variable that is set denotes a value of its setting, or it is not valid. One that is not set
leaves the setting as it was. The first variable that is not valid is reported, and the settings
are then those under the variables before it.
-/
namespace Reachability

namespace Decimal

theorem signedNumberUpTo?_eq_some {limit n : Nat} {cs : List Char} :
    signedNumberUpTo? limit cs = some n ↔ ∃ digits, digits ≠ [] ∧ digits.all isDigit = true ∧
      value digits = n ∧ n ≤ limit ∧ (cs = digits ∨ cs = '+' :: digits) := by
  constructor
  · intro h
    unfold signedNumberUpTo? at h
    split at h
    · next digits =>
      obtain ⟨hne, hall, hvalue, hlimit⟩ := numberUpTo?_eq_some.mp h
      exact ⟨digits, hne, hall, hvalue, hlimit, .inr rfl⟩
    · obtain ⟨hne, hall, hvalue, hlimit⟩ := numberUpTo?_eq_some.mp h
      exact ⟨_, hne, hall, hvalue, hlimit, .inl rfl⟩
  · rintro ⟨digits, hne, hall, hvalue, hlimit, rfl | rfl⟩
    · have hplus (more : List Char) : cs ≠ '+' :: more := by
        rintro rfl
        have hdigit : isDigit '+' = true := List.all_eq_true.mp hall '+' List.mem_cons_self
        exact absurd hdigit (by decide)
      rw [signedNumberUpTo?.eq_2 limit cs hplus]
      exact numberUpTo?_eq_some.mpr ⟨hne, hall, hvalue, hlimit⟩
    · exact numberUpTo?_eq_some.mpr ⟨hne, hall, hvalue, hlimit⟩

end Decimal

/-! ## What variables denote -/

namespace Overrides

/-- Holds if a value is a socket address, with white space around it or not. -/
def SpellsAddress (value : String) (address : SocketAddress) : Prop :=
  SocketAddress.ofText? (Text.trim value) = some address

/-- Holds if a value is a positive number of 64 bits in decimal digits, with white space around
it or not. There may be a plus sign in front. -/
inductive SpellsTimeout (value : String) (n : Nat) : Prop
  | mk {digits : List Char} (hne : digits ≠ []) (hdigits : digits.all Decimal.isDigit = true)
      (hvalue : Decimal.value digits = n) (hpositive : 0 < n) (hsize : n < UInt64.size)
      (htext : (Text.trim value).toList = digits ∨ (Text.trim value).toList = '+' :: digits)

/-- Holds if these are the texts between the commas of a value, without the white space around
them and without those of which nothing is left. -/
inductive SpellsHosts (value : String) : List String → Prop
  | mk {pieces : List (List Char)} (hne : pieces ≠ []) (hcommas : ∀ piece ∈ pieces, ',' ∉ piece)
      (htext : [','].intercalate pieces = value.toList) :
      SpellsHosts value (((pieces.map Text.trimChars).filter (· ≠ [])).map String.ofList)

theorem listenAddress?_eq_some {value : String} {a : SocketAddress} :
    listenAddress? value = some a ↔ SpellsAddress value a := by
  rw [listenAddress?, SpellsAddress]

theorem timeout?_eq_some {value : String} {n : Nat} :
    timeout? value = some n ↔ SpellsTimeout value n := by
  have hsize : n ≤ UInt64.size - 1 ↔ n < UInt64.size := Nat.le_sub_one_iff_lt (by decide)
  rw [timeout?, Option.filter_eq_some_iff, Decimal.signedNumberUpTo?_eq_some]
  constructor
  · rintro ⟨⟨digits, hne, hdigits, hvalue, hlimit, htext⟩, hpositive⟩
    exact ⟨hne, hdigits, hvalue, of_decide_eq_true hpositive, hsize.mp hlimit, htext⟩
  · rintro ⟨hne, hdigits, hvalue, hpositive, hlimit, htext⟩
    exact ⟨⟨_, hne, hdigits, hvalue, hsize.mpr hlimit, htext⟩, decide_eq_true hpositive⟩

theorem hosts_eq {value : String} {names : List String} :
    hosts value = names ↔ SpellsHosts value names := by
  constructor
  · rintro rfl
    obtain ⟨hne, hcommas, htext⟩ := Text.splitAtEach_eq_iff.mp (Eq.refl _)
    exact .mk hne hcommas htext
  · rintro ⟨hne, hcommas, htext⟩
    rw [hosts, Text.splitAtEach_eq_iff.mpr ⟨hne, hcommas, htext⟩]

inductive Variable
  | listenAddress
  | defaultTimeout
  | dnsHosts

def value? (o : Overrides) : Variable → Option String
  | .listenAddress => o.listenAddress
  | .defaultTimeout => o.defaultTimeout
  | .dnsHosts => o.dnsHosts

def before (o : Overrides) : Variable → Overrides
  | .listenAddress => {}
  | .defaultTimeout => { listenAddress := o.listenAddress }
  | .dnsHosts => { listenAddress := o.listenAddress, defaultTimeout := o.defaultTimeout }

/-- Holds if a variable is set but not valid, which is reported so. No list of name servers is
invalid. -/
inductive Fails (o : Overrides) : Variable → SettingsError → Prop
  | listenAddress {text : String} (h : o.listenAddress = some text)
      (hinvalid : ∀ a, ¬ SpellsAddress text a) :
      Fails o .listenAddress (.invalidListenAddress text)
  | defaultTimeout {text : String} (h : o.defaultTimeout = some text)
      (hinvalid : ∀ n, ¬ SpellsTimeout text n) : Fails o .defaultTimeout (.invalidTimeout text)

end Overrides

/-! ## Settings under the variables -/

namespace Settings

open Overrides (SpellsAddress SpellsTimeout SpellsHosts)

/-- Holds if a setting is what its variable denotes, or else what it was before. -/
def Chosen {α : Type} (denotes : String → α → Prop) (value : Option String) (before x : α) :
    Prop :=
  match value with
  | some value => denotes value x
  | none => x = before

theorem chosen_some {α : Type} {denotes : String → α → Prop} {value : String} {before x : α} :
    Chosen denotes (some value) before x ↔ denotes value x := Iff.rfl

theorem chosen_none {α : Type} {denotes : String → α → Prop} {before x : α} :
    Chosen denotes none before x ↔ x = before := Iff.rfl

theorem Chosen.unique {α : Type} {denotes : String → α → Prop} {value : Option String}
    {before x y : α} (hdenotes : ∀ text x y, denotes text x → denotes text y → x = y)
    (hx : Chosen denotes value before x) (hy : Chosen denotes value before y) : x = y := by
  cases value with
  | none => exact (chosen_none.mp hx).trans (chosen_none.mp hy).symm
  | some text => exact hdenotes text x y (chosen_some.mp hx) (chosen_some.mp hy)

theorem Chosen.timeout_lt {value : Option String} {before n : Nat}
    (h : Chosen SpellsTimeout value before n) (hbefore : before < UInt64.size) :
    n < UInt64.size := by
  cases value with
  | none =>
    obtain rfl := chosen_none.mp h
    exact hbefore
  | some text =>
    obtain ⟨-, -, -, -, hsize, -⟩ := chosen_some.mp h
    exact hsize

theorem overrideListenAddress_cases (s : Settings) (value : Option String) :
    (∃ a, Chosen SpellsAddress value s.listenAddress a ∧
      s.overrideListenAddress value = .ok { s with listenAddress := a }) ∨
    ∃ text, value = some text ∧ (∀ a, ¬ SpellsAddress text a) ∧
      s.overrideListenAddress value = .error (.invalidListenAddress text) := by
  unfold overrideListenAddress
  cases value with
  | none => exact .inl ⟨s.listenAddress, rfl, rfl⟩
  | some text =>
    dsimp only
    cases ha : Overrides.listenAddress? text with
    | some a =>
      have hspells := Overrides.listenAddress?_eq_some.mp ha
      exact .inl ⟨a, chosen_some.mpr hspells, rfl⟩
    | none =>
      refine .inr ⟨text, rfl, ?_, rfl⟩
      intro a hspells
      rw [Overrides.listenAddress?_eq_some.mpr hspells] at ha
      cases ha

theorem overrideTimeout_cases (s : Settings) (value : Option String) :
    (∃ n, Chosen SpellsTimeout value s.defaultTimeout n ∧
      s.overrideTimeout value = .ok { s with defaultTimeout := n }) ∨
    ∃ text, value = some text ∧ (∀ n, ¬ SpellsTimeout text n) ∧
      s.overrideTimeout value = .error (.invalidTimeout text) := by
  unfold overrideTimeout
  cases value with
  | none => exact .inl ⟨s.defaultTimeout, rfl, rfl⟩
  | some text =>
    dsimp only
    cases hn : Overrides.timeout? text with
    | some n =>
      have hspells := Overrides.timeout?_eq_some.mp hn
      exact .inl ⟨n, chosen_some.mpr hspells, rfl⟩
    | none =>
      refine .inr ⟨text, rfl, ?_, rfl⟩
      intro n hspells
      rw [Overrides.timeout?_eq_some.mpr hspells] at hn
      cases hn

/-- Holds if each of the settings is what its variable denotes, or else what it was before. -/
structure Overridden (o : Overrides) (s t : Settings) : Prop where
  listenAddress : Chosen SpellsAddress o.listenAddress s.listenAddress t.listenAddress
  defaultTimeout : Chosen SpellsTimeout o.defaultTimeout s.defaultTimeout t.defaultTimeout
  dnsHosts : Chosen SpellsHosts o.dnsHosts s.dnsHosts t.dnsHosts

section

variable {o : Overrides} {s t u : Settings}

theorem Overridden.unique (ht : Overridden o s t) (hu : Overridden o s u) : t = u := by
  have haddress : t.listenAddress = u.listenAddress := by
    refine ht.listenAddress.unique ?_ hu.listenAddress
    intro text a b ha hb
    exact Option.some.inj (Eq.trans ha.symm hb)
  have htimeout : t.defaultTimeout = u.defaultTimeout := by
    refine ht.defaultTimeout.unique ?_ hu.defaultTimeout
    intro text n m hn hm
    rw [← Overrides.timeout?_eq_some] at hn hm
    exact Option.some.inj (hn.symm.trans hm)
  have hhosts : t.dnsHosts = u.dnsHosts := by
    refine ht.dnsHosts.unique ?_ hu.dnsHosts
    intro text names others hnames hothers
    rw [← Overrides.hosts_eq] at hnames hothers
    exact hnames.symm.trans hothers
  cases t
  cases u
  simp_all

/-- The variables are all valid, or the first that is not is reported and those in front of it
have been applied. -/
theorem override_cases (o : Overrides) (s : Settings) :
    (∃ t, Overridden o s t ∧ s.override o = (t, none)) ∨
      ∃ v e t, o.Fails v e ∧ Overridden (o.before v) s t ∧ s.override o = (t, some e) := by
  unfold override
  rcases overrideListenAddress_cases s o.listenAddress with ⟨a, ha, haddress⟩ |
    ⟨text, htext, hinvalid, haddress⟩
  · rw [haddress]
    dsimp only
    rcases overrideTimeout_cases { s with listenAddress := a } o.defaultTimeout with
      ⟨n, hn, htimeout⟩ | ⟨text, htext, hinvalid, htimeout⟩
    · rw [htimeout]
      refine .inl ⟨_, ?_, rfl⟩
      cases hhosts : o.dnsHosts with
      | none => exact ⟨ha, hn, by rw [hhosts]; rfl⟩
      | some value => exact ⟨ha, hn, by rw [hhosts]; exact Overrides.hosts_eq.mp rfl⟩
    · rw [htimeout]
      exact .inr ⟨_, _, { s with listenAddress := a }, .defaultTimeout htext hinvalid,
        ⟨ha, rfl, rfl⟩, rfl⟩
  · rw [haddress]
    exact .inr ⟨_, _, s, .listenAddress htext hinvalid, ⟨rfl, rfl, rfl⟩, rfl⟩

theorem Overridden.not_fails (h : Overridden o s t) (v : Overrides.Variable) (e : SettingsError) :
    ¬ o.Fails v e := by
  intro hfails
  cases hfails with
  | listenAddress htext hinvalid =>
    have haddress := h.listenAddress
    rw [htext] at haddress
    exact hinvalid _ (chosen_some.mp haddress)
  | defaultTimeout htext hinvalid =>
    have htimeout := h.defaultTimeout
    rw [htext] at htimeout
    exact hinvalid _ (chosen_some.mp htimeout)

/-- The overrides succeed exactly if each setting is what its variable denotes, or else what it
was. -/
theorem override_eq_iff : s.override o = (t, none) ↔ Overridden o s t := by
  rcases override_cases o s with ⟨t', hover, heq⟩ | ⟨v, e, t', hfails, -, heq⟩
  · rw [heq]
    constructor
    · rintro ⟨⟩
      exact hover
    · intro h
      rw [hover.unique h]
  · rw [heq]
    constructor
    · rintro ⟨⟩
    · intro h
      exact absurd hfails (h.not_fails v e)

end

end Settings

end Reachability
