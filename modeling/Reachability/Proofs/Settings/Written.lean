import Reachability.Proofs.Address.Text
import Reachability.Proofs.Settings.Overrides
import Reachability.Proofs.Text.Trim

/-!
# Settings written as variables

The settings can be written as the values of the three variables: an address as its text, a time
in digits, and the names of hosts with commas between them, each with white space around it. Where
a list has a comma too many nothing is lost or added. Settings that are written so are those that
the variables choose.
-/
namespace Reachability

namespace Overrides

inductive Padded (text : List Char) : List Char → Prop
  | mk {before after : List Char} (hbefore : before.all Text.isBlank = true)
      (hafter : after.all Text.isBlank = true) : Padded text (before ++ text ++ after)

/-- Holds of the name of a host in a list: it is not empty, has no comma in it, and neither begins
nor ends with white space. -/
structure IsHost (name : String) : Prop where
  ne_empty : name ≠ ""
  no_comma : ',' ∉ name.toList
  head? : ∀ c ∈ name.toList.head?, Text.isBlank c = false
  getLast? : ∀ c ∈ name.toList.getLast?, Text.isBlank c = false

inductive WrittenEntry : List String → List Char → Prop
  | empty {ws : List Char} (h : ws.all Text.isBlank = true) : WrittenEntry [] ws
  | host {name : String} {entry : List Char} (h : Padded name.toList entry) :
      WrittenEntry [name] entry

/-- The names of hosts in a row, with commas between the entries. -/
inductive WrittenHosts : List String → List Char → Prop
  | last {names : List String} {entry : List Char} (h : WrittenEntry names entry) :
      WrittenHosts names entry
  | cons {names others : List String} {entry more : List Char} (h : WrittenEntry names entry)
      (hmore : WrittenHosts others more) : WrittenHosts (names ++ others) (entry ++ ',' :: more)

/-! ## Values with white space around them -/

theorem isBlank_of_isDigit {c : Char} (h : Decimal.isDigit c = true) :
    Text.isBlank c = false := by
  have hbounds := Decimal.isDigit_iff.mp h
  simp only [Text.isBlank, Bool.or_eq_false_iff, Bool.and_eq_false_iff, beq_eq_false_iff_ne,
    decide_eq_false_iff_not]
  omega

theorem head?_digits {digits : List Char} (h : digits.all Decimal.isDigit = true) :
    ∀ c ∈ digits.head?, Text.isBlank c = false :=
  fun c hc => isBlank_of_isDigit (List.all_eq_true.mp h c (List.mem_of_mem_head? hc))

theorem getLast?_digits {digits : List Char} (h : digits.all Decimal.isDigit = true) :
    ∀ c ∈ digits.getLast?, Text.isBlank c = false :=
  fun c hc => isBlank_of_isDigit (List.all_eq_true.mp h c (List.mem_of_getLast? hc))

theorem exists_toText (a : SocketAddress) : ∃ c front,
    a.toText.toList = c :: (front ++ Decimal.digits a.port.toNat) ∧ Text.isBlank c = false := by
  cases a with
  | v4 a port =>
    obtain ⟨c, cs, hcs⟩ := List.exists_cons_of_ne_nil (Decimal.digits_ne_nil a.first.toNat)
    have hc : Decimal.isDigit c = true :=
      List.all_eq_true.mp (Decimal.all_isDigit_digits a.first.toNat) c (by simp [hcs])
    refine ⟨c, cs ++ '.' :: (Decimal.digits a.second.toNat ++ '.' ::
      (Decimal.digits a.third.toNat ++ '.' :: (Decimal.digits a.fourth.toNat ++ [':']))), ?_,
      isBlank_of_isDigit hc⟩
    simp [SocketAddress.toText, SocketAddress.port, Ipv4.toList_toText, Ipv4.chars, hcs,
      Decimal.text]
  | v6 a port scope =>
    refine ⟨'[', a.toText.toList ++
      ((if scope = 0 then "" else "%" ++ Decimal.text scope.toNat).toList ++ [']', ':']), ?_,
      by decide⟩
    simp [SocketAddress.toText, SocketAddress.port, Decimal.text]

theorem spellsAddress_padded {a : SocketAddress} {value : String}
    (h : Padded a.toText.toList value.toList) : SpellsAddress value a := by
  obtain ⟨c, front, htext, hc⟩ := exists_toText a
  have hport := getLast?_digits (Decimal.all_isDigit_digits a.port.toNat)
  have htrim : Text.trimChars value.toList = a.toText.toList := by
    generalize value.toList = cs at h
    obtain ⟨hbefore, hafter⟩ := h
    refine Text.trimChars_padded hbefore hafter ?_ ?_
    · rw [htext]
      intro d hd
      obtain rfl : c = d := by simpa using hd
      exact hc
    · rwa [htext, ← List.cons_append, List.getLast?_append_of_ne_nil _ (Decimal.digits_ne_nil _)]
  rw [SpellsAddress, Text.trim, htrim, String.ofList_toList]
  exact SocketAddress.ofText?_toText a

theorem spellsTimeout_padded {digits : List Char} {value : String} (hne : digits ≠ [])
    (hdigits : digits.all Decimal.isDigit = true) (hpositive : 0 < Decimal.value digits)
    (hsize : Decimal.value digits < UInt64.size) (h : Padded digits value.toList) :
    SpellsTimeout value (Decimal.value digits) := by
  refine ⟨hne, hdigits, rfl, hpositive, hsize, .inl ?_⟩
  rw [Text.toList_trim]
  generalize value.toList = cs at h
  obtain ⟨hbefore, hafter⟩ := h
  exact Text.trimChars_padded hbefore hafter (head?_digits hdigits) (getLast?_digits hdigits)

/-! ## Lists of hosts -/

def namesOf (pieces : List (List Char)) : List String :=
  ((pieces.map Text.trimChars).filter (· ≠ [])).map String.ofList

theorem hosts_eq_namesOf (value : String) :
    hosts value = namesOf (Text.splitAtEach ',' value.toList) := rfl

theorem namesOf_cons (piece : List Char) (pieces : List (List Char)) :
    namesOf (piece :: pieces) = namesOf [piece] ++ namesOf pieces := by
  rw [namesOf, namesOf, namesOf, ← List.map_append, ← List.filter_append, ← List.map_append,
    List.singleton_append]

theorem comma_not_mem_of_all {ws : List Char} (h : ws.all Text.isBlank = true) : ',' ∉ ws := by
  intro hmem
  cases List.all_eq_true.mp h ',' hmem

theorem WrittenEntry.namesOf {names : List String} {entry : List Char}
    (h : WrittenEntry names entry) (hnames : ∀ name ∈ names, IsHost name) :
    ',' ∉ entry ∧ namesOf [entry] = names := by
  cases h with
  | empty h =>
    refine ⟨comma_not_mem_of_all h, ?_⟩
    simp [Overrides.namesOf, Text.trimChars_of_all h]
  | @host name _ h =>
    have hhost := hnames name List.mem_cons_self
    obtain ⟨hbefore, hafter⟩ := h
    refine ⟨?_, ?_⟩
    · simp only [List.mem_append, not_or]
      exact ⟨⟨comma_not_mem_of_all hbefore, hhost.no_comma⟩, comma_not_mem_of_all hafter⟩
    · have htrim := Text.trimChars_padded hbefore hafter hhost.head? hhost.getLast?
      have hne : name.toList ≠ [] := by simpa using hhost.ne_empty
      rw [Overrides.namesOf, List.map_singleton, htrim]
      simp [hne]

/-- A list that is written denotes its names. The induction is on the entries. -/
theorem WrittenHosts.namesOf {names : List String} {text : List Char}
    (h : WrittenHosts names text) (hnames : ∀ name ∈ names, IsHost name) :
    namesOf (Text.splitAtEach ',' text) = names := by
  induction h with
  | last h =>
    obtain ⟨hcomma, hentry⟩ := h.namesOf hnames
    rw [Text.splitAtEach_of_not_mem hcomma, hentry]
  | cons h _ ih =>
    obtain ⟨hfirst, hothers⟩ := List.forall_mem_append.mp hnames
    obtain ⟨hcomma, hentry⟩ := h.namesOf hfirst
    rw [Text.splitAtEach_append hcomma, namesOf_cons, hentry, ih hothers]

theorem writtenEntry_namesOf (piece : List Char) : WrittenEntry (namesOf [piece]) piece := by
  obtain ⟨before, after, hbefore, hafter, hpiece⟩ := Text.exists_trimmed Text.isBlank piece
  by_cases hnil : Text.trimChars piece = []
  · have hnames : namesOf [piece] = [] := by simp [namesOf, hnil]
    rw [hnames]
    refine .empty ?_
    rw [hpiece, ← Text.trimChars, hnil, List.append_nil, List.all_append, hbefore, hafter]
    rfl
  · have hnames : namesOf [piece] = [.ofList (Text.trimChars piece)] := by simp [namesOf, hnil]
    have hpadded : Padded (Text.trimChars piece) (before ++ Text.trimChars piece ++ after) :=
      .mk hbefore hafter
    rw [Text.trimChars, ← hpiece] at hpadded
    rw [hnames]
    exact .host (by rwa [String.toList_ofList])

/-- Every value is a list of the names that it denotes. -/
theorem writtenHosts_hosts (value : String) : WrittenHosts (hosts value) value.toList := by
  rw [hosts_eq_namesOf]
  obtain ⟨hne, -, htext⟩ := Text.splitAtEach_eq_iff.mp
    (show Text.splitAtEach ',' value.toList = _ from rfl)
  generalize Text.splitAtEach ',' value.toList = pieces at hne htext
  rw [← htext]
  clear htext
  induction pieces with
  | nil => exact absurd rfl hne
  | cons piece pieces ih =>
    cases pieces with
    | nil =>
      rw [List.intercalate_singleton]
      exact .last (writtenEntry_namesOf piece)
    | cons next pieces =>
      rw [List.intercalate_cons_cons, namesOf_cons, List.append_assoc]
      exact .cons (writtenEntry_namesOf piece) (ih (List.cons_ne_nil next pieces))

theorem isHost_of_mem_hosts {value name : String} (h : name ∈ hosts value) : IsHost name := by
  simp only [hosts, List.mem_map, List.mem_filter, decide_eq_true_eq] at h
  obtain ⟨cs, ⟨⟨piece, hpiece, rfl⟩, hne⟩, rfl⟩ := h
  refine ⟨?_, ?_, ?_, ?_⟩
  · intro hempty
    exact hne (by simpa using congrArg String.toList hempty)
  · rw [String.toList_ofList]
    intro hcomma
    obtain ⟨before, after, -, -, htrim⟩ := Text.exists_trimmed Text.isBlank piece
    have hmem : ',' ∈ piece := by
      rw [htrim, ← Text.trimChars]
      simp [hcomma]
    exact (Text.mem_of_mem_splitAtEach hpiece hmem).2 rfl
  · rw [String.toList_ofList]
    exact Text.head?_trimmed Text.isBlank piece
  · rw [String.toList_ofList]
    exact Text.getLast?_trimmed Text.isBlank piece

theorem hosts_eq_iff {value : String} {names : List String} : hosts value = names ↔
    WrittenHosts names value.toList ∧ ∀ name ∈ names, IsHost name := by
  constructor
  · rintro rfl
    exact ⟨writtenHosts_hosts value, fun name => isHost_of_mem_hosts⟩
  · rintro ⟨h, hnames⟩
    rw [hosts_eq_namesOf, h.namesOf hnames]

end Overrides

namespace Settings

open Overrides (Padded WrittenEntry WrittenHosts IsHost)

/-- Holds if the variables are the settings in writing: the text of the address, the time in
digits and the names of the hosts with commas between them, all of them with any white space
around. -/
structure Written (t : Settings) (o : Overrides) : Prop where
  listenAddress : ∃ value, o.listenAddress = some value ∧
    Padded t.listenAddress.toText.toList value.toList
  defaultTimeout : ∃ value digits, o.defaultTimeout = some value ∧ digits ≠ [] ∧
    digits.all Decimal.isDigit = true ∧ Decimal.value digits = t.defaultTimeout ∧
    Padded digits value.toList
  dnsHosts : ∃ value, o.dnsHosts = some value ∧ WrittenHosts t.dnsHosts value.toList

theorem Written.overridden {t : Settings} {o : Overrides} (h : t.Written o)
    (hpositive : 0 < t.defaultTimeout) (hsize : t.defaultTimeout < UInt64.size)
    (hnames : ∀ name ∈ t.dnsHosts, IsHost name) (s : Settings) : Overridden o s t where
  listenAddress := by
    obtain ⟨value, hvalue, hpadded⟩ := h.listenAddress
    rw [hvalue]
    exact chosen_some.mpr (Overrides.spellsAddress_padded hpadded)
  defaultTimeout := by
    obtain ⟨value, digits, hvalue, hne, hdigits, hnumber, hpadded⟩ := h.defaultTimeout
    rw [← hnumber] at hpositive hsize ⊢
    rw [hvalue]
    exact chosen_some.mpr (Overrides.spellsTimeout_padded hne hdigits hpositive hsize hpadded)
  dnsHosts := by
    obtain ⟨value, hvalue, hwritten⟩ := h.dnsHosts
    rw [hvalue]
    exact chosen_some.mpr (Overrides.hosts_eq.mp (Overrides.hosts_eq_iff.mpr ⟨hwritten, hnames⟩))

/-- Settings that are written as the three variables, with a positive time of 64 bits and with
hosts that can stand in a list, are those that the variables choose, whatever the settings were
before. And the hosts that a variable chooses can always stand in a list: none of their names is
empty, has a comma in it or white space at its ends. -/
theorem override_written :
    (∀ (lookup : String → Option String) (t : Settings), t.Written (.ofLookup lookup) →
      0 < t.defaultTimeout → t.defaultTimeout < UInt64.size →
      (∀ name ∈ t.dnsHosts, IsHost name) →
      ∀ s : Settings, s.override (.ofLookup lookup) = (t, none)) ∧
    ∀ (lookup : String → Option String) (s t : Settings),
      s.override (.ofLookup lookup) = (t, none) → (lookup "DNS_HOSTS").isSome = true →
      ∀ name ∈ t.dnsHosts, IsHost name := by
  refine ⟨?_, ?_⟩
  · intro lookup t hwritten hpositive hsize hnames s
    exact override_eq_iff.mpr (hwritten.overridden hpositive hsize hnames s)
  · intro lookup s t hover hset name hmem
    obtain ⟨value, hvalue⟩ := Option.isSome_iff_exists.mp hset
    have hhosts := (override_eq_iff.mp hover).dnsHosts
    rw [show (Overrides.ofLookup lookup).dnsHosts = some value from hvalue] at hhosts
    rw [← Overrides.hosts_eq.mpr (chosen_some.mp hhosts)] at hmem
    exact Overrides.isHost_of_mem_hosts hmem

/-- An address with a scope in ideographic space, a time with zeros in front, and a list with
commas too many. -/
theorem override_written_padded :
    let lookup : String → Option String := fun name =>
      if name = "LISTEN_ADDR" then some "\u3000[::1%2]:9000\n"
      else if name = "DEFAULT_TIMEOUT_SECONDS" then some " 007"
      else if name = "DNS_HOSTS" then some ",9.9.9.9 ,\t, dns"
      else none
    let t : Settings :=
      ⟨.v6 ⟨#v[0, 0, 0, 0, 0, 0, 0, 1]⟩ 9000 2, 7, ["9.9.9.9", "dns"]⟩
    t.Written (.ofLookup lookup) ∧ (∀ name ∈ t.dnsHosts, IsHost name) ∧
      ({} : Settings).override (.ofLookup lookup) = (t, none) := by
  intro lookup t
  have hhosts : ∀ name ∈ t.dnsHosts, IsHost name := by
    simp only [t, List.forall_mem_cons]
    exact ⟨⟨by decide, by decide, by rintro _ ⟨⟩; rfl, by rintro _ ⟨⟩; rfl⟩,
      ⟨by decide, by decide, by rintro _ ⟨⟩; rfl, by rintro _ ⟨⟩; rfl⟩, by simp⟩
  have haddress : "\u3000[::1%2]:9000\n".toList =
      ['\u3000'] ++ t.listenAddress.toText.toList ++ ['\n'] := by
    decide +kernel
  have htime : Padded ['0', '0', '7'] " 007".toList := @Padded.mk _ [' '] [] rfl rfl
  have hlist : WrittenHosts t.dnsHosts ",9.9.9.9 ,\t, dns".toList :=
    .cons (@WrittenEntry.empty [] rfl) (.cons (.host (@Padded.mk "9.9.9.9".toList [] [' '] rfl rfl))
      (.cons (@WrittenEntry.empty ['\t'] rfl)
        (.last (.host (@Padded.mk "dns".toList [' '] [] rfl rfl)))))
  have hwritten : t.Written (.ofLookup lookup) := {
    listenAddress := ⟨_, rfl, by rw [haddress]; exact .mk rfl rfl⟩
    defaultTimeout := ⟨_, _, rfl, by decide, rfl, rfl, htime⟩
    dnsHosts := ⟨_, rfl, hlist⟩ }
  have hover := override_written.1 lookup t hwritten (by decide) (by decide) hhosts {}
  exact ⟨hwritten, override_written.2 lookup {} t hover rfl, hover⟩

end Settings

end Reachability
