import Mathlib.Data.Bool.AllAny
import Mathlib.Logic.ExistsUnique
import Reachability.Proofs.Endpoint
import Reachability.Proofs.Url.Parts

/-!
# Ports of endpoints

The port of an endpoint is the one its URL names, and 80, or 443 for `https`, where it names none.
The usual port of a scheme does not count as named. It is the port of the endpoint all the same
where it is also the one of URLs that name none, but for `wss` and `ftp` it is not.
-/
namespace Reachability.Endpoint

open Url (Parts)

variable {p : Parts} {n : Nat}

/-- Holds of a URL with the usual port of its scheme that is not the one of endpoints without a
port. -/
def NamesOtherUsual (p : Parts) (n : Nat) : Prop :=
  (p.schemeName, n) ∈ [("wss", 443), ("ftp", 21)]

instance (p : Parts) (n : Nat) : Decidable (NamesOtherUsual p n) :=
  inferInstanceAs (Decidable (_ ∈ _))

theorem kind_of_namesOtherUsual (h : NamesOtherUsual p n) :
    p.kind = .web (.ofNat n) ∧ defaultPort p.schemeName = 80 := by
  simp only [NamesOtherUsual, List.mem_cons, Prod.mk.injEq, List.not_mem_nil, or_false] at h
  unfold Parts.kind Url.schemeKind
  rcases h with ⟨hname, rfl⟩ | ⟨hname, rfl⟩
  · rw [← Parts.schemeName, hname]
    exact ⟨rfl, by decide⟩
  · rw [← Parts.schemeName, hname]
    exact ⟨rfl, by decide⟩

theorem usual_eq_defaultPort {usual : UInt16} (h : p.kind = .web usual) :
    NamesOtherUsual p usual.toNat ∨ defaultPort p.schemeName = usual := by
  have hname : (p.schemeName, usual) ∈
      [("http", 80), ("https", 443), ("ws", 80), ("wss", 443), ("ftp", (21 : UInt16))] :=
    Url.schemeKind_eq_web h
  unfold NamesOtherUsual
  simp only [List.mem_cons, Prod.mk.injEq, List.not_mem_nil, or_false] at hname
  rcases hname with ⟨hname, rfl⟩ | ⟨hname, rfl⟩ | ⟨hname, rfl⟩ | ⟨hname, rfl⟩ | ⟨hname, rfl⟩
  all_goals
    rw [hname]
    decide

theorem toNat_keptPort (hn : n ≤ 65535) :
    ((Url.keptPort p.kind (some (.ofNat n))).getD (defaultPort p.schemeName)).toNat =
      if NamesOtherUsual p n then 80 else n := by
  have hport : (UInt16.ofNat n).toNat = n := by
    rw [UInt16.toNat_ofNat']
    omega
  split
  · next hother =>
    obtain ⟨hkind, hdefault⟩ := kind_of_namesOtherUsual hother
    rw [hkind, Url.keptPort, if_pos rfl, Option.getD_none, hdefault]
    rfl
  · next hother =>
    rcases Url.keptPort_eq p.kind (.ofNat n) with hkept | ⟨hkind, hdropped⟩
    · rw [hkept, Option.getD_some, hport]
    · rw [hdropped, Option.getD_none]
      rcases usual_eq_defaultPort hkind with hnames | hdefault
      · rw [hport] at hnames
        exact absurd hnames hother
      · rw [hdefault, hport]

/-- What an accepted URL names as its port, and the port of its endpoint. -/
theorem port_of_ofUrl {url : String} {e : Endpoint} (hp : p.IsProper)
    (hspells : p.Spells (withScheme url)) (h : ofUrl url = .ok e) :
    p.authority.portText = [] ∧ e.port = defaultPort p.schemeName ∨
      ∃ n, Decimal.numberUpTo? 65535 p.authority.portText = some n ∧
        e.port.toNat = if NamesOtherUsual p n then 80 else n := by
  obtain ⟨parsed, host, hparse, hhost, rfl⟩ := ofUrl_eq_ok h
  obtain ⟨hscheme, port, hport, hkept⟩ := hp.read hspells hparse hhost
  rw [hscheme, hkept]
  rcases p.authority.portText_of_portOf hport with ⟨hnone, rfl⟩ | ⟨n, hn, rfl⟩
  · refine .inl ⟨hnone, ?_⟩
    cases hkind : p.kind <;> rfl
  · have hle : n ≤ 65535 := by
      simpa using (Option.filter_eq_some_iff.mp hn).2
    exact .inr ⟨n, hn, toNat_keptPort hle⟩

/-- An accepted URL has its parts, and they say which port it leads to: without a port in them it
is 443 for `https` and 80 otherwise, and with one it is that one, unless it is the usual port of
`wss` or `ftp`. What is no port there is refused. -/
theorem port_as_written (url : String) :
    (∀ e, ofUrl url = .ok e → ∃! p : Parts, p.IsProper ∧ p.Spells (withScheme url)) ∧
    ∀ p : Parts, p.IsProper → p.Spells (withScheme url) →
      (∀ e, ofUrl url = .ok e → p.authority.portText = [] →
        e.port = if p.schemeName = "https" then 443 else 80) ∧
      (∀ e n, ofUrl url = .ok e → Decimal.numberUpTo? 65535 p.authority.portText = some n →
        e.port.toNat = if NamesOtherUsual p n then 80 else n) ∧
      (p.authority.portText ≠ [] → Decimal.numberUpTo? 65535 p.authority.portText = none →
        ∃ reason, ofUrl url = .error (.malformedUrl url reason)) := by
  constructor
  · intro e h
    obtain ⟨parsed, host, hparse, hhost, -⟩ := ofUrl_eq_ok h
    obtain ⟨p, hp, hspells⟩ := Url.exists_parts hparse hhost
    refine ⟨p, ⟨hp, hspells⟩, ?_⟩
    rintro q ⟨hq, hother⟩
    exact hq.eq hp (hother.symm.trans hspells)
  intro p hp hspells
  refine ⟨?_, ?_, ?_⟩
  · intro e h hnone
    rcases port_of_ofUrl hp hspells h with ⟨-, hport⟩ | ⟨n, hn, -⟩
    · exact hport
    · rw [hnone] at hn
      cases hn
  · intro e n h hn
    rcases port_of_ofUrl hp hspells h with ⟨hnone, -⟩ | ⟨m, hm, hport⟩
    · rw [hnone] at hn
      cases hn
    · obtain rfl : m = n := Option.some_inj.mp (hm.symm.trans hn)
      exact hport
  · intro hne hnone
    rcases ofUrl_eq_ok_or_error url with ⟨e, h⟩ | herror
    · rcases port_of_ofUrl hp hspells h with ⟨hnil, -⟩ | ⟨n, hn, -⟩
      · exact absurd hnil hne
      · rw [hnone] at hn
        cases hn
    · exact herror

example : ofUrl "HTTP://user@[::1]:009200?q" = .ok ⟨"::1", 9200⟩ := rfl

/-- The usual port of `wss`, which is written, gets lost. -/
theorem usual_port_lost :
    let url := "wss://localhost:443"
    let p : Parts := ⟨"wss".toList, "//".toList,
      ⟨none, "localhost".toList, some "443".toList⟩, []⟩
    p.IsProper ∧ p.Spells (withScheme url) ∧
      Decimal.numberUpTo? 65535 p.authority.portText = some 443 ∧
      ofUrl url = .ok ⟨"localhost", 80⟩ := by
  intro url p
  have hproper : p.IsProper := by
    constructor
    case scheme => exact ⟨List.all_eq_true.mp (by decide), by decide⟩
    case slashes => exact List.all_eq_true.mp (by decide : "//".toList.all Url.isSlash = true)
    case authority =>
      constructor
      case host => exact .name (List.all_iff_forall_prop.mp (by decide))
      case port =>
        intro text htext
        obtain rfl := Option.some_inj.mp htext
        decide
    case nonempty => decide
    case inside => exact List.all_iff_forall_prop.mp (by decide)
    case tail =>
      intro c hc
      cases hc
  have hspells : p.Spells (withScheme url) := by
    unfold Parts.Spells
    decide
  have hread : ofUrl "wss://localhost:443" = .ok ⟨"localhost", 80⟩ := rfl
  exact ⟨hproper, hspells, by decide, hread⟩

end Reachability.Endpoint
