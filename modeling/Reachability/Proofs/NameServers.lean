import Reachability.NameServers
import Reachability.Proofs.Address.Reading
import Reachability.Proofs.Except
import Reachability.Proofs.Settings.Load
import Reachability.Proofs.Settings.Written

/-!
# Name servers in order

A list of texts stands for name servers if each of them is a text of an address, and then for one
server for each text, in order. The first text that is none is refused. A list of addresses that
is written as a variable stands for its servers in whatever way it is written.
-/
namespace Reachability

open IpAddress (ofText?_eq_some ofText?_eq_none)

def NameServer.ofAddress (address : IpAddress) : NameServer := { address }

/-- Holds of the server that a text of an address stands for. -/
structure NameServer.StandsFor (host : String) (server : NameServer) : Prop where
  address : server.address.Written host.toList
  port : server.port = 53
  transport : server.transport = .tcp

def IpAddress.IsText (host : String) : Prop := ∃ a : IpAddress, a.Written host.toList

/-- Holds of the first text in a list that is no text of an address. -/
def NameServer.Refuses (hosts : List String) (bad : String) : Prop :=
  ∃ before after, hosts = before ++ bad :: after ∧ (∀ host ∈ before, IpAddress.IsText host) ∧
    ¬ IpAddress.IsText bad

namespace NameServer

variable {host : String} {hosts : List String} {address : IpAddress} {server : NameServer}
  {servers : List NameServer} {e : InvalidNameServer}

theorem standsFor_iff (h : IpAddress.ofText? host = some address) :
    StandsFor host server ↔ ofAddress address = server := by
  constructor
  · rintro ⟨haddress, hport, htransport⟩
    rw [← ofText?_eq_some, h] at haddress
    cases server
    cases haddress
    cases hport
    cases htransport
    rfl
  · rintro rfl
    exact ⟨ofText?_eq_some.mp h, rfl, rfl⟩

theorem ofHosts_nil : ofHosts [] = .ok [] := rfl

-- The equation of one case is slow to come by, as the reader of addresses is then computed with.
theorem ofHosts_cons_of_none (h : IpAddress.ofText? host = none) (hosts : List String) :
    ofHosts (host :: hosts) = .error ⟨host⟩ := by
  rw [ofHosts.eq_def]
  simp only [h]

theorem ofHosts_cons_of_some (h : IpAddress.ofText? host = some address) (hosts : List String) :
    ofHosts (host :: hosts) = (ofHosts hosts).map (ofAddress address :: ·) := by
  rw [ofHosts.eq_def]
  simp only [h, ofAddress]

theorem isText_of_some (h : IpAddress.ofText? host = some address) : IpAddress.IsText host :=
  ⟨address, ofText?_eq_some.mp h⟩

theorem not_isText_of_none (h : IpAddress.ofText? host = none) : ¬ IpAddress.IsText host :=
  not_exists.mpr (ofText?_eq_none.mp h)

theorem ofHosts_eq_ok : ofHosts hosts = .ok servers ↔ List.Forall₂ StandsFor hosts servers := by
  induction hosts generalizing servers with
  | nil => rw [List.forall₂_nil_left_iff, ofHosts_nil, Except.ok.injEq, eq_comm]
  | cons host hosts ih =>
    rw [List.forall₂_cons_left_iff]
    cases hread : IpAddress.ofText? host with
    | none =>
      rw [ofHosts_cons_of_none hread]
      constructor
      · intro h
        cases h
      · rintro ⟨server, -, hserver, -, -⟩
        exact absurd ⟨_, hserver.address⟩ (not_isText_of_none hread)
    | some address =>
      rw [ofHosts_cons_of_some hread]
      simp only [standsFor_iff hread, ← ih]
      constructor
      · intro h
        obtain ⟨more, hmore, rfl⟩ := exists_of_map_eq_ok h
        exact ⟨_, more, rfl, hmore, rfl⟩
      · rintro ⟨_, more, rfl, hmore, rfl⟩
        rw [hmore]
        rfl

theorem refuses_cons {bad : String} : Refuses (host :: hosts) bad ↔
    host = bad ∧ ¬ IpAddress.IsText bad ∨ IpAddress.IsText host ∧ Refuses hosts bad := by
  constructor
  · rintro ⟨before, after, hsplit, hbefore, hbad⟩
    cases before with
    | nil => exact .inl ⟨(List.cons.inj hsplit).1, hbad⟩
    | cons first before =>
      obtain ⟨rfl, rfl⟩ := List.cons.inj hsplit
      obtain ⟨hhost, hbefore⟩ := List.forall_mem_cons.mp hbefore
      exact .inr ⟨hhost, before, after, rfl, hbefore, hbad⟩
  · rintro (⟨rfl, hbad⟩ | ⟨hhost, before, after, rfl, hbefore, hbad⟩)
    · exact ⟨[], hosts, rfl, by simp, hbad⟩
    · exact ⟨host :: before, after, rfl, List.forall_mem_cons.mpr ⟨hhost, hbefore⟩, hbad⟩

/-- The error names the text that is refused. -/
theorem ofHosts_eq_error : ofHosts hosts = .error e ↔ Refuses hosts e.host := by
  induction hosts with
  | nil =>
    constructor
    · intro h
      cases h
    · rintro ⟨before, after, hsplit, -⟩
      simp at hsplit
  | cons host hosts ih =>
    rw [refuses_cons]
    cases hread : IpAddress.ofText? host with
    | none =>
      have hhost := not_isText_of_none hread
      rw [ofHosts_cons_of_none hread, Except.error.injEq]
      constructor
      · rintro rfl
        exact .inl ⟨rfl, hhost⟩
      · rintro (⟨rfl, -⟩ | ⟨htext, -⟩)
        · rfl
        · exact absurd htext hhost
    | some address =>
      have hhost := isText_of_some hread
      have hmap : (ofHosts hosts).map (ofAddress address :: ·) = .error e ↔
          ofHosts hosts = .error e := by
        cases ofHosts hosts <;> simp [Except.map]
      rw [ofHosts_cons_of_some hread, hmap, ih]
      constructor
      · exact fun h => .inr ⟨hhost, h⟩
      · rintro (⟨rfl, hbad⟩ | ⟨-, h⟩)
        · exact absurd hhost hbad
        · exact h

theorem isText_of_standsFor (h : List.Forall₂ StandsFor hosts servers) :
    ∀ host ∈ hosts, IpAddress.IsText host := by
  induction h with
  | nil => simp
  | cons hserver _ ih => exact List.forall_mem_cons.mpr ⟨⟨_, hserver.address⟩, ih⟩

theorem standsFor_map {addresses : List IpAddress}
    (h : List.Forall₂ (fun host a => IpAddress.Written a host.toList) hosts addresses) :
    List.Forall₂ StandsFor hosts (addresses.map ofAddress) := by
  rw [List.forall₂_map_right_iff]
  exact h.imp fun _ _ hwritten => ⟨hwritten, rfl, rfl⟩

theorem exists_ofHosts_eq_error :
    (∃ e, ofHosts hosts = .error e) ↔ ∃ host ∈ hosts, ¬ IpAddress.IsText host := by
  constructor
  · rintro ⟨e, he⟩
    obtain ⟨before, after, rfl, -, hbad⟩ := ofHosts_eq_error.mp he
    exact ⟨e.host, by simp, hbad⟩
  · rintro ⟨host, hmem, hbad⟩
    cases hread : ofHosts hosts with
    | error e => exact ⟨e, rfl⟩
    | ok servers => exact absurd (isText_of_standsFor (ofHosts_eq_ok.mp hread) host hmem) hbad

end NameServer

/-! ## Addresses in a variable -/

namespace Overrides

theorem toNat_bounds_of_isAddressChar {c : Char} (h : AddressText.IsAddressChar c) :
    0x2E ≤ c.toNat ∧ c.toNat ≤ 0x66 := by
  rcases h with hdigit | rfl | rfl
  · exact (Hexadecimal.toNat_bounds hdigit).imp_left (Nat.le_trans (by decide))
  · decide
  · decide

/-- A text of an address can stand in a list. -/
theorem isHost_of_isText {name : String} (h : IpAddress.IsText name) : IsHost name := by
  obtain ⟨address, hwritten⟩ := h
  have hbounds (c : Char) (hc : c ∈ name.toList) : 0x2E ≤ c.toNat ∧ c.toNat ≤ 0x66 :=
    toNat_bounds_of_isAddressChar (hwritten.isAddressChar c hc)
  have hblank (c : Char) (hc : c ∈ name.toList) : Text.isBlank c = false := by
    have hc := hbounds c hc
    simp only [Text.isBlank, Bool.or_eq_false_iff, Bool.and_eq_false_iff, beq_eq_false_iff_ne,
      decide_eq_false_iff_not]
    omega
  refine ⟨?_, ?_, fun c hc => hblank c (List.mem_of_mem_head? hc),
    fun c hc => hblank c (List.mem_of_getLast? hc)⟩
  · rintro rfl
    rw [← ofText?_eq_some] at hwritten
    cases hwritten
  · intro hcomma
    exact absurd (hbounds ',' hcomma).1 (by decide)

end Overrides

namespace Settings

variable {files : String → FileState} {lookup : String → Option String} {s : Settings}

theorem dnsHosts_of_loadFrom {value : String} (h : loadFrom files lookup = .ok s)
    (hvalue : lookup "DNS_HOSTS" = some value) : s.dnsHosts = Overrides.hosts value := by
  obtain ⟨part, -, hmerged, -⟩ := load_eq_ok.mp h
  have hhosts := hmerged.dnsHosts
  rw [show (Overrides.ofLookup lookup).dnsHosts = some value from hvalue] at hhosts
  exact (Overrides.hosts_eq.mpr (chosen_some.mp hhosts)).symm

theorem exists_loadFrom_congr {other : String → Option String}
    (h : ∀ name ≠ "DNS_HOSTS", other name = lookup name) :
    (∃ s, loadFrom files other = .ok s) ↔ ∃ s, loadFrom files lookup = .ok s := by
  simp only [loadFrom, exists_load_eq_ok, Overrides.ofLookup, h "CONFIG_FILE" (by decide),
    h "LISTEN_ADDR" (by decide), h "DEFAULT_TIMEOUT_SECONDS" (by decide)]

end Settings

open NameServer (StandsFor Refuses)

theorem Resolver.ofHosts_of_ne_nil {hosts : List String} (h : hosts ≠ []) :
    ofHosts hosts = (NameServer.ofHosts hosts).map .servers := by
  rw [ofHosts, if_neg (by simpa using h)]

/-- A list of hosts is refused exactly if one of them is no text of an address, and the first such
is named. Otherwise it stands for the servers at its addresses, in order, with port 53 and TCP. A
list of addresses in a variable stands for its servers, whatever white space and commas there are,
and never keeps the settings from being loaded. -/
theorem Resolver.servers_in_order :
    (∀ hosts, ((∃ e, NameServer.ofHosts hosts = .error e) ↔
        ∃ host ∈ hosts, ¬ IpAddress.IsText host) ∧
      (∀ e, NameServer.ofHosts hosts = .error e ↔ Refuses hosts e.host) ∧
      (∀ servers, NameServer.ofHosts hosts = .ok servers ↔
        List.Forall₂ StandsFor hosts servers) ∧
      (hosts ≠ [] → ofHosts hosts = (NameServer.ofHosts hosts).map .servers)) ∧
    ∀ (files : String → FileState) (lookup : String → Option String) (value : String)
      (names : List String) (addresses : List IpAddress), addresses ≠ [] →
      List.Forall₂ (fun name a => IpAddress.Written a name.toList) names addresses →
      Overrides.WrittenHosts names value.toList → lookup "DNS_HOSTS" = some value →
      (∀ s, Settings.loadFrom files lookup = .ok s →
        ofHosts s.dnsHosts = .ok (.servers (addresses.map NameServer.ofAddress))) ∧
      ∀ other : String → Option String, (∀ name ≠ "DNS_HOSTS", other name = lookup name) →
        ((∃ s, Settings.loadFrom files lookup = .ok s) ↔
          ∃ s, Settings.loadFrom files other = .ok s) := by
  refine ⟨fun hosts => ⟨NameServer.exists_ofHosts_eq_error, fun e => NameServer.ofHosts_eq_error,
    fun servers => NameServer.ofHosts_eq_ok, ofHosts_of_ne_nil⟩, ?_⟩
  intro files lookup value names addresses hne hwritten hvalue hset
  refine ⟨?_, fun other hother => (Settings.exists_loadFrom_congr hother).symm⟩
  intro s hloaded
  have htexts : ∀ name ∈ names, IpAddress.IsText name :=
    NameServer.isText_of_standsFor (NameServer.standsFor_map hwritten)
  have hnames : Overrides.hosts value = names :=
    Overrides.hosts_eq_iff.mpr ⟨hvalue, fun name hname =>
      Overrides.isHost_of_isText (htexts name hname)⟩
  have hnil : names ≠ [] := by
    rintro rfl
    exact hne (List.forall₂_nil_left_iff.mp hwritten)
  rw [Settings.dnsHosts_of_loadFrom hloaded hset, hnames, ofHosts_of_ne_nil hnil,
    NameServer.ofHosts_eq_ok.mpr (NameServer.standsFor_map hwritten)]
  rfl

/-- Two texts of addresses, one of them twice, with white space around them and commas too many. -/
theorem Resolver.servers_in_order_padded :
    let lookup : String → Option String := fun name =>
      if name = "DNS_HOSTS" then some ",9.9.9.9 ,\t,0::1,9.9.9.9" else none
    let quad : NameServer := .ofAddress (.v4 ⟨9, 9, 9, 9⟩)
    let loopback : NameServer := .ofAddress (.v6 ⟨#v[0, 0, 0, 0, 0, 0, 0, 1]⟩)
    ∃ s, Settings.loadFrom (fun _ => .absent) lookup = .ok s ∧
      ofHosts s.dnsHosts = .ok (.servers [quad, loopback, quad]) := by
  intro lookup quad loopback
  have hquad : quad.address.Written "9.9.9.9".toList := ofText?_eq_some.mp (by decide +kernel)
  have hloopback : loopback.address.Written "0::1".toList :=
    ofText?_eq_some.mp (by decide +kernel)
  have hlist : Overrides.WrittenHosts ["9.9.9.9", "0::1", "9.9.9.9"]
      ",9.9.9.9 ,\t,0::1,9.9.9.9".toList :=
    .cons (@Overrides.WrittenEntry.empty [] rfl)
      (.cons (.host (@Overrides.Padded.mk "9.9.9.9".toList [] [' '] rfl rfl))
        (.cons (@Overrides.WrittenEntry.empty ['\t'] rfl)
          (.cons (.host (@Overrides.Padded.mk "0::1".toList [] [] rfl rfl))
            (.last (.host (@Overrides.Padded.mk "9.9.9.9".toList [] [] rfl rfl))))))
  have hservers := (servers_in_order.2 (fun _ => .absent) lookup _ _
    [quad.address, loopback.address, quad.address] (by simp)
    (.cons hquad (.cons hloopback (.cons hquad .nil))) hlist rfl).1
  exact ⟨_, rfl, hservers _ rfl⟩

end Reachability
