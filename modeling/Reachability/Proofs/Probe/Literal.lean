import Reachability.Network.Isolated
import Reachability.Probe
import Reachability.Proofs.Endpoint
import Reachability.Proofs.Url.Address
import Reachability.Proofs.Url.Scheme
import Reachability.Proofs.Url.Significant

/-!
# Probes of addresses that are written out

An address needs no lookup. Whether it stands in a URL or is given as a host, with or without
brackets, the same address and port are dialled and nothing else is asked of the network.
-/
namespace Reachability

open Decimal (digits)

/-! ## Endpoints -/

namespace Url

/-- The URL of an address and its port. Of the path it counts only that there is one. -/
theorem parse_literal (a : IpAddress) (p : UInt16) (scheme : List Char) (usual : UInt16)
    (hchars : ∀ c ∈ scheme, isSchemeChar c = true ∧ isEdge c = false)
    (hfirst : scheme.head?.any Text.isAsciiLetter = true)
    (hkind : schemeKind (scheme.map Text.lowerAscii) = .web usual) {path : List Char}
    (hpath : ∀ c ∈ path.head?, c = '/') {text : String}
    (htext : text.toList = scheme ++ "://".toList ++ literalAuthority a p ++ path) :
    parse text = .ok ⟨.ofList (scheme.map Text.lowerAscii), some (.ip a),
      if p = usual then none else some p⟩ := by
  have hall : ∀ c ∈ literalChars, isEdge c = false ∧ (c == '/' || c == '\\') = false :=
    List.all_iff_forall_prop.mp (by decide)
  have hliteral : ∀ c ∈ literalAuthority a p, isEdge c = false ∧ (c == '/' || c == '\\') = false :=
    fun c hc => hall c (mem_literalChars hc)
  obtain ⟨first, more, hcons⟩ : ∃ first more, literalAuthority a p = first :: more :=
    List.exists_cons_of_ne_nil (by simp [literalAuthority])
  have hfirst' : (first == '/' || first == '\\') = false :=
    (hliteral first (hcons ▸ List.mem_cons_self)).2
  have hmark : ∀ c ∈ "://".toList, isEdge c = false := List.all_iff_forall_prop.mp (by decide)
  have hcore : ∀ c ∈ scheme ++ "://".toList ++ literalAuthority a p, isEdge c = false := by
    intro c hc
    rcases List.mem_append.mp hc with hc | hc
    · rcases List.mem_append.mp hc with hc | hc
      · exact (hchars c hc).2
      · exact hmark c hc
    · exact (hliteral c hc).1
  have hpath' : ∀ c ∈ (onOneLine (trimEnd path)).head?, c = '/' := by
    cases path with
    | nil => simp [trimEnd, onOneLine]
    | cons c path =>
      obtain rfl := hpath c rfl
      rw [trimEnd_cons (by decide)]
      simp [onOneLine, isLineBreak]
  have hsplit : splitScheme? (significant text.toList) = some (scheme.map Text.lowerAscii,
      '/' :: '/' :: (literalAuthority a p ++ onOneLine (trimEnd path))) := by
    rw [htext, significant_append (by simp) hcore]
    have := splitScheme?_append ⟨fun c hc => (hchars c hc).1, hfirst⟩
      ('/' :: '/' :: (literalAuthority a p ++ onOneLine (trimEnd path)))
    simpa using this
  have hskip : ('/' :: '/' :: (literalAuthority a p ++ onOneLine (trimEnd path))).dropWhile
      (fun c => c == '/' || c == '\\') = literalAuthority a p ++ onOneLine (trimEnd path) := by
    rw [hcons]
    simp [hfirst']
  simp only [parse, hsplit, ofScheme, hkind, hskip, webAuthority_literal a p hpath', bind,
    Except.bind, pure, Except.pure, Option.some.injEq]

end Url

namespace Endpoint

theorem ofUrl_literal (a : IpAddress) (p : UInt16) {scheme suffix : String}
    (hscheme : scheme = "http" ∨ scheme = "https")
    (hsuffix : ∀ c ∈ suffix.toList.head?, c = '/') {url : String}
    (hurl : url.toList =
      scheme.toList ++ "://".toList ++ Url.literalAuthority a p ++ suffix.toList) :
    ofUrl url = .ok ⟨a.toText, p⟩ := by
  have hoccurs : occursIn "://".toList url.toList = true := by
    rw [hurl, List.append_assoc, List.append_assoc]
    exact occursIn_append _ _ _
  have hport (usual : UInt16) : (if p = usual then none else some p).getD usual = p := by
    by_cases h : p = usual <;> simp [h]
  have hparsed : ofParsed (Url.parse url) = .ok ⟨a.toText, p⟩ := by
    rcases hscheme with rfl | rfl
    · have hparse := Url.parse_literal a p "http".toList 80
        (List.all_iff_forall_prop.mp (by decide)) (by decide) (by decide) hsuffix hurl
      have hdefault : defaultPort (.ofList ("http".toList.map Text.lowerAscii)) = 80 := by decide
      simp only [hparse, ofParsed, Host.toText, hdefault, hport]
    · have hparse := Url.parse_literal a p "https".toList 443
        (List.all_iff_forall_prop.mp (by decide)) (by decide) (by decide) hsuffix hurl
      have hdefault : defaultPort (.ofList ("https".toList.map Text.lowerAscii)) = 443 := by decide
      simp only [hparse, ofParsed, Host.toText, hdefault, hport]
  simp only [ofUrl, withScheme, hoccurs, if_true, hparsed]

end Endpoint

theorem IpAddress.mem_of_mem_toText {a : IpAddress} {c : Char} (h : c ∈ a.toText.toList) :
    c ∈ "0123456789abcdef:.".toList := by
  cases a with
  | v4 a =>
    rw [toText, Ipv4.toList_toText] at h
    exact (by decide : numerics ⊆ "0123456789abcdef:.".toList) (Ipv4.mem_numerics_of_mem_chars h)
  | v6 a => exact Ipv6.mem_of_mem_toText h

namespace HostName

theorem kind_toText (a : IpAddress) : kind a.toText = .address a := by
  unfold kind
  rw [IpAddress.ofText?_toText]

theorem resolve_of_kind {host : String} {a : IpAddress}
    (h : kind (unbracketed host) = .address a) : resolve host = .done (.ok a) := by
  unfold resolve
  dsimp only
  rw [h]

theorem resolve_toText (a : IpAddress) : resolve a.toText = .done (.ok a) := by
  have hplain : unbracketed a.toText = a.toText := by
    unfold unbracketed
    split
    · next cs h =>
      have hmem : '[' ∈ a.toText.toList := by
        rw [h]
        exact List.mem_cons_self
      exact absurd (IpAddress.mem_of_mem_toText hmem) (by decide)
    · rfl
  exact resolve_of_kind (by rw [hplain, kind_toText])

theorem resolve_bracketed (a : IpAddress) : resolve ("[" ++ a.toText ++ "]") = .done (.ok a) := by
  have htext : ("[" ++ a.toText ++ "]").toList = '[' :: (a.toText.toList ++ [']']) := by
    simp only [String.toList_append]
    rfl
  have hplain : unbracketed ("[" ++ a.toText ++ "]") = a.toText := by
    simp only [unbracketed, htext, List.getLast?_concat, if_true, List.dropLast_concat,
      String.ofList_toList]
  exact resolve_of_kind (by rw [hplain, kind_toText])

end HostName

namespace Attempt

def dial (target : SocketAddress) (limit : Duration) : Program Outcome := do
  let start ← Program.perform .instant
  let connection ← Program.perform (.connect target limit)
  let finish ← Program.perform .instant
  return ofConnection limit (elapsedMs start finish) connection

theorem tcp_of_resolve {host : String} {ip : IpAddress} (h : HostName.resolve host = .done (.ok ip))
    (port : UInt16) (limit : Duration) : tcp host port limit = dial (.ofIp ip port) limit := by
  rw [tcp, h]
  rfl

theorem trace_dial {σ : Type} (net : Network σ) (target : SocketAddress) (limit : Duration)
    (s : σ) : ((dial target limit).trace net s).2.2 =
      [.instant, .connect target limit, .instant] := by
  simp [dial, Program.perform, Program.trace_bind]

theorem http_of_ofUrl {url : String} {ip : IpAddress} {port : UInt16}
    (h : Endpoint.ofUrl url = .ok ⟨ip.toText, port⟩) (limit : Duration) :
    http url limit = dial (.ofIp ip port) limit := by
  unfold http
  rw [h]
  exact tcp_of_resolve (HostName.resolve_toText ip) port limit

end Attempt

/-! ## Probes -/

/-- The text of an address in a URL: in brackets if it is of version 6. -/
def IpAddress.urlText : IpAddress → String
  | .v4 a => a.toText
  | .v6 a => "[" ++ a.toText ++ "]"

def literalUrl (scheme : String) (a : IpAddress) (p : UInt16) (suffix : String) : String :=
  scheme ++ "://" ++ a.urlText ++ ":" ++ Decimal.text p.toNat ++ suffix

theorem toList_literalUrl (scheme : String) (a : IpAddress) (p : UInt16) (suffix : String) :
    (literalUrl scheme a p suffix).toList =
      scheme.toList ++ "://".toList ++ Url.literalAuthority a p ++ suffix.toList := by
  have hhost : a.urlText.toList = a.hostChars := by
    cases a with
    | v4 a => exact Ipv4.toList_toText a
    | v6 a =>
      simp only [IpAddress.urlText, IpAddress.hostChars, String.toList_append]
      rfl
  simp only [literalUrl, String.toList_append, hhost, Url.literalAuthority, Decimal.text,
    String.toList_ofList, List.append_assoc]
  rfl

theorem Endpoint.ofUrl_healthUrl_literal (a : IpAddress) (p : UInt16) {scheme suffix : String}
    (hscheme : scheme = "http" ∨ scheme = "https") (hsuffix : ∀ c ∈ suffix.toList.head?, c = '/') :
    ofUrl (healthUrl (literalUrl scheme a p suffix)) = .ok ⟨a.toText, p⟩ := by
  have htext := toList_literalUrl scheme a p suffix
  have happend (more : String) : (literalUrl scheme a p suffix ++ more).toList =
      scheme.toList ++ "://".toList ++ Url.literalAuthority a p ++ (suffix ++ more).toList := by
    rw [String.toList_append, String.toList_append, htext, List.append_assoc]
  unfold healthUrl
  split
  · next hslash =>
    refine ofUrl_literal a p hscheme ?_ (happend healthPath)
    cases hcs : suffix.toList with
    | nil =>
      -- Without a path the URL ends in its port, so its last character is no slash.
      have hlast : '/' ∈ Url.literalAuthority a p := by
        obtain ⟨c, tail, hcons⟩ : ∃ c tail, Url.literalAuthority a p = c :: tail :=
          List.exists_cons_of_ne_nil (by simp [Url.literalAuthority])
        have hne : (Url.literalAuthority a p).getLast? ≠ none := by simp [hcons]
        rw [htext, hcs, List.append_nil, List.getLast?_append, Option.or_of_isSome
          (Option.isSome_iff_ne_none.mpr hne)] at hslash
        exact List.mem_of_getLast? hslash
      exact absurd (Url.mem_literalChars hlast) (by decide)
    | cons c tail =>
      rw [String.toList_append, hcs]
      simpa [hcs] using hsuffix
  · have hpath : ∀ c ∈ (suffix ++ ("/" ++ healthPath)).toList.head?, c = '/' := by
      rw [String.toList_append]
      cases hcs : suffix.toList with
      | nil =>
        intro c hc
        exact (Option.some_inj.mp hc).symm
      | cons c tail => simpa [hcs] using hsuffix
    rw [String.append_assoc]
    exact ofUrl_literal a p hscheme hpath (happend _)

/-- What a probe lets be seen on the network. -/
def Probe.traffic {σ : Type} (net : Network σ) (p : Probe) (s : σ) : List Action :=
  (p.test.trace net s).2.2.filter Action.isTraffic

theorem Probe.traffic_of_violation? {σ : Type} (net : Network σ) {p : Probe} (s : σ)
    (h : p.violation? = none) :
    p.traffic net s = (p.measure.trace net s).2.2.filter Action.isTraffic := by
  simp [traffic, test, h]

theorem Probe.traffic_tcp_of_resolve {σ : Type} (net : Network σ) (s : σ) {host : String}
    {ip : IpAddress} {port : UInt16} {limit : Duration}
    (hresolve : HostName.resolve host = .done (.ok ip)) (hhost : Text.isAllBlank host = false)
    (hport : port ≠ 0) (hlimit : limit.isZero = false) :
    (Probe.tcp host port limit).traffic net s = [.connect (.ofIp ip port) limit] := by
  have hv : (Probe.tcp host port limit).violation? = none := by
    simp [violation?, hostViolation?, hhost, hport, hlimit]
  have hdial := Attempt.trace_dial net (.ofIp ip port) limit s
  rw [traffic_of_violation? net s hv, measure, Attempt.tcp_of_resolve hresolve]
  simp only [Program.trace_bind, hdial]
  rfl

theorem Probe.traffic_elasticsearch_of_ofUrl {σ : Type} (net : Network σ) (s : σ) {url : String}
    {ip : IpAddress} {port : UInt16} {limit : Duration} (credentials : Credentials)
    (hurl : Endpoint.ofUrl url = .ok ⟨ip.toText, port⟩)
    (hhealth : Endpoint.ofUrl (Endpoint.healthUrl url) = .ok ⟨ip.toText, port⟩)
    (hblank : Text.isAllBlank url = false) (hlimit : limit.isZero = false) :
    (Probe.elasticsearch url credentials limit).traffic net s =
      .connect (.ofIp ip port) limit ::
        if ((Attempt.dial (.ofIp ip port) limit).run net s).isSuccess then
          [.connect (.ofIp ip port) limit]
        else [] := by
  have hv : (Probe.elasticsearch url credentials limit).violation? = none := by
    simp [violation?, urlViolation?, hblank, hlimit]
  have hdial := Attempt.trace_dial net (.ofIp ip port) limit
  have hbase : ((Attempt.dial (.ofIp ip port) limit).trace net s).1 =
      (Attempt.dial (.ofIp ip port) limit).run net s := rfl
  rw [traffic_of_violation? net s hv, measure, Attempt.http_of_ofUrl hurl]
  simp only [Program.trace_bind, hbase, health, Attempt.http_of_ofUrl hhealth]
  cases ((Attempt.dial (.ofIp ip port) limit).run net s).isSuccess with
  | true =>
    simp only [if_true, Program.trace_bind, hdial]
    rfl
  | false =>
    simp only [Bool.false_eq_true, if_false, hdial]
    rfl

theorem isAllBlank_of_mem {text : String} {c : Char} (h : c ∈ text.toList)
    (hc : Text.isBlank c = false) : Text.isAllBlank text = false := by
  rw [Text.isAllBlank, List.all_eq_false]
  exact ⟨c, h, by simp [hc]⟩

theorem isAllBlank_toText (a : IpAddress) : Text.isAllBlank a.toText = false := by
  have hne : a.toText.toList ≠ [] := by
    intro hnil
    have hread := IpAddress.ofText?_toText a
    rw [IpAddress.ofText?, hnil] at hread
    cases hread
  obtain ⟨c, tail, hcons⟩ := List.exists_cons_of_ne_nil hne
  have hmem : c ∈ a.toText.toList := by simp [hcons]
  have hall : ∀ c ∈ "0123456789abcdef:.".toList, Text.isBlank c = false :=
    List.all_iff_forall_prop.mp (by decide)
  exact isAllBlank_of_mem hmem (hall c (IpAddress.mem_of_mem_toText hmem))

/-- An address that is written out is dialled as it is, with and without brackets and from a URL
with any path. A cluster is dialled once more for its health, if it was reached. -/
theorem probes_dial_literal {σ : Type} (net : Network σ) (s : σ) (a : IpAddress) {p : UInt16}
    (hp : p ≠ 0) {limit : Duration} (hlimit : limit.isZero = false) (credentials : Credentials)
    {scheme suffix : String} (hscheme : scheme = "http" ∨ scheme = "https")
    (hsuffix : ∀ c ∈ suffix.toList.head?, c = '/') :
    let url := literalUrl scheme a p suffix
    let dialled := Action.connect (.ofIp a p) limit
    (Probe.tcp a.toText p limit).traffic net s = [dialled] ∧
    (Probe.tcp ("[" ++ a.toText ++ "]") p limit).traffic net s = [dialled] ∧
    (Probe.elasticsearch url credentials limit).traffic net s =
      dialled :: if ((Attempt.http url limit).run net s).isSuccess then [dialled] else [] := by
  intro url dialled
  have hurl : Endpoint.ofUrl url = .ok ⟨a.toText, p⟩ :=
    Endpoint.ofUrl_literal a p hscheme hsuffix (toList_literalUrl scheme a p suffix)
  have hbracketed : Text.isAllBlank ("[" ++ a.toText ++ "]") = false :=
    isAllBlank_of_mem (c := '[') (by simp) (by decide)
  have hblank : Text.isAllBlank url = false :=
    isAllBlank_of_mem (c := ':') (by simp [url, toList_literalUrl]) (by decide)
  refine ⟨?_, ?_, ?_⟩
  · exact Probe.traffic_tcp_of_resolve net s (HostName.resolve_toText a) (isAllBlank_toText a) hp
      hlimit
  · exact Probe.traffic_tcp_of_resolve net s (HostName.resolve_bracketed a) hbracketed hp hlimit
  · rw [Attempt.http_of_ofUrl hurl]
    exact Probe.traffic_elasticsearch_of_ofUrl net s credentials hurl
      (Endpoint.ofUrl_healthUrl_literal a p hscheme hsuffix) hblank hlimit

/-- The usual port of a scheme, and a path with an `@` in it. -/
theorem probes_dial_loopback :
    let a := IpAddress.v6 ⟨#v[0, 0, 0, 0, 0, 0, 0, 1]⟩
    let url := literalUrl "https" a 443 "/user@host"
    let dialled := Action.connect (.ofIp a 443) (.ofSeconds 5)
    url = "https://[::1]:443/user@host" ∧
    (Probe.tcp a.toText 443 (.ofSeconds 5)).traffic (Network.isolated 0) () = [dialled] ∧
    (Probe.tcp ("[" ++ a.toText ++ "]") 443 (.ofSeconds 5)).traffic (Network.isolated 0) () =
      [dialled] ∧
    (Probe.elasticsearch url {} (.ofSeconds 5)).traffic (Network.isolated 0) () =
      dialled :: if ((Attempt.http url (.ofSeconds 5)).run (Network.isolated 0) ()).isSuccess then
        [dialled] else [] :=
  ⟨by decide, probes_dial_literal (Network.isolated 0) () (.v6 ⟨#v[0, 0, 0, 0, 0, 0, 0, 1]⟩)
    (by decide) (by decide) {} (.inr rfl) fun _ hc => (Option.some_inj.mp hc).symm⟩

end Reachability
