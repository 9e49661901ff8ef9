import Reachability.Endpoint

/-!
# What an endpoint is read from

A text has an endpoint if it is a URL with a host, and else it is refused with a reason.
-/
namespace Reachability.Endpoint

theorem occursIn_append (part front back : List Char) :
    occursIn part (front ++ (part ++ back)) = true := by
  induction front with
  | nil =>
    rw [List.nil_append]
    cases hcs : part ++ back with
    | nil =>
      rw [List.append_eq_nil_iff.mp hcs |>.1]
      rfl
    | cons c cs =>
      have hprefix : part.isPrefixOf (c :: cs) = true := by
        rw [← hcs]
        exact List.isPrefixOf_iff_prefix.mpr (List.prefix_append part back)
      simp [occursIn, hprefix]
  | cons c front ih => simp [occursIn, ih]

theorem ofUrl_eq_ok {url : String} {e : Endpoint} (h : ofUrl url = .ok e) :
    ∃ parsed host, Url.parse (withScheme url) = .ok parsed ∧ parsed.host = some host ∧
      e = ⟨host.toText, parsed.port.getD (defaultPort parsed.scheme)⟩ := by
  unfold ofUrl at h
  split at h
  · next found hparsed =>
    obtain rfl := Except.ok.inj h
    unfold ofParsed at hparsed
    split at hparsed
    · cases hparsed
    · next parsed hparse =>
      split at hparsed
      · cases hparsed
      · next host hhost => exact ⟨parsed, host, hparse, hhost, (Except.ok.inj hparsed).symm⟩
  · cases h

theorem ofUrl_of_parse {url : String} {parsed : Url} {host : Host}
    (h : Url.parse (withScheme url) = .ok parsed) (hhost : parsed.host = some host) :
    ofUrl url = .ok ⟨host.toText, parsed.port.getD (defaultPort parsed.scheme)⟩ := by
  have hparsed : ofParsed (Url.parse (withScheme url)) =
      .ok ⟨host.toText, parsed.port.getD (defaultPort parsed.scheme)⟩ := by
    rw [h, ofParsed, hhost]
  rw [ofUrl, hparsed]

theorem ofUrl_of_error {url reason : String}
    (h : ofParsed (Url.parse (withScheme url)) = .error reason) :
    ofUrl url = .error (.malformedUrl url reason) := by
  rw [ofUrl, h]

theorem ofUrl_eq_ok_or_error (url : String) : (∃ e, ofUrl url = .ok e) ∨
    ∃ reason, ofUrl url = .error (.malformedUrl url reason) := by
  cases h : ofParsed (Url.parse (withScheme url)) with
  | ok e => exact .inl ⟨e, by rw [ofUrl, h]⟩
  | error reason => exact .inr ⟨reason, ofUrl_of_error h⟩

end Reachability.Endpoint
