import Reachability.Probe
import Reachability.Proofs.Endpoint
import Reachability.Proofs.Url.Extend

/-!
# The health of a cluster

The health of a cluster is asked for behind its base URL. That leads to the endpoint of the base
URL wherever blanks at the end of it still count for nothing: if it does not end in blanks, or if
its authority has ended before them.
-/
namespace Reachability

namespace Endpoint

/-! ## The URL of the health -/

def healthSuffix (base : String) : String :=
  if base.toList.getLast? = some '/' then healthPath else "/" ++ healthPath

theorem healthUrl_eq (base : String) : healthUrl base = base ++ healthSuffix base := by
  unfold healthUrl healthSuffix
  split
  · rfl
  · rw [String.append_assoc]

theorem healthSuffix_chars (base : String) :
    ∀ c ∈ (healthSuffix base).toList, Url.isEdge c = false ∧ c ≠ ':' ∧ c ≠ '|' := by
  rw [← List.all_iff_forall_prop]
  unfold healthSuffix
  split <;> decide

theorem healthSuffix_ne_nil (base : String) : (healthSuffix base).toList ≠ [] := by
  unfold healthSuffix
  split <;> decide

theorem slash_before_health (base : String) :
    (healthSuffix base).toList.head? = some '/' ∨ base.toList.getLast? = some '/' := by
  by_cases h : base.toList.getLast? = some '/'
  · exact .inr h
  · rw [healthSuffix, if_neg h]
    exact .inl (by decide)

/-- No mark of a scheme comes about where a text goes on with another that has none, if no two
slashes meet there. -/
theorem occursIn_append_of_noSlashes {cs more : List Char}
    (hmore : occursIn "://".toList more = false) (hslashes : ¬ "//".toList <+: more)
    (hslash : cs.getLast? = some '/' → more.head? ≠ some '/') :
    occursIn "://".toList (cs ++ more) = occursIn "://".toList cs := by
  induction cs with
  | nil => exact hmore
  | cons c cs ih =>
    have hprefix : "//".toList <+: cs ++ more ↔ "//".toList <+: cs := by
      rcases cs with _ | ⟨d, _ | ⟨e, cs⟩⟩
      · simpa using hslashes
      · suffices ¬ "//".toList <+: d :: more by simpa
        intro h
        obtain ⟨rfl, hhead⟩ := List.cons_prefix_cons.mp h
        obtain ⟨rest, rfl⟩ := hhead
        exact hslash rfl rfl
      · simp
    have hlast : cs.getLast? = some '/' → more.head? ≠ some '/' := by
      intro h
      refine hslash ?_
      rw [List.getLast?_cons, h]
      rfl
    have htest : "://".toList.isPrefixOf (c :: (cs ++ more)) =
        "://".toList.isPrefixOf (c :: cs) := by
      have (rest : List Char) : "://".toList.isPrefixOf (c :: rest) = true ↔
          ':' = c ∧ "//".toList <+: rest := by
        rw [List.isPrefixOf_iff_prefix]
        exact List.cons_prefix_cons
      rw [Bool.eq_iff_iff, this, this, hprefix]
    rw [List.cons_append, occursIn, htest, ih hlast, occursIn]

theorem withScheme_healthUrl (base : String) :
    withScheme (healthUrl base) = withScheme base ++ healthSuffix base := by
  have hoccurs : occursIn "://".toList (healthUrl base).toList =
      occursIn "://".toList base.toList := by
    rw [healthUrl_eq, String.toList_append]
    refine occursIn_append_of_noSlashes ?_ ?_ ?_
    · unfold healthSuffix
      split <;> decide
    · unfold healthSuffix
      split <;> decide
    · intro hslash
      rw [healthSuffix, if_pos hslash]
      decide
  unfold withScheme
  rw [hoccurs, healthUrl_eq]
  split
  · rfl
  · rw [String.append_assoc]

theorem getLast?_withScheme {base : String} (h : base.toList.getLast? = some '/') :
    (withScheme base).toList.getLast? = some '/' := by
  unfold withScheme
  split
  · exact h
  · rw [String.toList_append, List.getLast?_append, h]
    rfl

theorem not_endsBlank_withScheme {base : String} (h : ¬ Url.EndsBlank base.toList) :
    ¬ Url.EndsBlank (withScheme base).toList := by
  unfold withScheme
  split
  · exact h
  · rintro ⟨c, hc, hedge⟩
    rw [String.toList_append, Url.onOneLine_append, List.getLast?_append] at hc
    cases hlast : (Url.onOneLine base.toList).getLast? with
    | some d =>
      rw [hlast] at hc
      obtain rfl := Option.some_inj.mp hc
      exact h ⟨d, hlast, hedge⟩
    | none =>
      rw [hlast, Option.none_or] at hc
      obtain rfl : '/' = c := Option.some_inj.mp hc
      cases hedge

/-- Holds if something stands behind the authority of a URL, be it only a slash. -/
def HasPath (url : String) : Prop :=
  Url.afterAuthority (Url.significant (withScheme url).toList) ≠ []

instance (url : String) : Decidable (HasPath url) := inferInstanceAs (Decidable (_ ≠ _))

theorem ofUrl_healthUrl_of_not_endsBlank {url : String} {e : Endpoint} (h : ofUrl url = .ok e)
    (hend : ¬ Url.EndsBlank url.toList ∨ HasPath url) : ofUrl (healthUrl url) = .ok e := by
  obtain ⟨parsed, host, hparse, hhost, rfl⟩ := ofUrl_eq_ok h
  have hne : Url.significant (withScheme url).toList ≠ [] := by
    intro hnil
    rw [Url.parse, hnil] at hparse
    cases hparse
  obtain ⟨blanks, hlonger, hblanks, hnone⟩ := Url.significant_append_word hne
    (healthSuffix_ne_nil url) fun c hc => (healthSuffix_chars url c hc).1
  rw [← String.toList_append, ← withScheme_healthUrl] at hlonger
  refine ofUrl_of_parse (Url.parse_of_significant_append hlonger ?_ ?_ hparse hhost) hhost
  · rcases hend with hend | hend
    · rw [hnone (not_endsBlank_withScheme hend), List.nil_append]
      rcases slash_before_health url with hslash | hslash
      · exact .inl hslash
      · exact .inr (.inl (Url.getLast?_significant (getLast?_withScheme hslash) (by decide)))
    · exact .inr (.inr hend)
  · intro c hc
    rcases List.mem_append.mp hc with hc | hc
    · have hedge := hblanks c hc
      constructor
      · rintro rfl
        cases hedge
      · rintro rfl
        cases hedge
    · exact (healthSuffix_chars url c hc).2

end Endpoint

theorem Attempt.http_eq_tcp {url : String} {e : Endpoint} (h : Endpoint.ofUrl url = .ok e)
    (limit : Duration) : http url limit = tcp e.host e.port limit := by
  unfold http
  rw [h]

namespace Probe

/-- The probe of a cluster dials the endpoint of its URL, and for the health the same endpoint once
more, unless there are blanks at the end of the URL and nothing between them and the authority. -/
theorem cluster_health_at_base {url : String} {e : Endpoint} (h : Endpoint.ofUrl url = .ok e)
    (hend : ¬ Url.EndsBlank url.toList ∨ Endpoint.HasPath url) :
    Endpoint.ofUrl (Endpoint.healthUrl url) = .ok e ∧
    ∀ credentials limit, (Probe.elasticsearch url credentials limit).measure = (do
      let base ← Attempt.tcp e.host e.port limit
      let health ← (if base.isSuccess then some <$> Attempt.tcp e.host e.port limit else pure none)
      return .ofElasticsearch url base health credentials (← Program.perform .epochSeconds)) := by
  have hhealth := Endpoint.ofUrl_healthUrl_of_not_endsBlank h hend
  refine ⟨hhealth, fun credentials limit => ?_⟩
  rw [measure]
  simp only [health, Attempt.http_eq_tcp h, Attempt.http_eq_tcp hhealth]
  rfl

/-- A URL without a scheme, with a user, a query and a blank at its end. -/
theorem cluster_health_at_base_query :
    let url := "user@localhost:9200/?pretty "
    Endpoint.ofUrl (Endpoint.healthUrl url) = .ok ⟨"localhost", 9200⟩ ∧
    ∀ credentials limit, (Probe.elasticsearch url credentials limit).measure = (do
      let base ← Attempt.tcp "localhost" 9200 limit
      let health ←
        (if base.isSuccess then some <$> Attempt.tcp "localhost" 9200 limit else pure none)
      return .ofElasticsearch url base health credentials (← Program.perform .epochSeconds)) :=
  cluster_health_at_base (e := ⟨"localhost", 9200⟩) rfl (.inr (by decide))

/-- Blanks at the end of a URL without a path do not count, but are taken for a part of its port
once the path of the health stands behind them. -/
theorem cluster_health_lost_to_blank :
    let url := "http://localhost:9200 "
    Endpoint.ofUrl url = .ok ⟨"localhost", 9200⟩ ∧
    Endpoint.ofUrl (Endpoint.healthUrl url) =
      .error (.malformedUrl "http://localhost:9200 /_cluster/health" "invalid port number") :=
  ⟨rfl, rfl⟩

end Probe

end Reachability
