import Mathlib.Data.Bool.AllAny
import Reachability.Proofs.Endpoint
import Reachability.Proofs.Url.Scheme
import Reachability.Proofs.Url.Significant

/-!
# Endpoints of texts without a scheme

A text without `://` is read as the same text behind `http://`. A text with `://` in it is read as
it is, wherever that stands in it. If it does not begin with a scheme, it then has no endpoint.
-/
namespace Reachability

/-! ## Texts that are taken for relative -/

/-- Holds of a result that is not for the lack of a scheme. -/
def IsAbsolute {α : Type} (result : Except UrlError α) : Prop :=
  result ≠ .error .relativeWithoutBase

namespace IsAbsolute

variable {α β : Type}

theorem ok (a : α) : IsAbsolute (.ok a) := by
  intro h
  cases h

theorem error {e : UrlError} (h : e ≠ .relativeWithoutBase) :
    IsAbsolute (.error e : Except UrlError α) :=
  fun heq => h (Except.error.inj heq)

theorem bind {x : Except UrlError α} {f : α → Except UrlError β} (hx : IsAbsolute x)
    (hf : ∀ a, IsAbsolute (f a)) : IsAbsolute (x >>= f) := by
  cases x with
  | error e => exact error fun h => hx (congrArg Except.error h)
  | ok a => exact hf a

end IsAbsolute

namespace Host

theorem isAbsolute_ofBracketed (cs : List Char) : IsAbsolute (ofBracketed cs) := by
  unfold ofBracketed
  split
  · split
    · exact .ok _
    · exact .error (by decide)
  · exact .error (by decide)

theorem isAbsolute_ofAsciiName (name : List Char) : IsAbsolute (ofAsciiName name) := by
  unfold ofAsciiName
  split
  · exact .error (by decide)
  split
  · split
    · exact .ok _
    · exact .error (by decide)
  · exact .ok _

theorem isAbsolute_ofWebText (cs : List Char) : IsAbsolute (ofWebText cs) := by
  unfold ofWebText
  split
  · exact isAbsolute_ofBracketed _
  split
  · exact .error (by decide)
  · exact isAbsolute_ofAsciiName _

theorem isAbsolute_ofOpaqueText (cs : List Char) : IsAbsolute (ofOpaqueText cs) := by
  unfold ofOpaqueText
  split
  · exact isAbsolute_ofBracketed _
  split
  · exact .error (by decide)
  · exact .ok _

end Host

namespace Url

theorem isAbsolute_portOf (cs : List Char) : IsAbsolute (portOf cs) := by
  have hnumber (digits : List Char) : IsAbsolute (portOf.number digits) := by
    unfold portOf.number
    split
    · exact .ok _
    split
    · exact .ok _
    · exact .error (by decide)
  unfold portOf
  split
  · exact .ok _
  dsimp only
  split
  · split
    · exact hnumber _
    · exact .error (by decide)
  · exact hnumber _

theorem isAbsolute_webAuthority (cs : List Char) : IsAbsolute (webAuthority cs) := by
  unfold webAuthority
  dsimp only
  split
  · exact .error (by decide)
  · exact (Host.isAbsolute_ofWebText _).bind fun _ =>
      (isAbsolute_portOf _).bind fun _ => .ok _

theorem isAbsolute_opaqueAuthority (cs : List Char) : IsAbsolute (opaqueAuthority cs) := by
  unfold opaqueAuthority
  dsimp only
  split
  · exact .error (by decide)
  refine (Host.isAbsolute_ofOpaqueText _).bind fun _ => ?_
  split
  · split
    · exact .error (by decide)
    · exact .ok _
  · exact (isAbsolute_portOf _).bind fun _ => .ok _

theorem isAbsolute_fileHost (cs : List Char) : IsAbsolute (fileHost cs) := by
  unfold fileHost
  dsimp only
  split
  · split
    · split
      · exact .ok _
      · refine (Host.isAbsolute_ofWebText _).bind fun _ => ?_
        split <;> exact .ok _
    · exact .ok _
  · exact .ok _

theorem isAbsolute_ofScheme (scheme rest : List Char) : IsAbsolute (ofScheme scheme rest) := by
  unfold ofScheme
  dsimp only
  split
  · exact (isAbsolute_webAuthority _).bind fun _ => .ok _
  · exact (isAbsolute_fileHost _).bind fun _ => .ok _
  · split
    · exact (isAbsolute_opaqueAuthority _).bind fun _ => .ok _
    · exact .ok _

/-- A text is taken for relative exactly if it does not begin with a scheme and a colon. -/
theorem isAbsolute_parse_iff (text : String) :
    IsAbsolute (parse text) ↔ (splitScheme? (significant text.toList)).isSome := by
  unfold parse
  split
  · next h =>
    rw [h]
    exact iff_of_false (fun habsolute => habsolute rfl) (by simp)
  · next scheme rest h =>
    rw [h]
    exact iff_of_true (isAbsolute_ofScheme scheme rest) rfl

end Url

/-! ## Texts behind `http://` -/

namespace Endpoint

/-- Holds of two texts with the same endpoint, and of two that are refused for the same reason. -/
inductive ReadsAlike (url other : String) : Prop
  | endpoint {e : Endpoint} (h : ofUrl url = .ok e) (hother : ofUrl other = .ok e)
  | refusal {reason : String} (h : ofUrl url = .error (.malformedUrl url reason))
      (hother : ofUrl other = .error (.malformedUrl other reason))

/-- Holds of a text that begins with a scheme and `://`. In the schemes of the web and for files
the colon is enough. -/
def NamesScheme (url : String) : Prop :=
  ∃ scheme rest, Url.splitScheme? (Url.significant url.toList) = some (scheme, rest) ∧
    (Url.schemeKind scheme = .opaqueHost → "//".toList <+: rest)

theorem readsAlike_of_withScheme {url other : String} (h : withScheme url = withScheme other) :
    ReadsAlike url other := by
  cases hparsed : ofParsed (Url.parse (withScheme url)) with
  | ok e => exact .endpoint (by rw [ofUrl, hparsed]) (by rw [ofUrl, ← h, hparsed])
  | error reason => exact .refusal (ofUrl_of_error hparsed) (ofUrl_of_error (h ▸ hparsed))

theorem withScheme_http (url : String) : withScheme ("http://" ++ url) = "http://" ++ url := by
  have hoccurs : occursIn "://".toList ("http://" ++ url).toList = true := by
    rw [String.toList_append]
    exact occursIn_append "://".toList "http".toList url.toList
  rw [withScheme, if_pos hoccurs]

theorem exists_splitScheme?_http (url : String) :
    ∃ rest, Url.splitScheme? (Url.significant ("http://" ++ url).toList) =
      some ("http".toList, rest) := by
  have hscheme : Url.IsScheme "http".toList :=
    ⟨List.all_eq_true.mp (by decide), by decide⟩
  have hword : ∀ c ∈ "http://".toList, Url.isEdge c = false :=
    List.all_iff_forall_prop.mp (by decide)
  rw [String.toList_append, Url.significant_append (by decide) hword]
  exact ⟨_, Url.splitScheme?_append hscheme _⟩

theorem reason_behind_http {url reason : String}
    (h : ofParsed (Url.parse (withScheme ("http://" ++ url))) = .error reason) :
    reason ≠ UrlError.relativeWithoutBase.message ∧ reason ≠ "missing host" := by
  obtain ⟨rest, hscheme⟩ := exists_splitScheme?_http url
  rw [withScheme_http] at h
  cases hparse : Url.parse ("http://" ++ url) with
  | error e =>
    have habsolute := (Url.isAbsolute_parse_iff ("http://" ++ url)).mpr (by rw [hscheme]; rfl)
    rw [hparse] at h habsolute
    obtain rfl : e.message = reason := Except.error.inj h
    cases e with
    | relativeWithoutBase => exact absurd rfl habsolute
    | _ => decide
  | ok parsed =>
    have hparsed := hparse
    rw [Url.parse, hscheme] at hparsed
    have hkind : Url.schemeKind "http".toList = .web 80 := by decide
    obtain ⟨host, hhost⟩ := Option.isSome_iff_exists.mp (Url.isSome_host_of_web hkind hparsed)
    rw [hparse, ofParsed, hhost] at h
    cases h

/-- A text that is read as it is has no endpoint if it does not begin with a scheme. -/
theorem reason_of_not_namesScheme {url : String} (h : ¬ NamesScheme url)
    (hoccurs : occursIn "://".toList url.toList = true) :
    ∃ reason, ofUrl url = .error (.malformedUrl url reason) ∧
      (reason = UrlError.relativeWithoutBase.message ∨ reason = "missing host") := by
  have hself : withScheme url = url := if_pos hoccurs
  cases hscheme : Url.splitScheme? (Url.significant url.toList) with
  | none =>
    refine ⟨_, ofUrl_of_error ?_, .inl rfl⟩
    rw [hself, Url.parse, hscheme, ofParsed]
  | some found =>
    obtain ⟨scheme, rest⟩ := found
    obtain ⟨hkind, hslashes⟩ : Url.schemeKind scheme = .opaqueHost ∧ ¬ "//".toList <+: rest := by
      refine Classical.not_imp.mp fun himp => h ⟨scheme, rest, hscheme, himp⟩
    refine ⟨_, ofUrl_of_error ?_, .inr rfl⟩
    have hread : Url.ofScheme scheme rest = .ok ⟨.ofList scheme, none, none⟩ := by
      unfold Url.ofScheme
      rw [hkind]
      dsimp only
      split
      · next tail => exact absurd (List.prefix_append "//".toList tail) hslashes
      · rfl
    rw [hself, Url.parse, hscheme]
    dsimp only
    rw [hread, ofParsed]

/-- A text without `://` is read as it is behind `http://`. A text that does not begin with a
scheme is read so only if `://` does not occur in it at all. -/
theorem ofUrl_without_scheme (url : String) :
    (occursIn "://".toList url.toList = false → ReadsAlike url ("http://" ++ url)) ∧
    (¬ NamesScheme url →
      (ReadsAlike url ("http://" ++ url) ↔ occursIn "://".toList url.toList = false)) := by
  have halike (h : occursIn "://".toList url.toList = false) :
      ReadsAlike url ("http://" ++ url) := by
    refine readsAlike_of_withScheme ?_
    rw [withScheme_http, withScheme, h]
    rfl
  refine ⟨halike, fun hnames => ⟨fun hread => ?_, halike⟩⟩
  rw [Bool.eq_false_iff]
  intro hoccurs
  obtain ⟨reason, hrefused, hreason⟩ := reason_of_not_namesScheme hnames hoccurs
  cases hread with
  | endpoint h hother =>
    rw [hrefused] at h
    cases h
  | refusal h hother =>
    rw [hrefused] at h
    obtain rfl : reason = _ := (Failure.malformedUrl.inj (Except.error.inj h)).2
    cases hparsed : ofParsed (Url.parse (withScheme ("http://" ++ url))) with
    | ok e =>
      rw [ofUrl, hparsed] at hother
      cases hother
    | error other =>
      rw [ofUrl, hparsed] at hother
      obtain rfl : other = reason := (Failure.malformedUrl.inj (Except.error.inj hother)).2
      obtain ⟨hrelative, hmissing⟩ := reason_behind_http hparsed
      rcases hreason with rfl | rfl
      · exact hrelative rfl
      · exact hmissing rfl

/-- A URL in the query of a text without a scheme. -/
theorem endpoint_lost_to_query :
    let url := "localhost:9200/?next=http://x"
    ¬ NamesScheme url ∧
    ofUrl url = .error (.malformedUrl url "missing host") ∧
    ofUrl ("http://" ++ url) = .ok ⟨"localhost", 9200⟩ := by
  refine ⟨?_, rfl, rfl⟩
  rintro ⟨scheme, rest, hscheme, hslashes⟩
  obtain ⟨rfl, rfl⟩ := Prod.mk.inj (Option.some_inj.mp hscheme)
  exact absurd (hslashes (by decide)) (by decide)

end Endpoint

end Reachability
