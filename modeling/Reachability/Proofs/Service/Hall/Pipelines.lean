import Mathlib.Data.Nat.Pairing
import Reachability.Proofs.Service.Hall.Outlook
import Reachability.Proofs.Service.Hall.Progress
import Reachability.Proofs.Service.Pipeline

/-!
# Answers to requests in a row

Requests that are written one behind the other on a connection are answered one by one, as if
they were alone with a network that gives the same answers. Neither their framing nor the reads
in which they come in nor what the other connections do make any difference.
-/
namespace Reachability.Service

variable {σ : Type} {rs : List Request} {texts reads : List (List UInt8)}

theorem length_respondAll (t : Duration) (rs : List Request) (net : Network σ) (s : σ) :
    ((respondAll t rs).run net s).length = rs.length := by
  induction rs generalizing s with
  | nil => rfl
  | cons r rs ih => simp [respondAll, Program.run_bind, Program.run_map, ih]

theorem exists_feed_append (hwritten : List.Forall₂ WrittenRequest rs texts)
    (hreads : reads.flatten <+: texts.flatten) :
    ∃ later, (Phase.start.feed reads.flatten).2 ++ later = rs.map .request := by
  obtain ⟨rest, hrest⟩ := hreads
  have hfeed := Phase.feed_requests hwritten
  rw [← hrest, Phase.feed_append] at hfeed
  exact ⟨_, congrArg Prod.snd hfeed⟩

theorem incoming_requests (hwritten : List.Forall₂ WrittenRequest rs texts)
    (hreads : reads.flatten = texts.flatten) : incoming reads = rs.map .request := by
  rw [incoming, hreads, Phase.feed_requests hwritten]
  exact List.append_nil _

namespace Hall

theorem sound_run {h : Hall σ} (hsound : h.Sound) (net : Network σ) (t : Duration)
    (moves : List HallMove) : (h.run net t moves).Sound := by
  induction moves generalizing h with
  | nil => exact hsound
  | cons m moves ih => exact ih (hsound.move net t m)

section

variable (net : Network σ) (t : Duration) (start : σ) {c : Nat} {moves : List HallMove}
variable (hwritten : List.Forall₂ WrittenRequest rs texts)
variable (hopen : ∀ m ∈ moves, m ≠ .drop c ∧ m ≠ .finish c)
include hwritten hopen

/-- A connection on which requests come in has asked some of their questions, and goes on with
what they have still to do. -/
theorem exists_follows_requests (hreads : (readsOf c moves).flatten <+: texts.flatten) :
    let hall := (opened start).run net t moves
    ∃ later, (Phase.start.feed (readsOf c moves).flatten).2 ++ later = rs.map .request ∧
      (List.map Reply.ofResponse <$> respondAll t rs).Follows (hall.heardBy c)
        ((hall.sessions c).outlook t hall.floor later) := by
  obtain ⟨later, hlater⟩ := exists_feed_append hwritten hreads
  obtain ⟨-, xs, hheard, hfollows⟩ :=
    exists_follows_run (c := c) (sound_opened start) net t hopen later
  have hfirst : ((opened start).sessions c).outlook t (opened start).floor (rs.map .request) =
      List.map Reply.ofResponse <$> respondAll t rs := by
    rw [← handleAll_requests]
    exact id_map (handleAll t _)
  refine ⟨later, hlater, ?_⟩
  rw [hheard, ← hfirst, ← hlater]
  exact hfollows

theorem replies_isPrefix (hreads : (readsOf c moves).flatten <+: texts.flatten) {τ : Type}
    (other : Network τ) (s : τ) :
    let hall := (opened start).run net t moves
    hall.heardBy c <+: (respondAll t rs).dialogue other s →
      (hall.sessions c).replies <+: ((respondAll t rs).run other s).map .ofResponse := by
  intro hall hother
  obtain ⟨later, -, hfollows⟩ := exists_follows_requests net t start hwritten hopen hreads
  rw [← Program.dialogue_map (List.map Reply.ofResponse)] at hother
  obtain ⟨n, -, hrun⟩ := hfollows.run_eq hother
  rw [Program.run_map] at hrun
  rw [hrun]
  exact Session.replies_isPrefix _ t _ later other n

theorem replies_eq (hreads : (readsOf c moves).flatten = texts.flatten) {τ : Type}
    (other : Network τ) (s : τ) :
    let hall := (opened start).run net t moves
    (hall.sessions c).IsAtRest → hall.heardBy c <+: (respondAll t rs).dialogue other s →
      (respondAll t rs).dialogue other s = hall.heardBy c ∧
      (hall.sessions c).replies = ((respondAll t rs).run other s).map .ofResponse := by
  intro hall hrest hother
  obtain ⟨later, hlater, hfollows⟩ :=
    exists_follows_requests net t start hwritten hopen (hreads ▸ List.prefix_refl _)
  obtain rfl : later = [] := by
    rw [hreads, Phase.feed_requests hwritten] at hlater
    exact List.append_right_eq_self.mp hlater
  rw [Session.outlook_of_isAtRest hrest] at hfollows
  rw [← Program.dialogue_map (List.map Reply.ofResponse)] at hother ⊢
  obtain ⟨n, hdialogue, hrun⟩ := hfollows.run_eq hother
  rw [Program.run_map] at hrun
  exact ⟨hdialogue.trans (List.append_nil _), hrun.symm⟩

theorem heardBy_isPrefix_recorded (hreads : (readsOf c moves).flatten <+: texts.flatten) :
    let hall := (opened start).run net t moves
    hall.heardBy c <+: (respondAll t rs).dialogue .recorded (hall.heardBy c) := by
  intro hall
  obtain ⟨later, -, hfollows⟩ := exists_follows_requests net t start hwritten hopen hreads
  have hdialogue := hfollows.dialogue_recorded []
  rw [Program.dialogue_map, List.append_nil] at hdialogue
  rw [hdialogue]
  exact List.prefix_append _ _

end

/-- Requests that are written one behind the other on a connection which nobody ends, whatever
their texts are, however their bytes are cut into reads and whatever the other connections do.

In every state the answers on the connection are the first of those that the requests, one after
the other, get from any network that answers their questions as they have been answered; the
answers recorded are such a network. Once all bytes have come in, the requests are what the
connection has brought, and every fair schedule leads to a state in which all of them are
answered. There is one answer for each then, and it is the same in every other hall in which the
connection gets the same answers from the network. -/
theorem one_answer_for_each_request (net : Network σ) (t : Duration) (start : σ) {c : Nat}
    {moves : List HallMove} (hwritten : List.Forall₂ WrittenRequest rs texts)
    (hopen : ∀ m ∈ moves, m ≠ .drop c ∧ m ≠ .finish c)
    (hreads : (readsOf c moves).flatten <+: texts.flatten) :
    let hall := (opened start).run net t moves
    let heard := hall.heardBy c
    let replies := (hall.sessions c).replies
    (heard <+: (respondAll t rs).dialogue .recorded heard ∧
      ∀ {τ : Type} (other : Network τ) (s : τ), heard <+: (respondAll t rs).dialogue other s →
        replies <+: ((respondAll t rs).run other s).map .ofResponse) ∧
    ((readsOf c moves).flatten = texts.flatten →
      incoming (readsOf c moves) = rs.map .request ∧
      handleAll t (incoming (readsOf c moves)) = List.map .ofResponse <$> respondAll t rs ∧
      (∀ schedule, IsFair schedule → (∀ n, (schedule n).Spares c) →
        ∃ n, (((opened start).run net t (moves ++ firstMoves schedule n)).sessions c).IsAtRest) ∧
      ((hall.sessions c).IsAtRest →
        replies.length = rs.length ∧
        (∀ {τ : Type} (other : Network τ) (s : τ), heard <+: (respondAll t rs).dialogue other s →
          (respondAll t rs).dialogue other s = heard ∧
          replies = ((respondAll t rs).run other s).map .ofResponse) ∧
        ∀ {τ : Type} (net' : Network τ) (start' : τ) (moves' : List HallMove),
          let hall' := (opened start').run net' t moves'
          (∀ m ∈ moves', m ≠ .drop c ∧ m ≠ .finish c) →
          (readsOf c moves').flatten = texts.flatten → (hall'.sessions c).IsAtRest →
          hall'.heardBy c = heard → (hall'.sessions c).replies = replies)) := by
  intro hall heard replies
  have hrecorded := heardBy_isPrefix_recorded net t start hwritten hopen hreads
  refine ⟨⟨hrecorded, replies_isPrefix net t start hwritten hopen hreads⟩, fun hfull => ?_⟩
  have hincoming := incoming_requests hwritten hfull
  have hequal {τ : Type} (other : Network τ) (s : τ) (hrest : (hall.sessions c).IsAtRest) :=
    replies_eq net t start hwritten hopen hfull other s hrest
  refine ⟨hincoming, ?_, fun schedule hfair hspares => ?_, fun hrest => ⟨?_, ?_, ?_⟩⟩
  · rw [hincoming, handleAll_requests]
  · obtain ⟨n, hn⟩ := inevitable_isAtRest (sound_run (sound_opened start) net t moves) net t c
      schedule hfair hspares
    exact ⟨n, by rwa [run_append]⟩
  · obtain ⟨-, hreplies⟩ := hequal .recorded heard hrest hrecorded
    have hlength := congrArg List.length hreplies
    rwa [List.length_map, length_respondAll] at hlength
  · exact fun other s => hequal other s hrest
  · intro τ net' start' moves' hall' hopen' hreads' hrest' hheard
    have hrecorded' : hall'.heardBy c <+: (respondAll t rs).dialogue .recorded heard := by
      rwa [hheard]
    obtain ⟨-, hreplies⟩ := hequal .recorded heard hrest hrecorded
    obtain ⟨-, hreplies'⟩ :=
      replies_eq net' t start' hwritten hopen' hreads' .recorded heard hrest' hrecorded'
    exact hreplies'.trans hreplies.symm

/-- A schedule that gives each connection its turn again and again. -/
def turns (n : Nat) : HallMove := .proceed n.unpair.1

theorem isFair_turns : IsFair turns := fun c n =>
  ⟨Nat.pair c n, Nat.right_le_pair c n, by rw [turns, Nat.unpair_pair]⟩

/-- A report with a query and a test with its body in chunks, cut in the middle of both. Another
connection asks for the same test and is dropped. -/
theorem one_answer_for_each_of_two :
    let report : Request := ⟨"GET", Route.report.path, []⟩
    let test : Request := ⟨"POST", (Route.probe .tcp).path, ascii "\x7b\x7d".toList⟩
    let first := ascii "GET /api/v1/connectivity/diagnostics/report?all HTTP/1.1\r\n\r\n".toList
    let second := ascii ("POST /api/v1/connectivity/test/tcp HTTP/1.1\r\n" ++
      "Transfer-Encoding: chunked\r\n\r\n1\r\n\x7b\r\n1\r\n\x7d\r\n0\r\n\r\n").toList
    let moves : List HallMove := [.receive 0 (first.take 7), .receive 1 second,
      .receive 0 (first.drop 7 ++ second.take 90), .proceed 0, .proceed 1, .proceed 0, .proceed 0,
      .drop 1, .receive 0 (second.drop 90), .proceed 0, .proceed 0, .proceed 0]
    let hall := (opened [⟨.epochSeconds, (1700000000 : Nat)⟩]).run .recorded (.ofSeconds 5) moves
    List.Forall₂ WrittenRequest [report, test] [first, second] ∧
    (hall.sessions 0).IsAtRest ∧ (hall.sessions 0).replies.length = 2 ∧
    (hall.sessions 0).replies =
      ((respondAll (.ofSeconds 5) [report, test]).run .recorded (hall.heardBy 0)).map .ofResponse ∧
    IsFair turns ∧
    ∃ n, (((opened [⟨.epochSeconds, (1700000000 : Nat)⟩]).run .recorded (.ofSeconds 5)
      (moves ++ firstMoves turns n)).sessions 0).IsAtRest := by
  intro report test first second moves hall
  have hfirst : WrittenRequest report first := by
    have htext : first = ascii ("GET".toList ++ ' ' ::
        (('/' :: "api/v1/connectivity/diagnostics/report".toList ++ "?all".toList) ++
          " HTTP/1.1".toList)) ++ lineEnd ++ [] ++ [] ++ [] ++ lineEnd ++ [] := by decide +kernel
    have hpath : report.path.toList = '/' :: "api/v1/connectivity/diagnostics/report".toList := by
      decide +kernel
    have hquery : IsQuery "?all".toList :=
      .inr ⟨"all".toList, by decide, forall_mem_of_all (by decide)⟩
    rw [htext]
    exact .mk (by decide) (hpath ▸ .relative (forall_mem_of_all (by decide)) hquery) .nil .none .nil
  have hsecond : WrittenRequest test second := by
    have htext : second = ascii ("POST".toList ++ ' ' ::
        (('/' :: "api/v1/connectivity/test/tcp".toList ++ []) ++ " HTTP/1.1".toList)) ++ lineEnd ++
        [] ++ (ascii ("Transfer-Encoding".toList ++ ':' :: ([' '] ++ "chunked".toList ++ [])) ++
        lineEnd) ++ [] ++ lineEnd ++ (ascii ['1'] ++ [] ++ lineEnd ++ ascii ['\x7b'] ++ lineEnd ++
        (ascii ['1'] ++ [] ++ lineEnd ++ ascii ['\x7d'] ++ lineEnd ++
        (ascii ['0'] ++ [] ++ lineEnd ++ [] ++ lineEnd))) := by decide +kernel
    have hpath : test.path.toList = '/' :: "api/v1/connectivity/test/tcp".toList := by
      decide +kernel
    have hchunks : WrittenChunks (ascii ['\x7b'] ++ (ascii ['\x7d'] ++ []))
        (ascii ['1'] ++ [] ++ lineEnd ++ ascii ['\x7b'] ++ lineEnd ++
          (ascii ['1'] ++ [] ++ lineEnd ++ ascii ['\x7d'] ++ lineEnd ++
            (ascii ['0'] ++ [] ++ lineEnd ++ [] ++ lineEnd))) :=
      .cons (by decide) (by decide) .nil
        (.cons (by decide) (by decide) .nil (.last (by decide) .nil .nil))
    rw [htext]
    exact .mk (by decide) (hpath ▸ .relative (forall_mem_of_all (by decide)) (.inl rfl)) .nil
      (.chunked (by decide) (.mk (by decide) rfl rfl) hchunks) .nil
  have hwritten : List.Forall₂ WrittenRequest [report, test] [first, second] :=
    .cons hfirst (.cons hsecond .nil)
  have hopen : ∀ m ∈ moves, m ≠ .drop 0 ∧ m ≠ .finish 0 := by simp [moves]
  have hreads : (readsOf 0 moves).flatten = [first, second].flatten := by decide +kernel
  have hprefix : (readsOf 0 moves).flatten <+: [first, second].flatten :=
    ⟨[], by rw [List.append_nil, hreads]⟩
  have hrest : (hall.sessions 0).IsAtRest := by decide +kernel
  clear_value moves
  have hanswered := one_answer_for_each_request .recorded (.ofSeconds 5)
    [⟨.epochSeconds, (1700000000 : Nat)⟩] hwritten hopen hprefix
  have hdone := hanswered.2 hreads
  have hanswers := hdone.2.2.2 hrest
  exact ⟨hwritten, hrest, hanswers.1, (hanswers.2.1 .recorded _ hanswered.1.1).2, isFair_turns,
    hdone.2.2.1 turns isFair_turns fun n h => congrArg HallMove.proceed h⟩

end Hall

end Reachability.Service
