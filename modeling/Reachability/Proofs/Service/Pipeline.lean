import Reachability.Proofs.Service.Bodies
import Reachability.Proofs.Service.Targets

/-!
# Requests in a row

A written request brings the request itself and leaves its connection as if nothing had come in
on it. So requests that are written one behind the other come in one after the other, whatever
their texts are and however these are cut into reads.
-/
namespace Reachability.Service

open Message

variable {r : Request} {text : List UInt8}

theorem head?_written {target : List Char} {first : List UInt8} {lines : List (List UInt8)}
    {fields : List HeaderField} {framing : Framing}
    (hfirst : requestLine? first = some (r.method, target, true))
    (hpath : pathOf target = r.path.toList) (hlines : lines.mapM headerField? = some fields)
    (hframing : framing? fields = some framing)
    (hopen : "close".toList ∉ optionsOf "connection" fields) :
    head? (first :: lines) = some ⟨r.method, r.path, framing, false⟩ := by
  have hclose : (optionsOf "connection" fields).contains "close".toList = false := by
    rw [← Bool.not_eq_true, List.contains_iff_mem]
    exact hopen
  simp only [head?, hfirst, hlines, Option.bind_eq_bind, Option.bind_some, hframing, hpath, hclose,
    String.ofList_toList, if_true, Option.pure_def]

namespace Phase

theorem feed_request (h : WrittenRequest r text) : start.feed text = (start, [.request r]) := by
  obtain @⟨target, before, announced, after, bytes, ⟨hmethod, -⟩, htarget, hbefore, hbody,
    hafter⟩ := h
  obtain ⟨hne, hvisible, hpath⟩ := htarget.read
  obtain ⟨beforeLines, beforeFields, hreadBefore, hneutralBefore⟩ := hbefore.readsFields
  obtain ⟨afterLines, afterFields, hreadAfter, hneutralAfter⟩ := hafter.readsFields
  obtain ⟨bodyLines, bodyFields, framing, hreadBody, hframing, hframed, hoptions⟩ :=
    hbody.readsFields
  have hread := (hreadBefore.append hreadBody).append hreadAfter
  have hfirst := requestLine?_written hmethod hne hvisible
  rw [String.ofList_toList] at hfirst
  have hopen : "close".toList ∉
      optionsOf "connection" (beforeFields ++ bodyFields ++ afterFields) := by
    simp only [optionsOf_append, hoptions, List.append_nil, List.mem_append, not_or]
    exact ⟨hneutralBefore.isOpen, hneutralAfter.isOpen⟩
  have hhead := head?_written hfirst hpath hread.read
    ((framing?_of_isNeutral hneutralBefore hneutralAfter).trans hframing) hopen
  have hline : 0x0A ∉ ascii (r.method.toList ++ ' ' :: (target ++ " HTTP/1.1".toList)) :=
    (not_mem_ascii (isInline_requestLine hmethod hvisible)).1
  have hinline := List.forall_mem_cons.mpr ⟨⟨by simp [ascii], hline⟩, hread.inline⟩
  have hfeed := feed_head hinline (List.cons_ne_nil _ _) hhead
  rw [List.flatMap_cons, ← hread.eq] at hfeed
  have hrequest := feed_framed hfeed hframed
  simp only [List.append_assoc] at hrequest ⊢
  exact hrequest

/-- What is written in a row comes in one after the other. -/
theorem feed_requests {rs : List Request} {texts : List (List UInt8)}
    (h : List.Forall₂ WrittenRequest rs texts) :
    start.feed texts.flatten = (start, rs.map .request) := by
  induction h with
  | nil => rfl
  | cons hfirst _ ih =>
    rw [List.flatten_cons, feed_append_of_eq (feed_request hfirst), ih]
    rfl

end Phase

theorem handleAll_requests (defaultTimeout : Duration) (rs : List Request) :
    handleAll defaultTimeout (rs.map .request) =
      List.map Reply.ofResponse <$> respondAll defaultTimeout rs := by
  induction rs with
  | nil => rfl
  | cons r rs ih =>
    simp [handleAll, respondAll, handle, ih]

end Reachability.Service
