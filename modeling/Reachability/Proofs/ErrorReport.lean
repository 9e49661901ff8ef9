import Reachability.ErrorReport
import Reachability.Proofs.Text.Separator

/-!
# The chain behind a report

The messages of a chain of errors can be read off its report, as long as none of them has a
separator in it. They may be empty, or end and begin with line breaks or other parts of a
separator: as a separator begins with line breaks and does not end with one, none arises
where a message meets the separators around it.
-/
namespace Reachability.ErrorReport

variable {message : String} {causes : List String}

theorem unbordered_separator : Text.Unbordered separator.toList := by decide

theorem separator_ne_empty : separator ≠ "" := by decide

theorem cutAt_text (h : ∀ m ∈ message :: causes, ¬ m.contains separator) :
    Text.CutAt separator (text message causes) (message :: causes) := by
  induction causes generalizing message with
  | nil => exact .last (h message List.mem_cons_self)
  | cons cause causes ih =>
    obtain ⟨hmessage, hcauses⟩ := List.forall_mem_cons.mp h
    rw [text]
    exact .more hmessage (ih hcauses)

/-- A report that is split at the separators falls into the messages of its chain, each in its
place, exactly if no message has a separator in it. -/
theorem messages_between_separators (message : String) (causes : List String) :
    Text.piecesAt separator (text message causes) = message :: causes ↔
      ∀ m ∈ message :: causes, ¬ m.contains separator := by
  rw [Text.piecesAt_eq_iff unbordered_separator separator_ne_empty]
  constructor
  · intro hcut
    exact hcut.not_contains
  · intro h
    exact cutAt_text h

end Reachability.ErrorReport
