/-!
# Error reports

An error may name the error that caused it, and that one its own cause. A report
gives the messages of the whole chain, outermost first.
-/
namespace Reachability.ErrorReport

/-- What stands between a message and that of its cause. -/
def separator : String := "\n\nCaused by: "

/-- The report on an error with its message and the messages of its causes in turn. -/
def text (message : String) : (causes : List String) → String
  | [] => message
  | cause :: causes => message ++ separator ++ text cause causes

end Reachability.ErrorReport
