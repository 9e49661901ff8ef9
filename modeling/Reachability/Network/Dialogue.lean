import Reachability.Network

/-!
# Dialogues

What passes between a program and a network: each question together with its answer.
The answers tell which datagrams went out, which the questions alone do not.
-/
namespace Reachability

/-- Some answer to a question, for want of a real one. -/
instance : (action : Action) → Inhabited action.Answer
  | .instant | .epochSeconds => inferInstanceAs (Inhabited Nat)
  | .lookup _ => inferInstanceAs (Inhabited (Except String (List IpAddress)))
  | .connect .. => inferInstanceAs (Inhabited Connection)
  | .bind _ => inferInstanceAs (Inhabited (Except IoError Unit))
  | .send .. => inferInstanceAs (Inhabited (Except IoError Nat))

/-- A question and its answer. -/
structure Exchange where
  action : Action
  answer : action.Answer

namespace Exchange

/-- The datagram that went out, if one did: a send that tells of no bytes sent none. -/
def datagram? : Exchange → Option (SocketAddress × List UInt8)
  | ⟨.send target payload, .ok sent⟩ => if sent = 0 then none else some (target, payload)
  | _ => none

/-- Its answer to a question, if it is about this question. -/
def answerTo (x : Exchange) (action : Action) : action.Answer :=
  if h : x.action = action then h ▸ x.answer else default

@[simp] theorem answerTo_action (action : Action) (answer : action.Answer) :
    answerTo ⟨action, answer⟩ action = answer := by
  simp [answerTo]

end Exchange

/-- The network that gives the answers of a dialogue once more, in order. -/
def Network.recorded : Network (List Exchange) where
  answer
    | [], _ => (default, [])
    | x :: more, action => (x.answerTo action, more)

@[simp] theorem Network.answer_recorded (x : Exchange) (more : List Exchange) (action : Action) :
    Network.recorded.answer (x :: more) action = (x.answerTo action, more) := rfl

namespace Program

/-- The questions of a program and the answers of a network, in order. -/
def dialogue (net : Network σ) : Program α → σ → List Exchange
  | .done _, _ => []
  | .ask action next, s =>
    let (reply, s) := net.answer s action
    ⟨action, reply⟩ :: (next reply).dialogue net s

/-- The datagrams that go out while a program runs. -/
def datagrams (net : Network σ) (p : Program α) (s : σ) : List (SocketAddress × List UInt8) :=
  (p.dialogue net s).filterMap Exchange.datagram?

/-- The dialogue of a program in two parts goes on where that of the first part ends. -/
theorem dialogue_bind (net : Network σ) (p : Program α) (f : α → Program β) (s : σ) :
    (p >>= f).dialogue net s =
      p.dialogue net s ++ (f (p.trace net s).1).dialogue net (p.trace net s).2.1 := by
  induction p generalizing s with
  | done a => rfl
  | ask action next ih =>
    have tail := ih (net.answer s action).1 (net.answer s action).2
    change ((next _).andThen f).dialogue net _ = _ at tail
    change (ask action fun answer => (next answer).andThen f).dialogue net s = _
    simp [dialogue, tail]

end Program

end Reachability
