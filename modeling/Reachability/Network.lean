import Reachability.Address
import Reachability.Duration
import Reachability.IoError

/-!
# Programs that use the network

A program is a tree of questions to the outside: it looks up a name, connects, binds,
sends or reads a clock, and goes on with the answer. What the network does is left
open, so that a statement about a program can speak of every behaviour of it. `run`
gives a program the answers of one network; `interpret` lets any monad answer.
-/
namespace Reachability

/-- What a program asks of the outside. -/
inductive Action
  /-- Nanoseconds on a clock that never goes back. -/
  | instant
  /-- Seconds since 1970. -/
  | epochSeconds
  /-- The addresses of a host name. -/
  | lookup (host : String)
  /-- A TCP connection, closed as soon as it stands, given up after the limit. -/
  | connect (target : SocketAddress) (limit : Duration)
  /-- A datagram socket of its own. -/
  | bind (source : SocketAddress)
  /-- One datagram from the socket bound last. -/
  | send (target : SocketAddress) (payload : List UInt8)
deriving DecidableEq

/-- How an attempt to connect ends. -/
inductive Connection
  | established
  | failed (error : IoError)
  | timedOut
deriving DecidableEq, Inhabited

namespace Action

/-- What the outside answers. A lookup fails with a text; a send tells how many bytes went
out. -/
abbrev Answer : Action → Type
  | .instant => Nat
  | .epochSeconds => Nat
  | .lookup _ => Except String (List IpAddress)
  | .connect .. => Connection
  | .bind _ => Except IoError Unit
  | .send .. => Except IoError Nat

/-- Whether it can be seen on the network: all but the clocks and the binding of a socket. -/
def isTraffic : Action → Bool
  | .lookup _ | .connect .. | .send .. => true
  | .instant | .epochSeconds | .bind _ => false

end Action

/-- A computation that asks questions before it ends with a value. -/
inductive Program (α : Type)
  | done (value : α)
  | ask (action : Action) (next : action.Answer → Program α)

namespace Program

/-- Asks one question and ends with the answer. -/
def perform (action : Action) : Program action.Answer := .ask action .done

/-- Runs a second program on the value of the first. -/
def andThen : Program α → (α → Program β) → Program β
  | .done a, f => f a
  | .ask action next, f => .ask action fun answer => (next answer).andThen f

instance : Monad Program where
  pure := .done
  bind := andThen

@[simp] theorem andThen_done (p : Program α) : p.andThen .done = p := by
  induction p with
  | done a => rfl
  | ask action next ih => simp [andThen, ih]

theorem andThen_assoc (p : Program α) (f : α → Program β) (g : β → Program γ) :
    (p.andThen f).andThen g = p.andThen fun a => (f a).andThen g := by
  induction p with
  | done a => rfl
  | ask action next ih => simp [andThen, ih]

instance : LawfulMonad Program :=
  LawfulMonad.mk' Program (fun p => andThen_done p) (fun _ _ => rfl) andThen_assoc

/-- Lets a monad answer the questions. -/
def interpret [Monad m] (answer : (action : Action) → m action.Answer) : Program α → m α
  | .done a => pure a
  | .ask action next => do
    let reply ← answer action
    interpret answer (next reply)

end Program

/-- A network with its clocks: the answer to each question and the state after it. -/
structure Network (σ : Type) where
  answer : σ → (action : Action) → action.Answer × σ

namespace Program

/-- Value, state of the network and questions in order, when a network answers. -/
def trace (net : Network σ) : Program α → σ → α × σ × List Action
  | .done a, s => (a, s, [])
  | .ask action next, s =>
    let (reply, s) := net.answer s action
    let (a, s, actions) := (next reply).trace net s
    (a, s, action :: actions)

/-- The value when a network answers. -/
def run (net : Network σ) (p : Program α) (s : σ) : α := (p.trace net s).1

@[simp] theorem trace_done (net : Network σ) (a : α) (s : σ) :
    (done a).trace net s = (a, s, []) := rfl

@[simp] theorem trace_ask (net : Network σ) (action : Action)
    (next : action.Answer → Program α) (s : σ) :
    (ask action next).trace net s =
      let r := net.answer s action
      let t := (next r.1).trace net r.2
      (t.1, t.2.1, action :: t.2.2) := rfl

@[simp] theorem trace_pure (net : Network σ) (a : α) (s : σ) :
    (pure a : Program α).trace net s = (a, s, []) := rfl

/-- A program in two parts asks the questions of the first part, then those of the second. -/
theorem trace_bind (net : Network σ) (p : Program α) (f : α → Program β) (s : σ) :
    (p >>= f).trace net s =
      let r := p.trace net s
      let t := (f r.1).trace net r.2.1
      (t.1, t.2.1, r.2.2 ++ t.2.2) := by
  induction p generalizing s with
  | done a => rfl
  | ask action next ih =>
    change (ask action fun answer => (next answer).andThen f).trace net s = _
    simp only [trace_ask]
    have := ih (net.answer s action).1 (net.answer s action).2
    change ((next _).andThen f).trace net _ = _ at this
    simp [this]

@[simp] theorem trace_map (net : Network σ) (f : α → β) (p : Program α) (s : σ) :
    (f <$> p).trace net s =
      let r := p.trace net s
      (f r.1, r.2.1, r.2.2) := by
  rw [← bind_pure_comp, trace_bind]
  simp

end Program

end Reachability
