import Reachability.Service.Message

/-!
# Connections

The requests on a connection come one after the other, and each is answered before the
next. A connection takes its bytes one at a time, so it makes no difference how they are
cut into reads. A body that ends too early or has a malformed chunk is answered as
unreadable and never looked at; a head that cannot be read is refused. Both end the
connection, and so does a request that says it is the last one.
-/
namespace Reachability.Service

/-- What a connection brings. -/
inductive Incoming
  | request (r : Request)
  /-- A request whose body did not arrive. -/
  | unreadable (head : Head)
  /-- Something that is no request. -/
  | malformed
deriving DecidableEq, Inhabited

/-- Where in a request a connection stands. Bytes and lines are in reverse. -/
inductive Phase
  | head (lines : List (List UInt8)) (line : List UInt8)
  /-- In a body of which so many bytes are missing. -/
  | body (head : Head) (missing : Nat) (bytes : List UInt8)
  | chunkSize (head : Head) (bytes line : List UInt8)
  /-- In a chunk of which so many bytes are missing. -/
  | chunk (head : Head) (missing : Nat) (bytes : List UInt8)
  /-- Behind a chunk, before the end of its line. -/
  | chunkEnd (head : Head) (bytes line : List UInt8)
  /-- Behind the last chunk, before an empty line. -/
  | trailer (head : Head) (bytes line : List UInt8)
  | closed
deriving DecidableEq, Inhabited

namespace Phase

/-- The start of a connection. -/
def start : Phase := .head [] []

/-- A line without the carriage return at its end, from its bytes in reverse. -/
def lineOf (reversed : List UInt8) : List UInt8 :=
  match reversed with
  | 0x0D :: bs => bs.reverse
  | bs => bs.reverse

/-- A line that ends with a carriage return and has no other, from its bytes in reverse. -/
def wholeLine? (reversed : List UInt8) : Option (List UInt8) :=
  match reversed with
  | 0x0D :: bs => if bs.contains 0x0D then none else some bs.reverse
  | _ => none

/-- What follows a request. -/
def afterRequest (h : Head) : Phase := if h.isLast then .closed else start

/-- The end of a request with its body in reverse. -/
def complete (h : Head) (reversed : List UInt8) : Phase × List Incoming :=
  (afterRequest h, [.request { method := h.method, path := h.path, body := reversed.reverse }])

/-- The end of a head. -/
def begin (h : Head) : Phase × List Incoming :=
  match h.framing with
  | .length 0 => complete h []
  | .length (n + 1) => (.body h (n + 1) [], [])
  | .chunked => (.chunkSize h [] [], [])

/-- The end of a line in a head. Empty lines before a head do not matter. -/
def headLine (lines : List (List UInt8)) (line : List UInt8) : Phase × List Incoming :=
  if !line.isEmpty then (.head (line :: lines) [], [])
  else if lines.isEmpty then (start, [])
  else
    match Message.head? lines.reverse with
    | some h => begin h
    | none => (.closed, [.malformed])

/-- The end of a line with the size of a chunk. -/
def sizeLine (h : Head) (bytes line : List UInt8) : Phase × List Incoming :=
  match (wholeLine? line).bind Message.chunkSize? with
  | none => (.closed, [.unreadable h])
  | some 0 => (.trailer h bytes [], [])
  | some (n + 1) => (.chunk h (n + 1) bytes, [])

/-- The end of a line behind the last chunk. An empty one ends the body, and any other has to be
a field, which does not matter. -/
def trailerLine (h : Head) (bytes line : List UInt8) : Phase × List Incoming :=
  match wholeLine? line with
  | none => (.closed, [.unreadable h])
  | some [] => complete h bytes
  | some field =>
    if (Message.headerField? field).isSome then (.trailer h bytes [], [])
    else (.closed, [.unreadable h])

/-- Takes one byte. -/
def step : Phase → UInt8 → Phase × List Incoming
  | .head lines line, b =>
    if b == 0x0A then headLine lines (lineOf line) else (.head lines (b :: line), [])
  | .body h missing bytes, b =>
    if missing ≤ 1 then complete h (b :: bytes) else (.body h (missing - 1) (b :: bytes), [])
  | .chunkSize h bytes line, b =>
    if b == 0x0A then sizeLine h bytes line else (.chunkSize h bytes (b :: line), [])
  | .chunk h missing bytes, b =>
    if missing ≤ 1 then (.chunkEnd h (b :: bytes) [], [])
    else (.chunk h (missing - 1) (b :: bytes), [])
  | .chunkEnd h bytes line, b =>
    if b == 0x0D && line.isEmpty then (.chunkEnd h bytes [b], [])
    else if b == 0x0A && line == [0x0D] then (.chunkSize h bytes [], [])
    else (.closed, [.unreadable h])
  | .trailer h bytes line, b =>
    if b == 0x0A then trailerLine h bytes line else (.trailer h bytes (b :: line), [])
  | .closed, _ => (.closed, [])

/-- Takes some bytes, one after the other. -/
def feed (p : Phase) : List UInt8 → Phase × List Incoming
  | [] => (p, [])
  | b :: bs =>
    let (p, now) := p.step b
    let (p, later) := p.feed bs
    (p, now ++ later)

/-- What is left when the other side has ended the connection. -/
def finish : Phase → List Incoming
  | .body h .. | .chunkSize h .. | .chunk h .. | .chunkEnd h .. | .trailer h .. =>
    [.unreadable h]
  | .head .. | .closed => []

theorem feed_append (p : Phase) (as bs : List UInt8) :
    p.feed (as ++ bs) =
      (((p.feed as).1.feed bs).1, (p.feed as).2 ++ ((p.feed as).1.feed bs).2) := by
  induction as generalizing p with
  | nil => simp [feed]
  | cons a as ih => simp [feed, ih]

end Phase

/-- What arrives on a connection in a number of reads before the other side ends it. -/
def incoming (reads : List (List UInt8)) : List Incoming :=
  let (p, arrived) := Phase.start.feed reads.flatten
  arrived ++ p.finish

/-- What an answer looks like on the wire. -/
structure Reply where
  status : Nat
  contentType : Option String := none
  body : String := ""
deriving DecidableEq, Inhabited

namespace Reply

def ofResponse (r : Response) : Reply := ⟨r.status, r.contentType, r.body.compact⟩

/-- The answer to something that is no request. -/
def malformed : Reply := { status := 400 }

/-- The phrase that goes with a status. -/
def phrase (status : Nat) : String :=
  if status = 200 then "OK"
  else if status = 404 then "Not Found"
  else if status = 405 then "Method Not Allowed"
  else "Bad Request"

/-- The bytes of an answer. -/
def toBytes (r : Reply) : List UInt8 :=
  let body := Text.Utf8.encode r.body.toList
  let typeField := (r.contentType.map fun t => "content-type: " ++ t ++ "\r\n").getD ""
  let head := "HTTP/1.1 " ++ Decimal.text r.status ++ " " ++ phrase r.status ++ "\r\n" ++
    typeField ++ "content-length: " ++ Decimal.text body.length ++ "\r\n\r\n"
  Text.Utf8.encode head.toList ++ body

end Reply

/-- Why a body could not be read. -/
def bodyError : String := "error reading a body from connection"

/-- Answers what a connection brings. -/
def handle (defaultTimeout : Duration) : Incoming → Program Reply
  | .request r => do return .ofResponse (← respond defaultTimeout r)
  | .unreadable _ => .done (.ofResponse (.unreadableBody bodyError))
  | .malformed => .done .malformed

/-- Answers everything that a connection brings, in order. -/
def handleAll (defaultTimeout : Duration) : List Incoming → Program (List Reply)
  | [] => .done []
  | i :: more => do
    let reply ← handle defaultTimeout i
    return reply :: (← handleAll defaultTimeout more)

end Reachability.Service
