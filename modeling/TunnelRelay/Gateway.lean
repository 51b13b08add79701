import TunnelRelay.Ending
import TunnelRelay.Http.RequestHead
import TunnelRelay.Log.Record
import TunnelRelay.Machine
/-!
# The bad-gateway responder

The client of an HTTP connection whose destination cannot be dialed is told
so: the responder reads the head of one request, answers `502 Bad Gateway`
with the reason as the body, and closes the leg. A client that closes, breaks
the connection or sends no proper request gets no answer. The close is not
kept from being cancelled, and so a responder that has answered may still end
cancelled.
-/

namespace TunnelRelay

namespace Gateway

/-- The protocols whose clients are answered. -/
def answers (protocol : String) : Bool := protocol = "http" || protocol = "https"

/-- The bytes of a text in UTF-8. -/
def utf8 (s : String) : Bytes := s.toUTF8.toList

/-- The body of the response. -/
def body (reason : String) : Bytes := utf8 ("failed to dial backend: " ++ reason)

/-- The head of the response to a body of the given length. -/
def responseHead (length : Nat) : Bytes :=
  utf8 ("HTTP/1.1 502 Bad Gateway\r\n" ++
    "Content-Type: text/plain; charset=utf-8\r\n" ++
    "Content-Length: " ++ toString length ++ "\r\n" ++
    "Connection: close\r\n\r\n")

/-- The whole response; the answer to a `HEAD` request has no body. -/
def response (body : Bytes) (request : Http.Request) : Bytes :=
  responseHead body.length ++ (if request.method = Http.asciiBytes "HEAD" then [] else body)

/-- What the responder does next. It returns whether it has answered. -/
inductive Stage where
  | reading
  | writing (data : Bytes)
  /-- The leg has been closed, and the responder will end so unless it is
  cancelled before. -/
  | closing (ending : Ending Bool)
  | ended (ending : Ending Bool)

end Gateway

/-- A responder at work on an inbound leg. -/
structure Gateway where
  leg : Leg
  /-- The reason for which the destination was not reached. -/
  reason : String
  /-- What the records are about. -/
  subject : Log.Subject := {}
  buffer : Bytes := []
  stage : Gateway.Stage := .reading

namespace Gateway

/-- The actions of a responder. -/
inductive Act where
  /-- Something happens to the leg from outside. -/
  | peer (act : Leg.Act)
  /-- The next read or write, or the end after the close. -/
  | advance
  | cancel

/-- The events of a responder. -/
inductive Event where
  | leg (event : Leg.Event)
  | log (record : Log.Record)
  deriving DecidableEq, Repr

/-- Closes the leg; a fault of closing ends the responder at once. -/
def finish (g : Gateway) (ending : Ending Bool) (events : List Event) : Gateway × List Event :=
  let stage := (g.leg.closeFault?.map fun fault => .ended (.raised fault)).getD (.closing ending)
  ({ g with leg := g.leg.closeNow, stage }, events ++ g.leg.closeEvents.map .leg)

/-- Closes the leg after the responder was cancelled where it waits; a fault of
closing takes the place of the cancellation. -/
def stop (g : Gateway) : Gateway × List Event :=
  let ending := (g.leg.closeFault?.map .raised).getD .cancelled
  ({ g with leg := g.leg.closeNow, stage := .ended ending }, g.leg.closeEvents.map .leg)

/-- A record of the responder. -/
def note (g : Gateway) (message : String) : Event :=
  .log (Log.sayOf g.subject .degradation .debug message)

/-- Closes the leg after a fault of reading or writing. -/
def fail (g : Gateway) (fault : Fault) : Gateway × List Event :=
  if fault.kind.isStream then
    g.finish (.returned false)
      [g.note ("Connection error while serving bad gateway error: " ++ fault.message)]
  else g.finish (.raised fault) []

/-- Goes on after a chunk has been added to the buffer. -/
def consider (g : Gateway) (ended : Bool) : Gateway × List Event :=
  match Http.examine g.buffer ended with
  | .incomplete => (g, [])
  | .closed => g.finish (.returned false) [g.note "Connection closed before request"]
  | .invalid => g.finish (.returned false) [g.note "Invalid HTTP request"]
  | .request request =>
    ({ g with stage := .writing (response (body g.reason) request) },
      [g.note "Serving bad gateway error"])

/-- The next read or write, or the end after the close. -/
def advance (g : Gateway) : Option (Gateway × List Event) :=
  match g.stage with
  | .reading =>
    match g.leg.receive Http.headLimit with
    | .waiting => none
    | .data chunk leg =>
      some ({ g with leg, buffer := g.buffer ++ chunk }.consider (chunk = []))
    | .fault fault => some (g.fail fault)
  | .writing data =>
    match g.leg.send with
    | .waiting => none
    | .sent => some (g.finish (.returned true) [.leg (.wrote data)])
    | .fault fault => some (g.fail fault)
  | .closing ending => some ({ g with stage := .ended ending }, [])
  | .ended _ => none

/-- One action of a responder. -/
def step (g : Gateway) : Act → Option (Gateway × List Event)
  | .peer act =>
    let (leg, events) := g.leg.apply act
    some ({ g with leg }, events.map .leg)
  | .advance => g.advance
  | .cancel =>
    match g.stage with
    | .reading | .writing _ => some g.stop
    | .closing _ => some ({ g with stage := .ended .cancelled }, [])
    | .ended _ => none

/-- The responder as a machine. -/
def machine : Machine Gateway Act Event := ⟨step⟩

/-- What a responder does by itself. -/
def own (_ : Gateway) : List Act := [.advance]

/-- A bound on what a responder can do by itself. -/
def work (g : Gateway) : Nat := g.leg.pending + 4

end Gateway

end TunnelRelay
