import TunnelRelay.Forwarder.Handler
/-!
# The forwarding loop

The forwarder takes connections from its source one by one, tells those who
want to know of each, and gives it to a handler of its own. When the source is
exhausted the handlers are waited for; when it fails they are cancelled, as
they are when somebody who was told of a connection fails, when a fault leaves
a handler, or when the forwarder itself is cancelled.

An action is either the loop's or that of one handler, and handlers share
nothing but the trust cache. So the runs of `Forwarder.machine` are the
interleavings of the loop with its handlers.
-/

namespace TunnelRelay

namespace Forwarder

/-- What the loop is at. Between accepting and its end it waits for the
handlers to end: its source was exhausted, its source failed, those who were
told of a connection failed or a fault left a handler, or it was cancelled.
While faults break it, it may be cancelled too. -/
inductive Loop where
  | accepting
  | draining
  | failing (fault : Fault)
  | breaking (faults : Fault.Group)
  | cancelled
  | ended (ending : Ending Unit)

namespace Loop

/-- Whether the handlers are being cancelled. -/
def isCancelling : Loop → Bool
  | .failing _ | .breaking _ | .cancelled => true
  | _ => false

/-- How the loop has ended. -/
def ending? : Loop → Option (Ending Unit)
  | .ended ending => some ending
  | _ => none

/-- Whether the next connection is waited for. -/
def isAccepting : Loop → Bool
  | .accepting => true
  | _ => false

/-- The loop after a fault that nobody deals with. -/
def brokenBy (fault : Fault) : Loop → Loop
  | .breaking faults => .breaking (faults.add fault)
  | .ended ending => .ended ending
  | .cancelled => .breaking { faults := [fault], cancelled := true }
  | .accepting | .draining | .failing _ => .breaking { faults := [fault] }

/-- The loop after it was cancelled, where that changes how it ends. -/
def cancel? : Loop → Option Loop
  | .accepting | .draining | .failing _ => some .cancelled
  | .breaking { faults, cancelled := false } => some (.breaking { faults, cancelled := true })
  | .breaking { cancelled := true, .. } | .cancelled | .ended _ => none

end Loop

/-- The actions of a forwarder. A handler is known by its number, in the order
in which connections were accepted. -/
inductive Act where
  /-- The source gives what was waited for; some of those who are told about
  the connection fail. -/
  | supplied (supply : Supply) (receivers : Receivers)
  /-- A handler starts; `load` is what loading the certificates would give. -/
  | begin (handler : Nat) (load : Trust.Outcome Trust.Context)
  | handler (handler : Nat) (act : Handler.Act)
  | cancel
  /-- All handlers have ended, and so does the forwarder. -/
  | finish

/-- The events of a forwarder. -/
inductive Event where
  | log (record : Log.Record)
  /-- Those who want to know are told that a connection was accepted. -/
  | accepted (conn : Inbound)
  | handler (handler : Nat) (event : Handler.Event)

end Forwarder

/-- A forwarder at work. -/
structure Forwarder where
  url : String
  /-- The identifier of the source. -/
  sourceId : String
  platform : Platform := .posix
  cache : Trust.Cache Trust.Context := {}
  /-- The handlers of all connections so far, in the order of acceptance. -/
  handlers : List Handler := []
  loop : Forwarder.Loop := .accepting

namespace Forwarder

/-- A forwarder before its first connection. -/
def new (url sourceId : String) (platform : Platform) (cache : Trust.Cache Trust.Context) :
    Forwarder :=
  { url, sourceId, platform, cache }

/-- What a forwarder says at its start. -/
def greeting (f : Forwarder) : Event :=
  .log (Log.say .forwarder .info ("Forwarding tunnel connections to " ++ f.url) f.sourceId)

/-- What is said of an accepted connection. -/
def acceptRecord (conn : Inbound) : Log.Record :=
  Log.say .forwarder .debug ("Accepted tunnel connection from " ++ conn.remoteAddress) conn.id
    Log.request

/-- A connection is accepted. It gets a handler unless those who are told of
it fail, which ends the loop. -/
def accept (f : Forwarder) (conn : Inbound) (leg : Leg) (receivers : Receivers) :
    Forwarder × List Event :=
  let events := [.log (acceptRecord conn), .accepted conn]
  match receivers.accepted with
  | none =>
    ({ f with handlers := f.handlers ++ [{ conn, receivers, stage := .starting leg }] }, events)
  | some fault =>
    ({ f with
        handlers := f.handlers ++ [{ conn, receivers, stage := .dropped leg }]
        loop := f.loop.brokenBy fault }, events)

/-- The source gives what was waited for. -/
def supply (f : Forwarder) (receivers : Receivers) : Supply → Forwarder × List Event
  | .connection conn leg => f.accept conn leg receivers
  | .exhausted => ({ f with loop := .draining }, [])
  | .failed fault => ({ f with loop := .failing fault }, [])

/-- The loop after a step of a handler. A fault that leaves the handler breaks
the loop. -/
def loopAfter (f : Forwarder) (old new : Handler) : Loop :=
  if old.isEnded then f.loop else new.escaped?.elim f.loop f.loop.brokenBy

/-- Puts the next state of a handler in its place. -/
def withHandler (f : Forwarder) (i : Nat) (old : Handler) :
    Handler × List Handler.Event → Forwarder × List Event
  | (new, events) =>
    ({ f with handlers := f.handlers.set i new, loop := f.loopAfter old new },
      events.map (.handler i))

/-- A handler starts. -/
def begin (f : Forwarder) (i : Nat) (load : Trust.Outcome Trust.Context) (h : Handler) :
    Option (Forwarder × List Event) :=
  match h.stage with
  | .starting inbound =>
    let (next, cache) := h.start f.platform f.url f.cache load inbound
    some ({ f with cache }.withHandler i h next)
  | _ => none

/-- The fault of a source that has failed. -/
def sourceFault (fault : Fault) : Fault :=
  (Fault.sourceUnavailable (.string ("tunnel source failed: " ++ fault.message))).withCause fault

/-- A record about the source. -/
def note (f : Forwarder) (level : Log.Level) (message : String) : Event :=
  .log (Log.say .forwarder level message f.sourceId)

/-- How a loop ends once all handlers have, and what it says. -/
def conclude (f : Forwarder) : Option (Ending Unit × List Event) :=
  match f.loop with
  | .accepting | .ended _ => none
  | .draining => some (.returned (), [f.note .info "Tunnel source exhausted"])
  | .failing fault =>
    some (.raised (sourceFault fault),
      [f.note .error ("Tunnel source failed: " ++ fault.message)])
  | .breaking faults => some (.group faults, [])
  | .cancelled => some (.cancelled, [])

/-- The end of a forwarder. -/
def finish (f : Forwarder) : Option (Forwarder × List Event) :=
  if f.handlers.all (·.isEnded) then
    f.conclude.map fun (ending, events) => ({ f with loop := .ended ending }, events)
  else none

/-- One action of a handler; it is cancelled only by the loop. -/
def handle (f : Forwarder) (i : Nat) (act : Handler.Act) : Option (Forwarder × List Event) :=
  match act with
  | .cancel =>
    if f.loop.isCancelling then
      f.handlers[i]?.bind fun h => (h.step .cancel).map (f.withHandler i h)
    else none
  | act => f.handlers[i]?.bind fun h => (h.step act).map (f.withHandler i h)

/-- One action of a forwarder. -/
def step (f : Forwarder) : Act → Option (Forwarder × List Event)
  | .supplied supply receivers =>
    if f.loop.isAccepting then some (f.supply receivers supply) else none
  | .begin i load => f.handlers[i]?.bind (f.begin i load)
  | .handler i act => f.handle i act
  | .cancel => f.loop.cancel?.map fun loop => ({ f with loop }, [])
  | .finish => f.finish

/-- The forwarder as a machine. -/
def machine : Machine Forwarder Act Event := ⟨step⟩

/-- What a forwarder does by itself. Handlers that are to be cancelled do not
go on before. -/
def own (load : Trust.Outcome Trust.Context) (f : Forwarder) : List Act :=
  let indices := List.range f.handlers.length
  indices.map (.begin · load) ++ indices.map (.handler · .cancel) ++
    indices.flatMap (fun i => Handler.own.map (.handler i)) ++ [.finish]

/-- A bound on what a forwarder can do by itself. -/
def work (f : Forwarder) : Nat := f.handlers.foldr (fun h n => h.work + n) 1

end Forwarder

end TunnelRelay
