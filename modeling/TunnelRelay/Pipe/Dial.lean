import TunnelRelay.Connection.Opening
import TunnelRelay.Log.Record
/-!
# Opening named pipes

A pipe all of whose instances are busy is tried again after a pause, until it
opens or fails for another reason. `dial` follows the results of the tries
one by one and accounts for the tries and the pauses. A delay that is no time
to wait ends the opening at the first busy pipe, and one without end makes it
wait for ever.
-/

namespace TunnelRelay.Pipe

/-- The code of the system for a pipe whose instances are all busy. -/
def busyCode : Int := 231

/-- Whether the fault means that the pipe is there but busy. -/
def isBusy (fault : Fault) : Bool := fault.kind = .system (.windows (some busyCode))

/-- A delay as it is written: a floating-point number of seconds. A finite one
is a whole number of sufficiently small units, and which unit that is counts
nowhere. -/
inductive Delay where
  | finite (units : Int)
  | infinite (negative : Bool)
  | notANumber
  deriving DecidableEq, Repr

instance : Coe Int Delay := ⟨.finite⟩

/-- The pause before the next try, in milliseconds, unless another is given. -/
def defaultPause : Int := 50

/-- The fault of a pause that would end before it begins. -/
def negativePause : Fault := .ofText .value "`seconds` must be non-negative"

/-- The fault of a pause whose end is at no time. -/
def timelessPause : Fault := .ofText .value "deadline must not be NaN"

/-- What comes of waiting: it is over after a number of units, or never, or
there is no such pause. -/
inductive Waiting where
  | lasts (units : Int)
  | never
  | refused (fault : Fault)

/-- What comes of waiting for a delay. -/
def Delay.wait : Delay → Waiting
  | .finite units => if units < 0 then .refused negativePause else .lasts units
  | .infinite true => .refused negativePause
  | .infinite false => .never
  | .notANumber => .refused timelessPause

/-- How a pipe is asked of the system: for reading and writing, not shared,
only if it exists, and for overlapped transfers. -/
structure OpenRequest where
  address : Option String
  access : Nat := 0x80000000 ||| 0x40000000
  share : Nat := 0
  security : Nat := 0
  disposition : Nat := 3
  flags : Nat := 0x40000000
  template : Nat := 0
  deriving DecidableEq, Repr

/-- The events of opening a pipe. -/
inductive Event where
  | request (request : OpenRequest)
  | log (record : Log.Record)
  | pause (units : Int)
  | pauseForEver
  deriving DecidableEq, Repr

/-- What the opening of a pipe has come to. -/
structure Dialed where
  attempts : Nat
  /-- How it ended, unless it waits for ever. -/
  result : Option (Except Fault Int)
  /-- The results of tries that were not needed. -/
  unused : List (Except Fault Int)
  events : List Event

/-- The record of a busy pipe. -/
def busyRecord (address : Option String) : Log.Record :=
  Log.say .connections .debug ("Pipe " ++ (Value.ofOption address).text ++ " is busy, retrying")

/-- What a try gives when no result is left. -/
def noResult : Fault := .ofText .index "pop from empty list"

/-- Opens a pipe, given the results of the tries, of which `attempts` have been
made before. -/
def dialFrom (address : Option String) (pause : Delay) (attempts : Nat) :
    List (Except Fault Int) → Dialed
  | [] =>
    { attempts := attempts + 1, result := some (.error noResult), unused := []
      events := [.request { address }] }
  | .ok handle :: unused =>
    { attempts := attempts + 1, result := some (.ok handle), unused
      events := [.request { address }] }
  | .error fault :: rest =>
    if isBusy fault then
      let first := [.request { address }, .log (busyRecord address)]
      match pause.wait with
      | .lasts units =>
        let later := dialFrom address pause (attempts + 1) rest
        { later with events := first ++ .pause units :: later.events }
      | .never =>
        { attempts := attempts + 1, result := none, unused := rest
          events := first ++ [.pauseForEver] }
      | .refused reason =>
        { attempts := attempts + 1, result := some (.error reason), unused := rest
          events := first }
    else
      { attempts := attempts + 1, result := some (.error fault), unused := rest
        events := [.request { address }] }

/-- Opens a pipe, given the results of the tries. -/
def dial (address : Option String) (pause : Delay) (results : List (Except Fault Int)) : Dialed :=
  dialFrom address pause 0 results

/-- The pauses that were made. -/
def Dialed.pauses (d : Dialed) : List Int :=
  d.events.filterMap fun | .pause ms => some ms | _ => none

end TunnelRelay.Pipe
