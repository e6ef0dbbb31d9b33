import JogShuttle.Device
import JogShuttle.Number.Rounding

/-!
# The listener

A listener keeps a device open and hands on every event. If the first attempt to open the device
fails, that is final. Any later loss is waited out, with the device closed, and followed by a new
attempt. Between readings the listener waits a little while.
-/

set_option autoImplicit false

namespace JogShuttle

/-- A time since the start, in thirds of a microsecond. -/
structure Instant where
  thirds : Int
deriving DecidableEq, Inhabited

namespace Instant

def start : Instant := ⟨0⟩

def after (t : Instant) (micros : Int) : Instant := ⟨t.thirds + 3 * micros⟩

/-- The time between two readings is one part in a hundred and twenty of a second. -/
def afterPoll (t : Instant) : Instant := ⟨t.thirds + 25000⟩

/-- Whole milliseconds, rounded. -/
def millis (t : Instant) : Int := Number.divNearestInt t.thirds 3000

end Instant

/-- What a listener does, in order. It says that it has started when the device is first open. -/
inductive Happening where
  | opening (time : Instant)
  | opened
  | started
  | event (e : Event)
  | closed
  | lost (error : DeviceError)
  | waiting (delay : Duration)
deriving DecidableEq

/-- How a listener ends: it is stopped once nothing more is to come, or by an error. -/
inductive Finish where
  | stopped
  | failed (error : DeviceError)
  | badDelay
deriving DecidableEq

/-- A stretch of a listener's work. -/
structure Course (α : Type) where
  happenings : List Happening
  result : α

namespace Course

def before {α : Type} (hs : List Happening) (c : Course α) : Course α :=
  { c with happenings := hs ++ c.happenings }

end Course

namespace Listener

/-- Reads an open device until reading fails or nothing more is to come, with the time it takes. -/
def pump (path : String) (time : Instant) (queue : List Queued) :
    Course (Instant × Option DeviceError) :=
  let hs := (Queued.drain queue).events.map Happening.event
  if _h : (Queued.drain queue).halt = .paused then
    (pump path time.afterPoll (Queued.drain queue).rest).before hs
  else ⟨hs, time, (Queued.drain queue).halt.error? path⟩
termination_by queue.length
decreasing_by exact Queued.length_drainFrom_rest_lt_of_paused _h

def lossText (path : String) (error : DeviceError) (delay : Duration) : String :=
  "Lost " ++ path ++ " (" ++ error.message ++ "); reopening in " ++ delay.clockText

/-- Runs through the attempts to open a device. Nothing is left to do after the last one. -/
def runFrom (path : String) (delay : Duration) (started : Bool) (time : Instant) :
    List Session → Course Finish
  | [] => ⟨[], .stopped⟩
  | s :: ss =>
    let opening := [Happening.opening time]
    match s.opening.error? path with
    | some e =>
      if !started then ⟨opening, .failed e⟩
      else if delay.micros < 0 then ⟨opening ++ [.lost e], .badDelay⟩
      else
        (runFrom path delay started (time.after delay.micros) ss).before
          (opening ++ [.lost e, .waiting delay])
    | none =>
      let p := pump path time s.queue
      let greeting := if started then [] else [Happening.started]
      let work := opening ++ .opened :: greeting ++ p.happenings ++ [.closed]
      match p.result with
      | (_, none) => ⟨work, .stopped⟩
      | (now, some e) =>
        if !e.isLoss then ⟨work, .failed e⟩
        else if delay.micros < 0 then ⟨work ++ [.lost e], .badDelay⟩
        else
          (runFrom path delay true (now.after delay.micros) ss).before
            (work ++ [.lost e, .waiting delay])

/-- A listener on a device, from its start on. -/
def run (path : String) (delay : Duration) (sessions : List Session) : Course Finish :=
  runFrom path delay false .start sessions

/-- The events that are handed on. -/
def events (hs : List Happening) : List Event :=
  hs.filterMap fun
    | .event e => some e
    | _ => none

end Listener

end JogShuttle
