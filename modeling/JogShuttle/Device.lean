import JogShuttle.Event
import JogShuttle.Path
import JogShuttle.SystemError

/-!
# The event device

A device queues events. Reading yields what is queued and stops at a pause. After an overflow the
broken packet is skipped: everything up to the event that ends a packet.
-/

set_option autoImplicit false

namespace JogShuttle

/-- What reading a device meets next. An event whose time no duration can hold still ends its packet
if it is of that kind. -/
inductive Queued where
  | event (e : Event)
  | mistimed (endsPacket : Bool) (e : Duration.OutOfRange)
  | pause
  | overflow
  | failure (e : SystemError)
deriving DecidableEq

/-- Why reading stops: for now, because nothing is left, because a packet that was being skipped
overflowed itself, because an event has no proper time, or because the system failed. -/
inductive Halt where
  | paused
  | exhausted
  | overflowed
  | mistimed (e : Duration.OutOfRange)
  | failed (e : SystemError)
deriving DecidableEq

/-- What one reading yields, why it stops, and what stays queued. -/
structure Drain where
  events : List Event
  halt : Halt
  rest : List Queued
deriving DecidableEq

namespace Drain

def cons (e : Event) (d : Drain) : Drain := { d with events := e :: d.events }

end Drain

namespace Queued

/-- An event as the device reports it, its time in microseconds. -/
def ofReport (type code value micros : Int) : Queued :=
  match Duration.ofMicros micros with
  | .ok time => .event ⟨type, code, value, time⟩
  | .error e => .mistimed (Event.isPacketEnd type code) e

/-- Reads the queue; while skipping, events are dropped up to the end of their packet. -/
def drainFrom (skipping : Bool) : List Queued → Drain
  | [] => ⟨[], .exhausted, []⟩
  | .event e :: q =>
    if skipping then drainFrom (!e.endsPacket) q else (drainFrom false q).cons e
  | .mistimed last e :: q =>
    if skipping then drainFrom (!last) q else ⟨[], .mistimed e, q⟩
  | .pause :: q => ⟨[], .paused, q⟩
  | .overflow :: q => if skipping then ⟨[], .overflowed, q⟩ else drainFrom true q
  | .failure e :: q => ⟨[], .failed e, q⟩

def drain (q : List Queued) : Drain := drainFrom false q

theorem length_drainFrom_rest_le (skipping : Bool) (q : List Queued) :
    (drainFrom skipping q).rest.length ≤ q.length := by
  induction q generalizing skipping with
  | nil => exact Nat.le_refl _
  | cons x q ih =>
    cases x with
    | event e =>
      unfold drainFrom
      split
      · exact Nat.le_succ_of_le (ih _)
      · exact Nat.le_succ_of_le (ih _)
    | mistimed last e =>
      unfold drainFrom
      split
      · exact Nat.le_succ_of_le (ih _)
      · exact Nat.le_succ _
    | pause => exact Nat.le_succ _
    | overflow =>
      unfold drainFrom
      split
      · exact Nat.le_succ _
      · exact Nat.le_succ_of_le (ih _)
    | failure e => exact Nat.le_succ _

/-- A reading that pauses has taken something off the queue. -/
theorem length_drainFrom_rest_lt_of_paused {skipping : Bool} {q : List Queued}
    (h : (drainFrom skipping q).halt = .paused) :
    (drainFrom skipping q).rest.length < q.length := by
  cases q with
  | nil => cases h
  | cons x q =>
    cases x with
    | event e =>
      unfold drainFrom
      split
      · exact Nat.lt_succ_of_le (length_drainFrom_rest_le _ q)
      · exact Nat.lt_succ_of_le (length_drainFrom_rest_le _ q)
    | mistimed last e =>
      unfold drainFrom
      split
      · exact Nat.lt_succ_of_le (length_drainFrom_rest_le _ q)
      · exact Nat.lt_succ_self _
    | pause => exact Nat.lt_succ_self _
    | overflow =>
      unfold drainFrom
      split
      · exact Nat.lt_succ_self _
      · exact Nat.lt_succ_of_le (length_drainFrom_rest_le _ q)
    | failure e => exact Nat.lt_succ_self _

end Queued

/-- What goes wrong with a device. -/
inductive DeviceError where
  | relativePath
  | improperPath
  | notOpen
  | wentAway (path : String)
  | taken (path : String)
  | overflowed
  | time (e : Duration.OutOfRange)
  | system (e : SystemError)
deriving DecidableEq

namespace DeviceError

def message : DeviceError → String
  | relativePath => "Device path must be absolute"
  | improperPath => Path.improperText
  | notOpen => "Must be inside an appropriate context manager"
  | wentAway path => path ++ " went away"
  | taken path => path ++ " is grabbed by another program"
  | overflowed => ""
  | time e => e.message
  | system e => e.message

/-- A failure of the system while a device is in use. -/
def ofSystem (path : String) (e : SystemError) : DeviceError :=
  if e.number = SystemError.noDevice then wentAway path else system e

/-- Losses that a listener waits out. -/
def isLoss : DeviceError → Bool
  | wentAway _ => true
  | taken _ => true
  | system _ => true
  | _ => false

end DeviceError

/-- How an attempt to open a device ends. If its file cannot even be opened, there is no device that
could have gone away. -/
inductive Opening where
  | ready
  | unreachable (e : SystemError)
  | taken
  | failed (e : SystemError)
deriving DecidableEq

/-- An attempt to open a device, with what is queued for as long as it stays open. -/
structure Session where
  opening : Opening := .ready
  queue : List Queued := []
deriving DecidableEq

/-- The error of an attempt to open a device, if it fails. -/
def Opening.error? (path : String) : Opening → Option DeviceError
  | ready => none
  | unreachable e => some (.system e)
  | taken => some (.taken path)
  | failed e => some (.ofSystem path e)

/-- The error of a reading, unless it merely ran out of events. -/
def Halt.error? (path : String) : Halt → Option DeviceError
  | paused => none
  | exhausted => none
  | overflowed => some .overflowed
  | mistimed e => some (.time e)
  | failed e => some (.ofSystem path e)

/-- A device; while it is open it has a queue. -/
structure Device where
  path : String
  queue : Option (List Queued) := none
deriving DecidableEq

namespace Device

def isOpen (d : Device) : Bool := d.queue.isSome

def close (d : Device) : Device := { d with queue := none }

/-- An attempt to open the device; it is closed if that fails. -/
def openWith (d : Device) (s : Session) : Device × Option DeviceError :=
  match s.opening.error? d.path with
  | none => ({ d with queue := some s.queue }, none)
  | some e => (d.close, some e)

/-- Reads what is queued: the events yielded, the device after it, and the error if there is one. -/
def events (d : Device) : List Event × Device × Option DeviceError :=
  match d.queue with
  | none => ([], d, some .notOpen)
  | some q =>
    let r := Queued.drain q
    (r.events, { d with queue := some r.rest }, r.halt.error? d.path)

end Device

end JogShuttle
