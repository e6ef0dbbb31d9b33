import JogShuttle.CommandLine
import JogShuttle.Device.Listener
import JogShuttle.Program.World

/-!
# Showing events

Every event of the device is printed, with the slots that it stands for when no rules are in effect.
-/

set_option autoImplicit false

namespace JogShuttle.Events

/-- How the program ends: with an exit status, or when it is interrupted. -/
inductive Ending where
  | status (n : Nat)
  | interrupted
deriving DecidableEq

structure Report where
  ending : Ending
  out : List String := []
  err : List String := []
  logs : List Record := []
deriving DecidableEq

/-- What has been printed and logged so far, and what is known of the device. -/
structure Progress where
  signal : Signal := {}
  out : List String := []
  logs : List Record := []

def slotLine (s : Slot) : String := "    -> " ++ s.text

/-- Without rules no slot sends anything. -/
def unbound (_ : Slot) : Bool := false

def show? (p : Progress) (e : Event) : Except Duration.OutOfRange Progress :=
  let p := { p with out := p.out ++ [e.text] }
  if e.isInput then
    (p.signal.event Signal.defaultTimeout unbound e).map fun o =>
      { signal := o.signal, out := p.out ++ o.slots.map slotLine, logs := p.logs ++ o.logs }
  else .ok p

def showAll (p : Progress) : List Event → Except Duration.OutOfRange Progress
  | [] => .ok p
  | e :: es => do showAll (← show? p e) es

/-- Shows the events of a device until nothing more is to come. -/
def run (path : String) : List Session → Except Escape Report
  | [] => .ok { ending := .interrupted }
  | s :: _ =>
    match s.opening.error? path with
    | some e => .error (.device e)
    | none =>
      let c := Listener.pump path .start s.queue
      match showAll { out := ["Reading " ++ path] } (Listener.events c.happenings), c.result.2 with
      | .error e, _ => .error (.stop (.time e))
      | .ok _, some e => .error (.device e)
      | .ok p, none => .ok { ending := .interrupted, out := p.out, logs := p.logs }

inductive Key where
deriving DecidableEq

def grammar : CommandLine.Grammar Key where
  switches := [⟨["-h", "--help"], .flag, none⟩]
  needsOperand := false

/-- The program as a command. -/
def command (w : World) (words : List String) : Except Escape Report :=
  match CommandLine.parse grammar words with
  | .error e => .ok { ending := .status e.status }
  | .ok p =>
    match (p.operand.map Path.ofText) <|> w.found with
    | none => .ok { ending := .status 1, err := ["No shuttle device found"] }
    | some path =>
      if !path.isAbsolute then .error (.device .relativePath)
      else if !path.isProper then .error (.device .improperPath)
      else run path.text (w.device path)

end JogShuttle.Events
