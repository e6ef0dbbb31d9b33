import JogShuttle.Duration
import JogShuttle.Log
import JogShuttle.Signal.Dial

/-!
# Interpreting the controller's signals

Samples of the keys, the ring and the dial become slots. The ring reports levels but never its
return to the centre; it is inferred from a dial sample that comes long enough after the last ring
sample off the centre.
-/

set_option autoImplicit false

namespace JogShuttle

/-- A raw sample. -/
inductive Sample where
  | key (key : Int) (pressed : Bool)
  | shuttle (level : Int) (time : Duration)
  | jog (position : Int) (time : Duration)
deriving DecidableEq

/-- What is known of the controller. Level and time of the ring are unknown before its first sample;
`needsCenter` holds while its return to the centre is still to come. -/
structure Signal where
  jogPosition : Option Int := none
  shuttleLevel : Option Int := none
  lastShuttle : Option Duration := none
  needsCenter : Bool := false
deriving DecidableEq, Inhabited

namespace Signal

/-- The time without ring samples after which a dial sample means that the ring is centred. -/
def defaultTimeout : Duration := ⟨5000, by decide⟩

/-- The slots that a sample stands for, the state after it, and what is logged. -/
structure Outcome where
  signal : Signal
  slots : List Slot := []
  logs : List Record := []
deriving Inhabited

def key (s : Signal) (n : Int) (pressed : Bool) : Outcome :=
  if 1 ≤ n ∧ n ≤ keyCount then
    { signal := s, slots := [if pressed then .keyDown n else .keyUp n] }
  else
    { signal := s, logs := [.warning ("key " ++ toString n ++ " out of range")] }

/-- The level that the ring stands at; before its first sample it is taken to be centred. -/
def level (s : Signal) : Int := s.shuttleLevel.getD 0

/-- The slots of a change of level: the new level, and one ring step per unit if steps in that
direction are bound. -/
def levelSlots (old new : Int) (isBound : Slot → Bool) : List Slot :=
  let step := Slot.increment (.ofStep (new - old))
  .shuttle new :: (if isBound step then List.replicate (new - old).natAbs step else [])

def shuttle (s : Signal) (new : Int) (time : Duration) (isBound : Slot → Bool) : Outcome :=
  if -(outerLevel : Int) ≤ new ∧ new ≤ outerLevel then
    let seen := { s with lastShuttle := some time, needsCenter := decide (new ≠ 0) }
    if s.shuttleLevel = some new then { signal := seen }
    else
      { signal := { seen with shuttleLevel := some new }
        slots := levelSlots s.level new isBound }
  else
    { signal := s, logs := [.warning ("shuttle level " ++ toString new ++ " out of range")] }

/-- Whether the ring must have returned to its centre by a dial sample. -/
def centered (s : Signal) (timeout time : Duration) : Except Duration.OutOfRange Bool :=
  match s.needsCenter, s.lastShuttle with
  | true, some last => do
    let elapsed ← time.sub last
    return decide (timeout.micros ≤ elapsed.micros)
  | _, _ => .ok false

/-- The ring's return to the centre, if it is inferred. -/
def recenter (s : Signal) (timeout time : Duration) (isBound : Slot → Bool) :
    Except Duration.OutOfRange Outcome := do
  if ← s.centered timeout time then
    let o := s.shuttle 0 time isBound
    return { o with signal := { o.signal with needsCenter := false } }
  else return { signal := s }

/-- The detents passed since the last dial sample. -/
def turnTo (s : Signal) (position : Int) : List Slot :=
  match s.jogPosition with
  | none => []
  | some old => Dial.turn old position

def jog (s : Signal) (timeout : Duration) (value : Int) (time : Duration)
    (isBound : Slot → Bool) : Except Duration.OutOfRange Outcome := do
  let o ← s.recenter timeout time isBound
  let position := Dial.wrap value
  return { o with
    signal := { o.signal with jogPosition := some position }
    slots := o.slots ++ s.turnTo position }

/-- One sample. -/
def sample (s : Signal) (timeout : Duration) (isBound : Slot → Bool) :
    Sample → Except Duration.OutOfRange Outcome
  | .key n pressed => .ok (s.key n pressed)
  | .shuttle new time => .ok (s.shuttle new time isBound)
  | .jog value time => s.jog timeout value time isBound

end Signal

end JogShuttle
