import JogShuttle.Stroke

/-!
# Building stroke sequences

A slot's output is a list of steps: taps, marks on modifiers, and the release boundary of a key.
A build applies them one after another. Taps leave the tapped symbol down until the next tap or the
boundary; marked modifiers stay down until they are let go. At the boundary the tapped symbol goes
first, then every modifier marked down; those are pressed again by the first tap that follows.
Modifiers marked held cross the boundary and are let go only at the end.
-/

set_option autoImplicit false

namespace JogShuttle

/-- What a step does to its symbol; `release` is the boundary and needs none. -/
inductive Mark where
  | tap
  | down
  | up
  | hold
  | release
deriving DecidableEq, Inhabited

namespace Mark

def name : Mark → String
  | tap => "TAP"
  | down => "DOWN"
  | up => "UP"
  | hold => "HOLD"
  | release => "RELEASE"

def all : List Mark := [tap, down, up, hold, release]

def ofName? (s : String) : Option Mark := all.find? (·.name == s)

end Mark

structure Step where
  mark : Mark
  symbol : Option Symbol := none
deriving DecidableEq, Inhabited

namespace Step

def tap (s : Symbol) : Step := ⟨.tap, some s⟩

def down (s : Symbol) : Step := ⟨.down, some s⟩

def up (s : Symbol) : Step := ⟨.up, some s⟩

def hold (s : Symbol) : Step := ⟨.hold, some s⟩

/-- The boundary between the two halves of a key. -/
def boundary : Step := ⟨.release, none⟩

end Step

/-- Where a modifier stands during a build; `pending` ones were let go at the boundary and wait for
the next tap. -/
inductive Hold where
  | down
  | held
  | pending
  | released
deriving DecidableEq, Inhabited

def Hold.name : Hold → String
  | .down => "DOWN"
  | .held => "HELD"
  | .pending => "PENDING_REPRESS"
  | .released => "RELEASED"

inductive BuildError where
  | boundaryOutsideKey
  | missingSymbol (mark : Mark)
deriving DecidableEq, Inhabited

def BuildError.message : BuildError → String
  | .boundaryOutsideKey => "RELEASE only applies to key slots"
  | .missingSymbol m => m.name ++ " token without a symbol"

/-- A build in progress. Modifiers stand in the order in which they were first marked; the strokes
of each half stand newest first. -/
structure Build where
  split : Bool
  modifiers : List (Symbol × Hold) := []
  ordinary : Option Symbol := none
  inRelease : Bool := false
  startsRelease : Bool := false
  pressed : List Stroke := []
  released : List Stroke := []
deriving DecidableEq, Inhabited

namespace Build

/-- All strokes so far, newest first. -/
def history (b : Build) : List Stroke := b.released ++ b.pressed

def emit (b : Build) (s : Stroke) : Build :=
  if b.inRelease then { b with released := s :: b.released }
  else { b with pressed := s :: b.pressed }

def emitAll (b : Build) (ss : List Stroke) : Build := ss.foldl emit b

/-- The state of a modifier, if it was ever marked. -/
def holdOf (b : Build) (s : Symbol) : Option Hold := b.modifiers.lookup s

/-- Keeps the place of a known modifier and appends a new one. -/
def setHold (s : Symbol) (h : Hold) : List (Symbol × Hold) → List (Symbol × Hold)
  | [] => [(s, h)]
  | (t, g) :: ms => if t = s then (t, h) :: ms else (t, g) :: setHold s h ms

/-- The modifiers in a state that satisfies the test, in order. -/
def modifiersWhere (b : Build) (p : Hold → Bool) : List Symbol :=
  (b.modifiers.filter fun m => p m.2).map (·.1)

/-- Moves every modifier whose state satisfies the test to one state. -/
def moveHolds (p : Hold → Bool) (h : Hold) (ms : List (Symbol × Hold)) : List (Symbol × Hold) :=
  ms.map fun m => if p m.2 then (m.1, h) else m

/-- Lets go of the tapped symbol. -/
def releaseOrdinary (b : Build) : Build :=
  match b.ordinary with
  | none => b
  | some s => { b.emit (.release s) with ordinary := none }

/-- Presses the pending modifiers again before the first tap after the boundary. -/
def repress (b : Build) : Build :=
  if b.startsRelease then
    { b.emitAll ((b.modifiersWhere (· == .pending)).map .press) with
      modifiers := moveHolds (· == .pending) .down b.modifiers
      startsRelease := false }
  else b

def tap (b : Build) (s : Symbol) : Build :=
  { b.repress.releaseOrdinary.emit (.press s) with ordinary := some s }

/-- Sends one stroke of a modifier and notes its new state. -/
def setModifier (b : Build) (stroke : Stroke) (h : Hold) : Build :=
  { b.emit stroke with modifiers := setHold stroke.symbol h b.modifiers }

/-- Crosses into the release half. -/
def cross (b : Build) : Build :=
  let b := { b with inRelease := true }.releaseOrdinary
  { b.emitAll ((b.modifiersWhere (· == .down)).map .release) with
    modifiers := moveHolds (· == .down) .pending b.modifiers
    startsRelease := true }

/-- Lets go of every modifier that is still down or held. -/
def releaseModifiers (b : Build) : Build :=
  { b.emitAll ((b.modifiersWhere fun h => h == .down || h == .held).map .release) with
    modifiers := moveHolds (fun h => h == .down || h == .held) .released b.modifiers }

def step (b : Build) (t : Step) : Except BuildError Build :=
  match t.mark, t.symbol with
  | .release, _ => if b.split then .ok b.cross else .error .boundaryOutsideKey
  | m, none => .error (.missingSymbol m)
  | .tap, some s => .ok (b.tap s)
  | .down, some s => .ok (b.setModifier (.press s) .down)
  | .up, some s => .ok (b.setModifier (.release s) .released)
  | .hold, some s => .ok (b.setModifier (.press s) .held)

/-- Lets go of everything. A key whose boundary has not come yet crosses it first and lets go of its
last tapped symbol before the modifiers; other slots let go of the modifiers first. -/
def finish (b : Build) : Build :=
  let b := if b.split then (if b.inRelease then b else b.cross).releaseOrdinary else b
  b.releaseModifiers.releaseOrdinary

def halves (b : Build) : Halves := ⟨b.pressed.reverse, b.released.reverse⟩

def steps (b : Build) : List Step → Except BuildError Build
  | [] => .ok b
  | t :: ts => do (← b.step t).steps ts

@[simp] theorem steps_nil (b : Build) : b.steps [] = .ok b := rfl

theorem steps_cons (b : Build) (t : Step) (ts : List Step) :
    b.steps (t :: ts) = (b.step t).bind fun b' => b'.steps ts := rfl

end Build

/-- The strokes that a list of steps stands for; `split` is set for keys. -/
def Halves.ofSteps? (split : Bool) (ts : List Step) : Except BuildError Halves := do
  return (← Build.steps { split } ts).finish.halves

end JogShuttle
