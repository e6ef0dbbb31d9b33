/-!
# Slots

A slot is a point of the controller that strokes can be bound to: a key going down or up, a level of
the shuttle ring, a step of the ring, or a detent of the jog dial. The controller has fifteen keys
and seven ring levels to either side, which makes forty-nine slots.
-/

set_option autoImplicit false

namespace JogShuttle

inductive Direction where
  | left
  | right
deriving DecidableEq, Inhabited

namespace Direction

def letter : Direction → String
  | left => "L"
  | right => "R"

/-- The direction that a letter of either case names. -/
def ofLetter? (s : String) : Option Direction :=
  if s = "L" ∨ s = "l" then some left
  else if s = "R" ∨ s = "r" then some right
  else none

/-- The direction of a change: only a fall goes left. -/
def ofStep (step : Int) : Direction := if step < 0 then left else right

def index : Direction → Int
  | left => 0
  | right => 1

def ofIndex? (i : Int) : Option Direction :=
  if i = 0 then some left else if i = 1 then some right else none

theorem ofIndex?_index (d : Direction) : ofIndex? d.index = some d := by
  cases d <;> rfl

theorem ofLetter?_letter (d : Direction) : ofLetter? d.letter = some d := by
  cases d <;> decide

end Direction

/-- The number of keys. -/
def keyCount : Nat := 15

/-- The outermost level of the ring to either side. -/
def outerLevel : Nat := 7

inductive Slot where
  | keyDown (key : Int)
  | keyUp (key : Int)
  | shuttle (level : Int)
  | increment (direction : Direction)
  | jog (direction : Direction)
deriving DecidableEq, Inhabited

namespace Slot

/-- The name by which a rule line addresses the slot; both halves of a key share it. -/
def designator : Slot → String
  | keyDown k => "K" ++ toString k
  | keyUp k => "K" ++ toString k
  | shuttle l => "S" ++ toString l
  | increment d => "I" ++ d.letter
  | jog d => "J" ++ d.letter

/-- Which half of a key the slot is. -/
def half : Slot → String
  | keyDown _ => "D"
  | keyUp _ => "U"
  | _ => ""

def text (s : Slot) : String := s.designator ++ "[" ++ s.half ++ "]"

def keys : List Int := (List.range keyCount).map fun (i : Nat) => (i : Int) + 1

def levels : List Int :=
  (List.range (2 * outerLevel + 1)).map fun (i : Nat) => (i : Int) - outerLevel

/-- Every slot of the controller, in the order of listings. -/
def all : List Slot :=
  keys.map keyDown ++ keys.map keyUp ++ levels.map shuttle ++
    [increment .left, increment .right, jog .left, jog .right]

theorem length_all : all.length = 49 := by decide

theorem all_nodup : all.Nodup := by decide

/-- The slot printed as the given text. -/
def ofText? (s : String) : Option Slot := all.find? (·.text == s)

def isKey : Slot → Bool
  | keyDown _ => true
  | keyUp _ => true
  | _ => false

end Slot

end JogShuttle
