import JogShuttle.Slot
import JogShuttle.Text.Digit

/-!
# Slot designators

A rule line starts with the slot that it binds: `K` and a key number, `S` and a ring level, or `I`
or `J` and a direction letter. Letters count in either case, and numbers may carry a sign and
leading zeros and be written in the digits of any script.
-/

set_option autoImplicit false

namespace JogShuttle

/-- The slot that a line binds; a key line binds a release slot as well. -/
structure Target where
  slot : Slot
  release : Option Slot := none
deriving DecidableEq, Inhabited

namespace Target

def isKey (t : Target) : Bool := t.release.isSome

def key (n : Int) : Target := ⟨.keyDown n, some (.keyUp n)⟩

def single (s : Slot) : Target := ⟨s, none⟩

/-- A sign, if there is one, and what follows it. -/
def splitSign : List Char → Bool × List Char
  | '-' :: cs => (true, cs)
  | '+' :: cs => (false, cs)
  | cs => (false, cs)

/-- A number with a sign: nothing if the text is none, or the count of its digits if there are too
many to read. -/
def signed? (cs : List Char) : Except Nat (Option Int) :=
  let (negative, digits) := splitSign cs
  if digits.isEmpty || !digits.all Text.isDigit then .ok none
  else do
    let n ← Text.readNat digits
    return some (if negative then -(n : Int) else n)

/-- The target of a key or ring number, if it is in range. -/
def ofNumber (letter : Char) (n : Int) : Option Target :=
  if letter = 'K' then
    if 1 ≤ n ∧ n ≤ keyCount then some (key n) else none
  else if -(outerLevel : Int) ≤ n ∧ n ≤ outerLevel then some (single (.shuttle n))
  else none

/-- The target that a word designates. -/
def ofDesignator? (word : List Char) : Except Nat (Option Target) :=
  match word with
  | [] => .ok none
  | c :: cs =>
    let letter := c.toUpper
    if letter = 'K' ∨ letter = 'S' then do
      return (← signed? cs).bind (ofNumber letter)
    else if letter = 'I' ∨ letter = 'J' then
      let direction := Direction.ofLetter? (String.ofList cs)
      .ok (direction.map fun d => single (if letter = 'J' then .jog d else .increment d))
    else .ok none

end Target

end JogShuttle
