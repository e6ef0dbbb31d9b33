import JogShuttle.Pattern.Program

/-!
# Ends of programs

A program is kept as a row of numbers that is checked once more before use. The check tells a
condition with one part from a condition with two by the number before the last of its first part: a
leap stands there if another part follows. A single part that happens to hold the number of a leap
in that place is taken for the first of two, and the program is found broken.
-/

set_option autoImplicit false

namespace JogShuttle.Pattern

/-- The number that stands for a leap. -/
def leapNumber : Nat := 15

namespace Item

/-- The code points of an item in the basic plane, as they are compared in a mode. -/
def chart (mode : Mode) (item : Item) : List Nat :=
  (match item with
    | code n => compared n
    | range a b => (List.range' a (min b planeEnd + 1 - a)).flatMap compared
    | category .. => []).filter (· ≤ planeEnd)
where
  compared (n : Nat) : List Nat :=
    if !mode.ignoreCase then [n]
    else if mode.ascii then [lower true n]
    else Text.lowerEquals (lower false n)

/-- Whether an item is kept apart from the code points of the basic plane. -/
def isApart : Item → Bool
  | code n => n > planeEnd
  | range _ b => b > planeEnd
  | category .. => true

/-- Whether the last number of an item is that of a leap. It is also the number of what is no word
character, unless the classes are those of ASCII. -/
def endsInLeap (ascii : Bool) : Item → Bool
  | code n => n == leapNumber
  | range _ b => b == leapNumber
  | category c negated => c == .word && negated && !ascii

end Item

namespace Ending

/-- The last ones of the runs in an ascending list. -/
def runEnds : List Nat → List Nat
  | [] => []
  | [a] => [a]
  | a :: b :: rest => if b = a + 1 then runEnds (b :: rest) else a :: runEnds (b :: rest)

/-- The codes of a block of 256, counted from its start. -/
def block (codes : List Nat) (i : Nat) : List Nat :=
  (codes.filter (· / 256 == i)).map (· % 256)

/-- Whether the last number of a map of code points is that of a leap. Equal blocks of a map are kept
once, and 32 code points make a number. -/
def mapEndsInLeap (codes : List Nat) : Bool :=
  let kept :=
    if codes.all (· < 256) then codes
    else (((List.range 256).map (block codes)).eraseDups.getLast?).getD []
  kept.filter (· ≥ 224) == [224, 225, 226, 227]

/-- Whether the last number of a set's items is that of a leap. Code points of the basic plane come
first, as runs if there are no more than two, else as a map. The items are kept as they are written
if the runs are not fewer and case makes no difference. -/
def setEndsInLeap (mode : Mode) (items : List Item) : Bool :=
  let codes := ((items.flatMap (·.chart mode)).mergeSort).eraseReps
  let ends := runEnds codes
  let apart := items.filter Item.isApart
  let minds := mode.ignoreCase && items.any (·.minds mode.ascii)
  let asWritten := ends.length ≤ 2 && !minds && items.length ≤ ends.length + apart.length
  match (if asWritten then items else apart).getLast? with
  | some item => item.endsInLeap mode.ascii
  | none => if ends.length ≤ 2 then ends.getLast? == some leapNumber else mapEndsInLeap codes

end Ending

namespace Node

/-- For each of the last two numbers of a node's row, the last one first, whether it is that of a
leap. The row of a node may be shorter. -/
def ending (mode : Mode) : Node → List Bool
  | empty => []
  | never | any => [false]
  | code n _ => [n == leapNumber, false]
  | set _ items => [false, Ending.setEndsInLeap mode items]
  | anchor .. | alt .. => [false, false]
  | seq a b => (b.ending mode ++ a.ending mode).take 2
  | turns _ _ most body => [false, (body.ending mode).headD (most == some leapNumber)]
  | group none on off body => body.ending (on.apply off mode)
  | group (some g) _ _ _ => [closeMark g == leapNumber, false]
  | atomic body => [false, (body.ending mode).headD false]
  | same g _ => [g - 1 == leapNumber, false]
  | either g yes no =>
    if no.isEmpty then (yes.ending mode ++ [false, g - 1 == leapNumber]).take 2
    else (no.ending mode ++ [false, false]).take 2
  | ahead negated body | behind negated body =>
    if negated && body.isEmpty then [false] else [false, (body.ending mode).headD false]

/-- Whether the check finds a condition in a node broken. -/
def isBroken (mode : Mode) : Node → Bool
  | empty | never | code .. | any | set .. | anchor .. | same .. => false
  | seq a b | alt a b => a.isBroken mode || b.isBroken mode
  | turns _ _ _ body | atomic body | ahead _ body | behind _ body => body.isBroken mode
  | group _ on off body => body.isBroken (on.apply off mode)
  | either _ yes no =>
    yes.isBroken mode || no.isBroken mode ||
      (no.isEmpty && (yes.ending mode)[1]? == some true)

end Node

end JogShuttle.Pattern
