import JogShuttle.Pattern.CharTest

/-!
# Programs

A tree becomes a program in which every step holds the steps after it, and each test knows the mode
it works in. Where a search may begin is read off the start of the tree.
-/

set_option autoImplicit false

namespace JogShuttle.Pattern

/-- A program. It ends in `done`, the body of turns in `again`, an alternative in a leap to what
follows the choice, and the row of alternatives in `never`. -/
inductive Code where
  | done
  | again
  | never
  | leap (next : Code)
  | test (t : CharTest) (next : Code)
  | anchor (kind : Anchor) (mode : Mode) (next : Code)
  | mark (index : Nat) (next : Code)
  | same (group : Nat) (mode : Mode) (next : Code)
  | branch (first others : Code)
  | chars (greed : Greed) (least : Nat) (most : Option Nat) (t : CharTest) (next : Code)
  | turns (greed : Greed) (least : Nat) (most : Option Nat) (body next : Code)
  | atomic (body next : Code)
  | either (group : Nat) (yes no : Code)
  | look (negated : Bool) (back : Nat) (body next : Code)
deriving Inhabited

/-- The marks at the two ends of a group. -/
def openMark (group : Nat) : Nat := 2 * (group - 1)

def closeMark (group : Nat) : Nat := openMark group + 1

def Node.isEmpty : Node → Bool
  | empty => true
  | _ => false

/-- The program of a node that is followed by another program. -/
def Node.toCode (mode : Mode) : Node → Code → Code
  | empty, next => next
  | never, _ => .never
  | code n negated, next => .test (.ofCode mode n negated) next
  | any, next => .test (if mode.dotAll then .any else .notBreak) next
  | set negated items, next => .test (.ofSet mode negated items) next
  | anchor kind, next => .anchor kind mode next
  | seq a b, next => a.toCode mode (b.toCode mode next)
  | alt a b, next => .branch (a.toCode mode (.leap next)) (b.toCode mode next)
  | turns greed least most body, next =>
    match CharTest.ofNode? mode body with
    | some t => .chars greed least most t next
    | none =>
      .turns greed least most (body.toCode mode (if greed = .possessive then .done else .again)) next
  | group none on off body, next => body.toCode (on.apply off mode) next
  | group (some g) on off body, next =>
    .mark (openMark g) (body.toCode (on.apply off mode) (.mark (closeMark g) next))
  | atomic body, next => .atomic (body.toCode mode .done) next
  | same g _, next => .same g mode next
  | either g yes no, next =>
    .either g (yes.toCode mode (if no.isEmpty then next else .leap next)) (no.toCode mode next)
  | ahead negated body, next => .look negated 0 (body.toCode mode .done) next
  | behind negated body, next => .look negated body.width.1 (body.toCode mode .done) next

/-- The only code point that a program can start with, if its first test is for one. -/
def Code.firstCode? : Code → Option Nat
  | test (.code n) _ => some n
  | _ => none

/-- Whether a program starts with a test that a character fails; tests that ignore case are not
looked at. -/
def Code.refuses (c? : Option Char) : Code → Bool
  | test (.code n) _ => !c?.any fun c => c.toNat == n
  | test (.set negated ascii items) _ => !c?.any (CharTest.set negated ascii items).holds
  | _ => false

/-- Where a match may start. -/
inductive Start where
  | anywhere
  | atCharacter
  | within (t : CharTest)
deriving DecidableEq, Inhabited

namespace Start

/-- A code point that a text must hold as it is. -/
def plain? (mode : Mode) (n : Nat) : Option Nat :=
  if mode.ignoreCase && isCased mode.ascii n then none else some n

/-- Whether a node starts with plain characters, and whether it is nothing but such. -/
def plainness (mode : Mode) : Node → Bool × Bool
  | .empty => (false, true)
  | .code n false => if (plain? mode n).isSome then (true, true) else (false, false)
  | .seq a b =>
    let (some_, all) := plainness mode a
    if all then
      let (more, rest) := plainness mode b
      (some_ || more, rest)
    else (some_, false)
  | .group _ on off body => plainness (on.apply off mode) body
  | _ => (false, false)

def plainHead? (mode : Mode) : Node → Option Nat
  | .code n false => plain? mode n
  | .seq a _ => plainHead? mode a
  | _ => none

/-- The first characters of the alternatives of a choice, if all are plain. -/
def plainHeads? (mode : Mode) : Node → Option (List Nat)
  | .never => some []
  | .alt a b => do return (← plainHead? mode a) :: (← plainHeads? mode b)
  | _ => none

/-- Whether case can be told apart within an item. -/
def isCasedItem (ascii : Bool) : Item → Bool
  | .code n => isCased ascii n
  | .range a b => b > planeEnd || hasCased ascii a b
  | .category .. => false

/-- The set that the first character of a node comes from. Its categories are those of the mode of
the whole pattern. -/
def firstSet? (whole mode : Mode) : Node → Option CharTest
  | .code n false => (plain? mode n).map .code
  | .set negated items =>
    if mode.ignoreCase && items.any (isCasedItem mode.ascii) then none
    else some (.set negated whole.ascii items)
  | .alt a b => (plainHeads? mode (.alt a b)).map fun ns => .set false whole.ascii (ns.map .code)
  | .seq a _ => firstSet? whole mode a
  | .group _ on off body => firstSet? whole (on.apply off mode) body
  | _ => none

/-- Where a match of a node may start. A node that may take nothing starts anywhere. -/
def ofNode (mode : Mode) (node : Node) : Start :=
  if node.width.1 = 0 then .anywhere
  else if (plainness mode node).1 then .atCharacter
  else
    match firstSet? mode mode node with
    | some t => .within t
    | none => .anywhere

end Start

/-- A pattern made ready for searching: its program, the least number of characters that a match
takes, and where one may start. -/
structure Program where
  code : Code
  least : Nat
  start : Start
deriving Inhabited

def Program.ofNode (mode : Mode) (node : Node) : Program where
  code := node.toCode mode .done
  least := node.width.1
  start := .ofNode mode node

end JogShuttle.Pattern
