import JogShuttle.Pattern.Failure

/-!
# Syntax of patterns

A pattern is a tree of tests on single characters, anchors, groups, alternatives and repetitions.
Flags are kept where they are written, on groups; the mode that a node is matched in comes from the
groups around it. Code points are numbers, since a pattern may name code points that no text holds.
-/

set_option autoImplicit false

namespace JogShuttle.Pattern

/-- The modes that flags switch on. -/
structure Mode where
  ignoreCase : Bool := false
  multiline : Bool := false
  dotAll : Bool := false
  verbose : Bool := false
  ascii : Bool := false
deriving DecidableEq, Inhabited

/-- Flags that are switched on or off together. -/
structure Flags where
  letters : List Char := []
deriving DecidableEq, Inhabited

def Flags.has (f : Flags) (c : Char) : Bool := f.letters.contains c

/-- A mode with some flags switched on and then others off. -/
def Flags.apply (on off : Flags) (m : Mode) : Mode where
  ignoreCase := (m.ignoreCase || on.has 'i') && !off.has 'i'
  multiline := (m.multiline || on.has 'm') && !off.has 'm'
  dotAll := (m.dotAll || on.has 's') && !off.has 's'
  verbose := (m.verbose || on.has 'x') && !off.has 'x'
  ascii := on.has 'a' || (m.ascii && !on.has 'u')

/-- Classes of characters with a name of their own. -/
inductive Category where
  | digit
  | space
  | word
deriving DecidableEq, Inhabited

/-- A member of a character set. -/
inductive Item where
  | code (n : Nat)
  | range (first last : Nat)
  | category (c : Category) (negated : Bool)
deriving DecidableEq, Inhabited

inductive Anchor where
  | lineStart
  | lineEnd
  | textStart
  | textEnd
  | boundary
  | noBoundary
deriving DecidableEq, Inhabited

/-- How eagerly a repetition takes further turns; a possessive one never gives any back. -/
inductive Greed where
  | greedy
  | lazy
  | possessive
deriving DecidableEq, Inhabited

/-- The alternatives of a choice end in `never`. A reference carries the widths of its group. -/
inductive Node where
  | empty
  | never
  | code (n : Nat) (negated : Bool)
  | any
  | set (negated : Bool) (items : List Item)
  | anchor (kind : Anchor)
  | seq (first second : Node)
  | alt (first others : Node)
  | turns (greed : Greed) (least : Nat) (most : Option Nat) (body : Node)
  | group (index : Option Nat) (on off : Flags) (body : Node)
  | atomic (body : Node)
  | same (group : Nat) (width : Nat × Nat)
  | either (group : Nat) (yes no : Node)
  | ahead (negated : Bool) (body : Node)
  | behind (negated : Bool) (body : Node)
deriving Inhabited

namespace Node

/-- The nodes of a list one after another. -/
def ofList : List Node → Node
  | [] => .empty
  | [n] => n
  | n :: ns => .seq n (ofList ns)

/-- The nodes that stand one after another in a sequence. -/
def toList : Node → List Node
  | empty => []
  | seq first second => first :: second.toList
  | n => [n]

/-- A choice among sequences. -/
def ofAlternatives : List (List Node) → Node
  | [] => .never
  | ns :: rest => .alt (ofList ns) (ofAlternatives rest)

/-- No turns are counted from here on. -/
def turnLimit : Nat := 4294967295

/-- Neither width is counted beyond its limit. -/
def capWidth (w : Nat × Nat) : Nat × Nat := (min w.1 (turnLimit - 1), min w.2 turnLimit)

/-- The least and the greatest number of characters that a node takes. -/
def width : Node → Nat × Nat
  | empty => (0, 0)
  | never => (turnLimit - 1, 0)
  | code .. | any | set .. => (1, 1)
  | anchor .. | ahead .. | behind .. => (0, 0)
  | seq a b => capWidth (a.width.1 + b.width.1, a.width.2 + b.width.2)
  | alt a b => (min a.width.1 b.width.1, max a.width.2 b.width.2)
  | turns _ least most body =>
    capWidth (body.width.1 * least, body.width.2 * most.getD turnLimit)
  | group _ _ _ body => body.width
  | atomic body => body.width
  | same _ w => w
  | either _ yes no => (min yes.width.1 no.width.1, max yes.width.2 no.width.2)

def isAnchor : Node → Bool
  | anchor .. => true
  | _ => false

def isTurns : Node → Bool
  | turns .. => true
  | _ => false

/-- What stands in a group that neither captures nor carries flags; other nodes stand alone. -/
def unwrap : Node → List Node
  | group none ⟨[]⟩ ⟨[]⟩ body => body.toList
  | n => [n]

/-- Whether two nodes are one and the same test of a place. Nodes with bodies never are. -/
def sameTest : Node → Node → Bool
  | code n negated, code m negated' => n == m && negated == negated'
  | any, any => true
  | set negated items, set negated' items' => negated == negated' && items == items'
  | anchor kind, anchor kind' => kind == kind'
  | same g _, same g' _ => g == g'
  | _, _ => false

/-- The members of the set that a node tests for. -/
def members? : Node → Option (List Item)
  | code n false => some [.code n]
  | set false items => some items
  | _ => none

/-- What all alternatives of a choice begin with. -/
def commonStart : List Node → List (List Node) → List Node
  | [], _ => []
  | n :: ns, others =>
    if others.all fun o => o.head?.any n.sameTest then
      n :: commonStart ns (others.map List.tail)
    else []

/-- The set that a choice among single characters amounts to. -/
def choiceSet? (alternatives : List (List Node)) : Option Node := do
  let items ← alternatives.mapM fun
    | [n] => n.members?
    | _ => none
  return .set false items.flatten.eraseDups

/-- A choice between two alternatives or more. What they have in common at their starts is taken
once, and what is left becomes a set if it is one. -/
def choice (first : List Node) (others : List (List Node)) : List Node :=
  let start := commonStart first others
  let rests := (first :: others).map (·.drop start.length)
  start ++ [(choiceSet? rests).getD (ofAlternatives rests)]

/-- What can only be judged once the whole pattern is known: look-behinds of varying width, and
repetitions in template mode. -/
def check (template : Bool) : Node → Except Flaw Unit
  | empty | never | code .. | any | set .. | anchor .. | same .. => .ok ()
  | seq a b => do a.check template; b.check template
  | alt a b => do a.check template; b.check template
  | either _ yes no => do yes.check template; no.check template
  | group _ _ _ body => body.check template
  | atomic body => body.check template
  | ahead _ body => body.check template
  | turns greed _ _ body =>
    if template then
      .error (.templateRepeat (match greed with
        | .greedy => "MAX_REPEAT"
        | .lazy => "MIN_REPEAT"
        | .possessive => "POSSESSIVE_REPEAT"))
    else body.check template
  | behind _ body =>
    if body.width.1 ≠ body.width.2 then .error .behindWidth else body.check template

/-- The farthest that a look-behind in the node steps back. -/
def reach : Node → Nat
  | empty | never | code .. | any | set .. | anchor .. | same .. => 0
  | seq a b => max a.reach b.reach
  | alt a b => max a.reach b.reach
  | either _ yes no => max yes.reach no.reach
  | group _ _ _ body => body.reach
  | atomic body => body.reach
  | ahead _ body => body.reach
  | turns _ _ _ body => body.reach
  | behind _ body => max body.width.1 body.reach

end Node

end JogShuttle.Pattern
