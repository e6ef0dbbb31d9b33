import JogShuttle.Pattern.Syntax
import JogShuttle.Text.Blank
import JogShuttle.Text.Case
import JogShuttle.Text.Letter

/-!
# Tests on single characters

A node that takes one character becomes a test once its mode is known. Case is ignored by comparing
lower cases, and only where the test could tell the cases apart.
-/

set_option autoImplicit false

namespace JogShuttle.Pattern

def lower (ascii : Bool) (n : Nat) : Nat :=
  if ascii && n ≥ 128 then n else Text.lowerCode n

/-- The code points whose lower case is the given one or counts as equal to it. -/
def caseVariants (ascii : Bool) (low : Nat) : List Nat :=
  if ascii then
    if 97 ≤ low ∧ low ≤ 122 then [low, low - 32]
    else if 65 ≤ low ∧ low ≤ 90 then [] else [low]
  else (Text.lowerEquals low).flatMap Text.lowerSources

def isCased (ascii : Bool) (n : Nat) : Bool :=
  if ascii then Text.hasAsciiCased n n else Text.isCased n

def hasCased (ascii : Bool) (first last : Nat) : Bool :=
  if ascii then Text.hasAsciiCased first last else Text.hasCased first last

/-- The last code point of the basic plane. -/
def planeEnd : Nat := 0xffff

def Category.holds (ascii : Bool) (c : Char) : Category → Bool
  | digit => if ascii then '0' ≤ c && c ≤ '9' else Text.isDigit c
  | space =>
    if ascii then c == ' ' || ('\t' ≤ c && c ≤ '\r') else Text.isBlank c
  | word =>
    if ascii then c.val < 128 && (c.isAlphanum || c == '_') else Text.isWord c

namespace Item

/-- Membership of a character in an item of a set, case being observed. -/
def holds (ascii : Bool) (c : Char) : Item → Bool
  | code n => c.toNat == n
  | range a b => a ≤ c.toNat && c.toNat ≤ b
  | category k negated => k.holds ascii c != negated

/-- Whether ignoring case makes a difference for an item. Beyond the basic plane it is taken to. -/
def minds (ascii : Bool) : Item → Bool
  | code n => isCased ascii n || lower ascii n > planeEnd
  | range a b => b > planeEnd || hasCased ascii a b
  | category .. => false

/-- Membership when case is ignored, of a character whose lower case is `low`; `variants` are the
code points that one stands for. Beyond the basic plane a code point is compared as it is written,
and a range that reaches there also takes what has its upper case inside. -/
def holdsFolded (ascii : Bool) (low : Nat) (variants : List Nat) : Item → Bool
  | code n => if lower ascii n ≤ planeEnd then variants.contains n else low == n
  | range a b =>
    variants.any (fun v => a ≤ v && v ≤ b && v ≤ planeEnd) ||
      (b > planeEnd &&
        ((a ≤ low && low ≤ b) || (a ≤ Text.upperCode low && Text.upperCode low ≤ b)))
  | category k negated => k.holds ascii (Char.ofNat low) != negated

end Item

/-- A test on one character. -/
inductive CharTest where
  | code (n : Nat)
  | notCode (n : Nat)
  | folded (negated ascii : Bool) (low : Nat)
  | any
  | notBreak
  | set (negated ascii : Bool) (items : List Item)
  | foldedSet (negated ascii : Bool) (items : List Item)
deriving DecidableEq, Inhabited

namespace CharTest

def holds (c : Char) : CharTest → Bool
  | code n => c.toNat == n
  | notCode n => c.toNat != n
  | folded negated ascii low => (lower ascii c.toNat == low) != negated
  | any => true
  | notBreak => c != '\n'
  | set negated ascii items => items.any (·.holds ascii c) != negated
  | foldedSet negated ascii items =>
    let low := lower ascii c.toNat
    let variants := caseVariants ascii low
    items.any (·.holdsFolded ascii low variants) != negated

/-- The test for a code point. Where several lower cases count as equal, it is a set. -/
def ofCode (mode : Mode) (n : Nat) (negated : Bool) : CharTest :=
  if mode.ignoreCase && isCased mode.ascii n then
    let low := lower mode.ascii n
    if !mode.ascii && (Text.lowerEquals low).length > 1 then .foldedSet negated false [.code low]
    else .folded negated mode.ascii low
  else if negated then .notCode n else .code n

def ofSet (mode : Mode) (negated : Bool) (items : List Item) : CharTest :=
  if mode.ignoreCase && items.any (·.minds mode.ascii) then .foldedSet negated mode.ascii items
  else .set negated mode.ascii items

/-- The test of a node that takes exactly one character. -/
def ofNode? (mode : Mode) : Node → Option CharTest
  | .code n negated => some (ofCode mode n negated)
  | .any => some (if mode.dotAll then .any else .notBreak)
  | .set negated items => some (ofSet mode negated items)
  | .group none on off body => ofNode? (on.apply off mode) body
  | _ => none

/-- Two code points that count as one in a reference to a group. -/
def sameCode (mode : Mode) (a b : Nat) : Bool :=
  if mode.ignoreCase then lower mode.ascii a == lower mode.ascii b else a == b

end CharTest

end JogShuttle.Pattern
