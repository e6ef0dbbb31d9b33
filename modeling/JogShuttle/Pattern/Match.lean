import JogShuttle.Pattern.Program

/-!
# Matching patterns

A program runs from a place of a text. Where it has a choice it tries one way after the other. Two
things outlive a way that failed: the place that was noted last, and marks that were set over older
ones. A possessive repetition goes on from the place noted last, whatever noted it, and the marks of
a failed way are taken back in full only within turns that can be given back.
-/

set_option autoImplicit false

namespace JogShuttle.Pattern

/-- The place noted last, and the marks at the ends of the groups. -/
structure Trail where
  place : Nat
  marks : List (Option Nat) := []
deriving Inhabited

namespace Trail

def note (t : Trail) (place : Nat) : Trail := { t with place }

/-- Sets a mark. Those before it that were never set are unset. -/
def mark (t : Trail) (index place : Nat) : Trail :=
  if index < t.marks.length then { t with marks := t.marks.set index (some place) }
  else
    { t with
      marks := t.marks ++ List.replicate (index - t.marks.length) none ++ [some place] }

/-- Takes marks back that were set since. Outside of turns only the further ones are dropped. -/
def takeBack (nested : Bool) (saved : List (Option Nat)) (t : Trail) : Trail :=
  { t with marks := if nested then saved else t.marks.take saved.length }

/-- The stretch that a group has captured. -/
def capture? (t : Trail) (group : Nat) : Option (Nat × Nat) :=
  match t.marks[openMark group]?.join, t.marks[closeMark group]?.join with
  | some first, some last => if first ≤ last then some (first, last) else none
  | _, _ => none

end Trail

/-- Whether the end of some stretch lies before its start. -/
def isCrossed : List (Option Nat) → Bool
  | some first :: some last :: rest => last < first || isCrossed rest
  | _ :: _ :: rest => isCrossed rest
  | _ => false

/-- How a try ended, and the trail it left. -/
structure Try where
  ok : Bool
  trail : Trail
deriving Inhabited

/-- A run from a place with the trail so far. -/
abbrev Run := Nat → Trail → Try

def fail (t : Trail) : Try := ⟨false, t⟩

def wordAt (text : Array Char) (ascii : Bool) (i : Nat) : Bool :=
  match text[i]? with
  | some c => Category.word.holds ascii c
  | none => false

def breakAt (text : Array Char) (i : Nat) : Bool := text[i]? == some '\n'

/-- Whether a word begins or ends at a place. -/
def atBoundary (text : Array Char) (ascii : Bool) (i : Nat) : Bool :=
  (0 < i && wordAt text ascii (i - 1)) != wordAt text ascii i

/-- Anchors test a place. In an empty text no place is a boundary, nor is any not one. -/
def Anchor.holds (text : Array Char) (mode : Mode) (i : Nat) : Anchor → Bool
  | textStart => i == 0
  | textEnd => i == text.size
  | lineStart => i == 0 || (mode.multiline && breakAt text (i - 1))
  | lineEnd =>
    i == text.size || (breakAt text i && (mode.multiline || i + 1 == text.size))
  | boundary => text.size != 0 && atBoundary text mode.ascii i
  | noBoundary => text.size != 0 && !atBoundary text mode.ascii i

def CharTest.holdsAt (text : Array Char) (i : Nat) (t : CharTest) : Bool :=
  text[i]?.any t.holds

/-- A test for a set that ignores case notes each place behind a character that it counts. -/
def CharTest.notesPlace : CharTest → Bool
  | foldedSet .. => true
  | _ => false

/-- Whether a stretch of the text stands at a place again. -/
def standsAgain (text : Array Char) (mode : Mode) (first last place : Nat) : Bool :=
  place + (last - first) ≤ text.size &&
    (List.range (last - first)).all fun i =>
      match text[first + i]?, text[place + i]? with
      | some a, some b => CharTest.sameCode mode a.toNat b.toNat
      | _, _ => false

/-- How many characters from a place on satisfy a test, up to a limit. -/
def countChars (text : Array Char) (t : CharTest) (i : Nat) : Nat → Nat
  | 0 => 0
  | n + 1 => if t.holdsAt text i then countChars text t (i + 1) n + 1 else 0

/-- The alternatives of a choice, one after the other. -/
def orElse (nested : Bool) (first others : Run) : Run := fun i t =>
  let r := first i (t.note i)
  if r.ok then r else others i (r.trail.takeBack nested t.marks)

/-- A stretch of characters that is given back one by one. Places where what follows cannot start
are passed over. -/
def giveBack (nested : Bool) (refuses : Nat → Bool) (next : Run) (least : Nat) : Nat → Run
  | 0, i, t => step 0 i t fail
  | extra + 1, i, t => step (extra + 1) i t (giveBack nested refuses next least extra i)
where
  /-- Goes on behind the least number and some more, or else with fewer. -/
  step (extra i : Nat) (t : Trail) (fewer : Trail → Try) : Try :=
    let place := i + least + extra
    if refuses place then fewer t
    else
      let r := next place (t.note place)
      if r.ok then r else fewer (r.trail.takeBack nested t.marks)

/-- A stretch of characters that grows one by one. -/
def growOn (nested : Bool) (text : Array Char) (test : CharTest) (next : Run) : Nat → Run
  | extra, place, t =>
    let r := next place (t.note place)
    if r.ok then r
    else
      let more := test.holdsAt text place
      let back := (r.trail.takeBack nested t.marks).note
        (if more && test.notesPlace then place + 1 else place)
      match extra with
      | 0 => fail back
      | extra + 1 => if more then growOn nested text test next extra (place + 1) back else fail back

/-- Bounds on a number of turns. -/
structure Bounds where
  least : Nat
  most : Option Nat

def Bounds.allows (b : Bounds) (count : Nat) : Bool := b.most.all (count < ·)

/-- How many characters a stretch may have from a place on. -/
def Bounds.limit (b : Bounds) (text : Array Char) (i : Nat) : Nat :=
  match b.most with
  | none => text.size - i
  | some m => min m (text.size - i)

/-- A stretch of characters that satisfy one test. -/
def runChars (text : Array Char) (nested : Bool) (greed : Greed) (b : Bounds) (test : CharTest)
    (refuses : Nat → Bool) (next : Run) : Run := fun i t =>
  if text.size - i < b.least then fail t
  else
    let wanted := if greed = .lazy then b.least else b.limit text i
    let count := countChars text test i wanted
    let t := t.note (if test.notesPlace then i + count else i)
    if count < b.least then fail t
    else
      match greed with
      | .greedy => giveBack nested refuses next b.least (count - b.least) i t
      | .lazy => growOn nested text test next (b.limit text i - b.least) (i + b.least) t
      | .possessive => next (i + count) t

/-- As many turns as possible first. After the least number, a turn that starts where the turn
before it started is not taken. -/
def greedyTurns (b : Bounds) (body : Run → Run) (tail : Run) : Nat → Nat → Option Nat → Run
  | 0, _, _, _, t => fail t
  | n + 1, count, last, i, t =>
    if count < b.least then body (greedyTurns b body tail n (count + 1) last) i t
    else if b.allows count && last != some i then
      let r := body (greedyTurns b body tail n (count + 1) (some i)) i t
      if r.ok then r else tail i { r.trail with marks := t.marks }
    else tail i t

/-- As few turns as possible first. -/
def lazyTurns (b : Bounds) (nested : Bool) (body : Run → Run) (tail : Run) :
    Nat → Nat → Option Nat → Run
  | 0, _, _, _, t => fail t
  | n + 1, count, last, i, t =>
    if count < b.least then body (lazyTurns b nested body tail n (count + 1) last) i t
    else
      let r := tail i t
      if r.ok then r
      else
        let back := r.trail.takeBack nested t.marks
        if b.allows count && last != some i then
          body (lazyTurns b nested body tail n (count + 1) (some i)) i back
        else fail back

/-- As many turns as possible, each in its first way, and none of them given back. Each starts at
the place noted last, and so does what follows, also after a turn that failed. -/
def possessiveTurns (b : Bounds) (body tail : Run) (start : Nat) :
    Nat → Nat → Option Nat → Trail → Try
  | 0, _, _, t => fail t
  | n + 1, count, last, t =>
    if count < b.least then
      let r := body t.place t
      if r.ok then possessiveTurns b body tail start n (count + 1) last r.trail
      else fail (r.trail.note start)
    else if b.allows count && last != some t.place then
      let r := body t.place t
      if r.ok then possessiveTurns b body tail start n (count + 1) (some t.place) r.trail
      else tail r.trail.place { r.trail with marks := t.marks }
    else tail t.place t

/-- Beyond the least number every turn but the last moves on, so that the length of the text bounds
their number; the bound leaves room for turns that move back. -/
def turnFuel (text : Array Char) (b : Bounds) : Nat := b.least + (text.size + 2) * (text.size + 2)

/-- The turns of a repetition. When they fail, their start is the place noted. -/
def runTurns (text : Array Char) (nested : Bool) (greed : Greed) (b : Bounds) (body : Run → Run)
    (tail : Run) : Run := fun i t =>
  let fuel := turnFuel text b
  match greed with
  | .greedy => noting (greedyTurns b body tail fuel 0 none i (t.note i)) i
  | .lazy => noting (lazyTurns b nested body tail fuel 0 none i (t.note i)) i
  | .possessive => possessiveTurns b (body fun _ => fail) tail i fuel 0 none (t.note i)
where
  noting (r : Try) (i : Nat) : Try := if r.ok then r else fail (r.trail.note i)

/-- Runs a program. `nested` holds within turns that can be given back, and `again` is the way to
the next of them. -/
def Code.run (text : Array Char) : Code → Bool → Run → Run
  | done, _, _, i, t => ⟨true, t.note i⟩
  | again, _, resume, i, t => resume i t
  | never, _, _, _, t => fail t
  | leap next, nested, resume, i, t => next.run text nested resume i t
  | test c next, nested, resume, i, t =>
    if c.holdsAt text i then next.run text nested resume (i + 1) t else fail t
  | anchor kind mode next, nested, resume, i, t =>
    if kind.holds text mode i then next.run text nested resume i t else fail t
  | mark index next, nested, resume, i, t => next.run text nested resume i (t.mark index i)
  | same g mode next, nested, resume, i, t =>
    match t.capture? g with
    | some (first, last) =>
      if standsAgain text mode first last i then
        next.run text nested resume (i + (last - first)) t
      else fail t
    | none => fail t
  | branch first others, nested, resume, i, t =>
    if first.refuses text[i]? then others.run text nested resume i t
    else orElse nested (first.run text nested resume) (others.run text nested resume) i t
  | chars greed least most c next, nested, resume, i, t =>
    let refuses place := next.firstCode?.any fun n => !(CharTest.code n).holdsAt text place
    runChars text nested greed ⟨least, most⟩ c refuses (next.run text nested resume) i t
  | turns greed least most body next, nested, resume, i, t =>
    let turn again := body.run text (nested || greed != .possessive) again
    runTurns text nested greed ⟨least, most⟩ turn (next.run text nested resume) i t
  | atomic body next, nested, resume, i, t =>
    let r := body.run text nested resume i (t.note i)
    if r.ok then next.run text nested resume r.trail.place r.trail else fail (r.trail.note i)
  | either g yes no, nested, resume, i, t =>
    if (t.capture? g).isSome then yes.run text nested resume i t
    else no.run text nested resume i t
  | look negated back body next, nested, resume, i, t =>
    if i < back then
      if negated then next.run text nested resume i t else fail t
    else
      let r := body.run text nested resume (i - back) (t.note (i - back))
      if negated then
        if r.ok then fail r.trail
        else next.run text nested resume i (r.trail.takeBack nested t.marks)
      else if r.ok then next.run text nested resume i r.trail
      else r

/-- What a search comes to. A match is crossed if it has a captured stretch whose end lies before
its start. -/
inductive Found where
  | nothing
  | sound
  | crossed
deriving DecidableEq, Inhabited

namespace Program

/-- Where matches are tried to start, in order. -/
def starts (p : Program) (text : Array Char) : List Nat :=
  if text.size < p.least then []
  else
    match p.start with
    | .anywhere => List.range (text.size + 1 - (p.least - 1))
    | .atCharacter => List.range text.size
    | .within t => (List.range text.size).filter (t.holdsAt text ·)

/-- The search for the first match in a text. -/
def search (p : Program) (text : Array Char) : Found :=
  let run := p.code.run text false fun _ => fail
  (p.starts text).findSome? (fun i =>
    let r := run i { place := i }
    if r.ok then some (if isCrossed r.trail.marks then .crossed else .sound) else none)
    |>.getD .nothing

end Program

end JogShuttle.Pattern
