import JogShuttle.Rule.Designator
import JogShuttle.Rule.Output
import JogShuttle.Rule.Table
import JogShuttle.Text.Line

/-!
# Compiling rule files

A rule file is a preamble and a list of blocks; a block is a header line with the lines up to the
next header. A header opens a section for a pattern, or the default section if its pattern is empty.
Every other line defines a slot of the open section or switches on a tracing flag. A line with a
problem is skipped, and so is the whole block under a header with one.
-/

set_option autoImplicit false

namespace JogShuttle

/-- What the words of a rule file mean. -/
structure Vocabulary where
  keysyms : KeysymTable
  readPattern : String → Except Pattern.Failure Pattern

def Vocabulary.standard : Vocabulary := ⟨.standard, Pattern.read⟩

namespace Rule

/-- A trimmed line with its number, counted from one. -/
structure Line where
  number : Nat
  text : List Char
deriving DecidableEq, Inhabited

namespace Line

def isHeader (l : Line) : Bool := l.text.head? == some '['

/-- Blank lines and comments say nothing. -/
def isIdle (l : Line) : Bool := l.text.isEmpty || Output.isComment l.text

end Line

/-- A header with the lines that belong to it. -/
structure Block where
  header : Line
  body : List Line
deriving DecidableEq, Inhabited

/-- The lines of a text, numbered from the given number on. -/
def numbered : Nat → List (List Char) → List Line
  | _, [] => []
  | n, l :: ls => ⟨n, Text.trim l⟩ :: numbered (n + 1) ls

def linesOf (text : String) : List Line := numbered 1 (Text.lines text.toList)

/-- The lines before the first header, and the blocks. -/
def blocksOf : List Line → List Line × List Block
  | [] => ([], [])
  | l :: ls =>
    let (body, blocks) := blocksOf ls
    if l.isHeader then ([], ⟨l, body⟩ :: blocks) else (l :: body, blocks)

/-- Where a line stands: before any header, under a header that opened no section, or in an open
section with the designators that have been defined in it. -/
inductive Scope where
  | outside
  | discarded
  | within (current : Section) (defined : List String)
deriving Inhabited

def Scope.sectionName : Scope → Option String
  | within s _ => some s.name
  | _ => none

/-- The state between two lines of a block. -/
structure Draft where
  debug : DebugFlags
  scope : Scope
deriving Inhabited

def report (line : Nat) (sectionName : Option String) (designator : Option String)
    (problem : Problem) : Reading Unit :=
  .note (.diagnostic { line, problem, sectionName, designator })

def reportAll (line : Nat) (sectionName : Option String) (designator : Option String) :
    List Problem → Reading Unit
  | [] => .ok ()
  | p :: ps => do
    report line sectionName designator p
    reportAll line sectionName designator ps

def orFault {α : Type} : Except Fault α → Reading α
  | .ok a => .ok a
  | .error f => .fault f

/-- Traces what a slot was bound to. -/
def traceSlot (v : Vocabulary) (debug : DebugFlags) (slot : Slot) (strokes : List Stroke) :
    Reading Unit :=
  if debug.strokes then .note (.trace (slot.text ++ ": " ++ v.keysyms.format strokes))
  else .ok ()

/-- Binds both halves of a key, or the only half of another slot. -/
def bindTarget (v : Vocabulary) (debug : DebugFlags) (s : Section) (t : Target) (h : Halves) :
    Reading Section := do
  let s ← orFault (s.bind t.slot h.press)
  match t.release with
  | none =>
    traceSlot v debug t.slot h.press
    return s
  | some slot =>
    let s ← orFault (s.bind slot h.release)
    traceSlot v debug t.slot h.press
    traceSlot v debug slot h.release
    return s

/-- The section with the slot of a target defined by tokens. -/
def define (v : Vocabulary) (debug : DebugFlags) (number : Nat) (s : Section) (t : Target)
    (tokens : List Token) : Reading Section := do
  let output := Output.ofTokens v.keysyms t.isKey tokens
  reportAll number s.name t.slot.designator output.problems
  let halves ← orFault ((Halves.ofSteps? t.isKey output.steps).mapError .build)
  bindTarget v debug s t halves

/-- A slot line of an open section: its first definition counts. -/
def slotLine (v : Vocabulary) (debug : DebugFlags) (number : Nat) (s : Section)
    (defined : List String) (first : Token) (tokens : List Token) : Reading Scope := do
  let word := String.ofList first.text
  let target ←
    if first.quoted then pure none
    else orFault ((Target.ofDesignator? first.text).mapError .digits)
  match target with
  | none =>
    report number s.name word (.badSlot word)
    return .within s defined
  | some t =>
    let designator := t.slot.designator
    if defined.contains designator then
      report number s.name designator .redefined
      return .within s defined
    else
      let s ← define v debug number s t tokens
      return .within s (designator :: defined)

/-- One line that is no header. -/
def bodyLine (v : Vocabulary) (d : Draft) (l : Line) : Reading Draft :=
  if l.isIdle then .ok d
  else
    match Token.all l.text with
    | [] => .ok d
    | first :: tokens =>
      let word := String.ofList first.text
      let directive := if first.quoted then none else DebugFlags.ofDirective? word
      match directive, d.scope with
      | some flag, _ => .ok { d with debug := d.debug.union flag }
      | none, .discarded => .ok d
      | none, .outside => do
        report l.number none none (.outsideSection word)
        return d
      | none, .within s defined => do
        return { d with scope := ← slotLine v d.debug l.number s defined first tokens }

def bodyLines (v : Vocabulary) (d : Draft) : List Line → Reading Draft
  | [] => .ok d
  | l :: ls => do bodyLines v (← bodyLine v d l) ls

/-- The name and the pattern text of a header, unless its bracket is never closed. -/
def headerParts? (header : List Char) : Option (String × String) :=
  let name := (header.drop 1).takeWhile (· != ']')
  match (header.drop 1).dropWhile (· != ']') with
  | [] => none
  | _ :: pattern => some (String.ofList name, String.ofList (Text.trim pattern))

/-- The section that a header opens, if it opens one. -/
def openSection (v : Vocabulary) (t : Table) (header : Line) : Reading (Option Section) :=
  match headerParts? header.text with
  | none => do
    report header.number none none (.unterminatedHeader (String.ofList header.text))
    return none
  | some (name, source) => do
    if t.debug.strokes then
      Reading.note (.trace ("------------------------ [" ++ name ++ "] " ++ source))
    if source.isEmpty then
      match t.sectionAt t.default with
      | some old => report header.number none none (.replacesDefault name old.name)
      | none => pure ()
      return some { name }
    else
      match v.readPattern source with
      | .ok pattern => return some { name, pattern }
      | .error (.fault f) => .fault (.pattern f)
      | .error (.flaw flaw place) =>
        let reason := Pattern.describeFlaw source.toList flaw place
        report header.number none none (.badPattern name reason)
        return none

/-- Adds a section; one without a pattern becomes the default. -/
def addSection (t : Table) (s : Section) : Table where
  sections := t.sections ++ [s]
  default := if s.isDefault then some t.sections.length else t.default
  debug := t.debug

/-- The table with the block's section. -/
def compileBlock (v : Vocabulary) (t : Table) (b : Block) : Reading Table := do
  let scope := match ← openSection v t b.header with
    | some s => .within s []
    | none => .discarded
  let d ← bodyLines v ⟨t.debug, scope⟩ b.body
  let t := { t with debug := d.debug }
  match d.scope with
  | .within s _ => return addSection t s
  | _ => return t

def compileBlocks (v : Vocabulary) (t : Table) : List Block → Reading Table
  | [] => .ok t
  | b :: bs => do compileBlocks v (← compileBlock v t b) bs

/-- The table that a rule file compiles to, starting from the given flags. -/
def compile (v : Vocabulary) (debug : DebugFlags) (text : String) : Reading Table := do
  let (preamble, blocks) := blocksOf (linesOf text)
  let d ← bodyLines v ⟨debug, .outside⟩ preamble
  compileBlocks v { debug := d.debug } blocks

end Rule

end JogShuttle
