import JogShuttle.CommandLine
import JogShuttle.Program.World

/-!
# Checking a rule file

The check prints every problem of a rule file, and every section with what its slots send. It fails
if there is any problem.
-/

set_option autoImplicit false

namespace JogShuttle.Check

/-- What a check prints and logs, and its exit status. -/
structure Report where
  status : Nat
  out : List String := []
  err : List String := []
  logs : List Record := []
deriving DecidableEq

def slotLine (names : KeysymTable) (b : Slot × List Stroke) : String :=
  "    " ++ b.1.text ++ ": " ++ names.format b.2

def sectionHeading (s : Section) : String :=
  "[" ++ s.name ++ "] " ++ (if s.isDefault then "(default)" else s.patternSource)

/-- A section with the slots that it binds. -/
def sectionLines (names : KeysymTable) (s : Section) : List String :=
  sectionHeading s :: s.listing.map (slotLine names)

def diagnosticLine (path : String) (d : Diagnostic) : String := path ++ ": " ++ d.text

/-- The report on a rule file that has been compiled. -/
def report (v : Vocabulary) (path : String) (quiet : Bool) (reading : Reading Table)
    (table : Table) : Report where
  status := if reading.diagnostics.isEmpty then 0 else 1
  out := if quiet then [] else table.sections.flatMap (sectionLines v.keysyms)
  err := reading.diagnostics.map (diagnosticLine path)
  logs := reading.notes.map Note.record

/-- Checks a file. -/
def run (v : Vocabulary) (path : String) (quiet : Bool) (f : FileView) : Except Escape Report :=
  match f.read with
  | .error e => .error (.read e)
  | .ok text =>
    let reading := Rule.compile v {} text
    match reading.result with
    | .error e => .error (.stop (.fault e))
    | .ok table => .ok (report v path quiet reading table)

inductive Key where
  | quiet
deriving DecidableEq

def grammar : CommandLine.Grammar Key where
  switches := [⟨["-h", "--help"], .flag, none⟩, ⟨["-q", "--quiet"], .flag, some .quiet⟩]
  needsOperand := true

/-- The file that a command line names, and whether only problems are wanted. -/
structure Request where
  path : Path
  quiet : Bool
deriving DecidableEq

def readRequest (words : List String) : Except CommandLine.Exit Request := do
  let p ← CommandLine.parse grammar words
  return ⟨.ofText (p.operand.getD ""), !p.given.isEmpty⟩

/-- The check as a command. -/
def command (v : Vocabulary) (w : World) (words : List String) : Except Escape Report :=
  match readRequest words with
  | .error e => .ok { status := e.status }
  | .ok r =>
    if r.path.isProper then run v r.path.text r.quiet (w.file r.path) else .error .improperPath

end JogShuttle.Check
