import JogShuttle.Rule.Compile
import JogShuttle.SystemError
import JogShuttle.Text.Utf8

/-!
# The rule file

The table in effect follows the rule file. A refresh looks at the modification time, and compiles
the whole file when it is newer than the one recorded last. If the file cannot be looked at, read or
decoded, the table stays as it is and the reason is reported once.
-/

set_option autoImplicit false

namespace JogShuttle

/-- A file at one moment: its modification time and its bytes, or why they cannot be had. -/
structure FileView where
  modified : Except SystemError Int
  content : Except SystemError (List UInt8)
deriving Inhabited

inductive ReadError where
  | system (e : SystemError)
  | encoding (e : Text.Utf8.Error)

def ReadError.message : ReadError → String
  | system e => e.message
  | encoding e => e.message

namespace FileView

/-- Nothing is there. -/
def missing (file : String) : FileView :=
  ⟨.error (.missing file), .error (.missing file)⟩

/-- The text of a file, with its line ends unified. -/
def read (f : FileView) : Except ReadError String := do
  let bytes ← f.content.mapError .system
  let cs ← (Text.Utf8.decode bytes).mapError .encoding
  return String.ofList (Text.unifyNewlines cs)

end FileView

/-- Where rules come from, what their words mean, and the flags that they start from. -/
structure RuleSource where
  vocabulary : Vocabulary
  path : String
  debug : DebugFlags := {}

/-- The table in effect and what is remembered of the file. -/
structure RuleFile where
  table : Table
  diagnostics : List Diagnostic := []
  builds : Nat := 0
  seen : Option Int := none
  lastError : Option String := none

/-- What a refresh leaves behind. -/
structure Refresh where
  file : RuleFile
  logs : List Record := []
  fault : Option Fault := none

namespace RuleFile

/-- Before the first refresh the table is empty. -/
def initial (s : RuleSource) : RuleFile := { table := { debug := s.debug } }

/-- The rules stay in effect; the reason is reported unless it is the one reported last. -/
def fail (r : RuleFile) (s : RuleSource) (reason : String) : Refresh :=
  let message := s.path ++ ": " ++ reason
  { file := { r with lastError := some message }
    logs :=
      if r.lastError = some message then []
      else [.warning ("Unable to read configuration, keeping previous rules: " ++ message)] }

/-- Puts the rules of a text into effect. -/
def build (r : RuleFile) (s : RuleSource) (text : String) : Refresh :=
  let reading := Rule.compile s.vocabulary s.debug text
  let logs := reading.notes.map Note.record
  match reading.result with
  | .error f => { file := r, logs, fault := some f }
  | .ok table =>
    { file := { r with
        table, diagnostics := reading.diagnostics, builds := r.builds + 1, lastError := none }
      logs }

/-- A modification time of zero is still newer than none at all. -/
def stamp (time : Int) : Int := if time = 0 then 1 else time

def isNews (r : RuleFile) (time : Int) : Bool :=
  match r.seen with
  | none => true
  | some seen => seen < time

/-- Reads the file at its new time, which is recorded whatever comes of it. -/
def load (r : RuleFile) (s : RuleSource) (time : Int) (f : FileView) : Refresh :=
  let r := { r with seen := some time }
  match f.read with
  | .error e => r.fail s e.message
  | .ok text => r.build s text

def refresh (r : RuleFile) (s : RuleSource) (f : FileView) : Refresh :=
  match f.modified with
  | .error e => r.fail s e.message
  | .ok time => if r.isNews (stamp time) then r.load s (stamp time) f else { file := r }

end RuleFile

end JogShuttle
