import JogShuttle.Log
import JogShuttle.Pattern.Failure
import JogShuttle.Sequence
import JogShuttle.Slot

/-!
# Problems of a rule file

A diagnostic says what is wrong with one line. Problems cost at most the line or section they are
in. Only a fault stops the reading of a file.
-/

set_option autoImplicit false

namespace JogShuttle

inductive Problem where
  | outsideSection (word : String)
  | badSlot (word : String)
  | redefined
  | unterminatedHeader (line : String)
  | replacesDefault (name previous : String)
  | badPattern (name reason : String)
  | boundaryIgnored
  | missingModifier (name : String)
  | invalidModifier (text : String)
  | unknownKeysym (name : String)
deriving DecidableEq, Inhabited

def Problem.message : Problem → String
  | outsideSection w => "need to start a translation section before defining " ++ w
  | badSlot w => "bad key name: " ++ w
  | redefined => "can't redefine key"
  | unterminatedHeader l => "unterminated section header: " ++ l
  | replacesDefault n p => "default section [" ++ n ++ "] replaces default section [" ++ p ++ "]"
  | badPattern n r => "error compiling regex for [" ++ n ++ "]: " ++ r
  | boundaryIgnored => "RELEASE only applies to key slots, ignored"
  | missingModifier n => "missing up/down modifier after " ++ n ++ "/"
  | invalidModifier t => "invalid up/down modifier: " ++ t
  | unknownKeysym n => "unrecognized KeySym: " ++ n

/-- A problem with its line, counted from one, and with the section open there and the slot being
defined. -/
structure Diagnostic where
  line : Nat
  problem : Problem
  sectionName : Option String := none
  designator : Option String := none
deriving DecidableEq, Inhabited

def Diagnostic.text (d : Diagnostic) : String :=
  let place := match d.sectionName with
    | none => ""
    | some s => " [" ++ s ++ "]" ++ d.designator.getD ""
  "line " ++ toString d.line ++ place ++ ": " ++ d.problem.message

/-- What stops the reading of a rule file. -/
inductive Fault where
  | digits (count : Nat)
  | pattern (fault : Pattern.Fault)
  | build (error : BuildError)
  | bound (slot : Slot) (sectionName : String)
deriving DecidableEq, Inhabited

def Fault.message : Fault → String
  | digits n => Text.digitLimitMessage n
  | pattern .repetition => "the repetition number is too large"
  | pattern (.digits n) => Text.digitLimitMessage n
  | pattern .flags => "ASCII and UNICODE flags are incompatible"
  | pattern .program => "invalid SRE code"
  | pattern .nesting => "maximum recursion depth exceeded"
  | build e => e.message
  | bound s n => s.text ++ " is already bound in [" ++ n ++ "]"

/-- What is noted while a rule file is read. -/
inductive Note where
  | diagnostic (d : Diagnostic)
  | trace (text : String)
deriving DecidableEq, Inhabited

def Note.record : Note → Record
  | diagnostic d => .warning d.text
  | trace t => .info t

/-- A step of reading: its notes, and its result unless a fault stopped it. -/
structure Reading (α : Type) where
  notes : List Note
  result : Except Fault α

namespace Reading

variable {α β : Type}

def ok (a : α) : Reading α := ⟨[], .ok a⟩

def note (n : Note) : Reading Unit := ⟨[n], .ok ()⟩

def fault (f : Fault) : Reading α := ⟨[], .error f⟩

protected def bind (r : Reading α) (f : α → Reading β) : Reading β :=
  match r.result with
  | .error e => ⟨r.notes, .error e⟩
  | .ok a => ⟨r.notes ++ (f a).notes, (f a).result⟩

instance : Monad Reading where
  pure := ok
  bind := Reading.bind

def diagnostics (r : Reading α) : List Diagnostic :=
  r.notes.filterMap fun
    | .diagnostic d => some d
    | .trace _ => none

def traces (r : Reading α) : List String :=
  r.notes.filterMap fun
    | .diagnostic _ => none
    | .trace t => some t

theorem bind_ok (a : α) (f : α → Reading β) : Reading.bind (ok a) f = f a := by
  simp [Reading.bind, ok]

theorem bind_fault (e : Fault) (f : α → Reading β) : Reading.bind (fault e) f = fault e := rfl

end Reading

end JogShuttle
