import JogShuttle.Text.Literal

/-!
# Tracing flags

Three kinds of tracing can be switched on by letters on the command line or by directives in a rule
file: which section is chosen for a window, what slots compile to, and what keys send.
-/

set_option autoImplicit false

namespace JogShuttle

structure DebugFlags where
  regex : Bool := false
  strokes : Bool := false
  keys : Bool := false
deriving DecidableEq, Inhabited

namespace DebugFlags

/-- All flags of either. -/
def union (a b : DebugFlags) : DebugFlags :=
  ⟨a.regex || b.regex, a.strokes || b.strokes, a.keys || b.keys⟩

/-- The flag that a directive in a rule file switches on. -/
def ofDirective? (word : String) : Option DebugFlags :=
  if word = "DEBUG_REGEX" then some { regex := true }
  else if word = "DEBUG_STROKES" then some { strokes := true }
  else if word = "DEBUG_KEYS" then some { keys := true }
  else none

/-- The flags named by letters, or the letters that name none: each once, in order. -/
def ofLetters (letters : String) : Except String DebugFlags :=
  let cs := letters.toList
  let unknown := cs.filter fun c => !(c == 'r' || c == 's' || c == 'k')
  if unknown.isEmpty then
    .ok ⟨cs.contains 'r', cs.contains 's', cs.contains 'k'⟩
  else
    .error (String.ofList (unknown.eraseDups.mergeSort fun a b => a.val ≤ b.val))

def unknownLettersMessage (letters : String) : String :=
  "unknown debugging option " ++ Text.literal letters ++ ", must be r, s or k"

/-- The letters that switch on every flag. -/
def everyLetter : String := "rsk"

/-- The names of the flags that are on. -/
def names (d : DebugFlags) : List String :=
  (if d.regex then ["regex"] else []) ++ (if d.strokes then ["strokes"] else []) ++
    (if d.keys then ["keys"] else [])

/-- The flags among the given names. -/
def ofNames (names : List String) : DebugFlags :=
  ⟨names.contains "regex", names.contains "strokes", names.contains "keys"⟩

theorem union_self (d : DebugFlags) : d.union d = d := by
  simp [union]

theorem union_none (d : DebugFlags) : d.union {} = d := by
  simp [union]

theorem none_union (d : DebugFlags) : DebugFlags.union {} d = d := by
  simp [union]

theorem union_comm (a b : DebugFlags) : a.union b = b.union a := by
  simp [union, Bool.or_comm]

theorem union_assoc (a b c : DebugFlags) : (a.union b).union c = a.union (b.union c) := by
  simp [union, Bool.or_assoc]

end DebugFlags

end JogShuttle
