import JogShuttle.Keysym
import JogShuttle.Rule.Diagnostic
import JogShuttle.Rule.Token
import JogShuttle.Text.Printable

/-!
# The output of a rule line

The tokens behind a designator are quoted texts, which type their printable characters, and keysym
names with or without a suffix. The boundary word stands alone; a comment ends the line.
-/

set_option autoImplicit false

namespace JogShuttle

/-- The steps that an output stands for, and the problems met on the way. -/
structure Output where
  steps : List Step
  problems : List Problem
deriving DecidableEq, Inhabited

namespace Output

def nothing : Output := ⟨[], []⟩

def append (a b : Output) : Output := ⟨a.steps ++ b.steps, a.problems ++ b.problems⟩

instance : Append Output := ⟨append⟩

def step (s : Step) : Output := ⟨[s], []⟩

def problem (p : Problem) : Output := ⟨[], [p]⟩

/-- The word between the two halves of a key. -/
def boundaryWord : String := "RELEASE"

/-- A word that starts so begins a comment. -/
def commentStart : Char := '#'

def isComment (word : List Char) : Bool := word.head? == some commentStart

/-- The characters of a quoted text that are typed. -/
def ofText (cs : List Char) : Output :=
  ⟨(cs.filter Text.isPrintable).map fun c => .tap (.ofChar c), []⟩

/-- A step on a named symbol. -/
def ofName (names : KeysymTable) (mark : Mark) (name : String) : Output :=
  match names.resolve name with
  | some s => step ⟨mark, some s⟩
  | none => problem (.unknownKeysym name)

/-- The mark that a suffix asks for, by its first letter in either case. -/
def markOf? (suffix : List Char) : Option Mark :=
  match suffix.head? with
  | some 'D' | some 'd' => some .down
  | some 'U' | some 'u' => some .up
  | some 'H' | some 'h' => some .hold
  | _ => none

/-- A named symbol with a suffix; a suffix that asks for nothing counts as down. -/
def ofSuffixed (names : KeysymTable) (name : String) (suffix : List Char) : Output :=
  match markOf? suffix with
  | some m => ofName names m name
  | none => problem (.invalidModifier (String.ofList suffix)) ++ ofName names .down name

def boundary (isKey : Bool) : Output :=
  if isKey then step .boundary else problem .boundaryIgnored

/-- The output written by tokens. A word with a suffix takes the token behind it too. -/
def ofTokens (names : KeysymTable) (isKey : Bool) : List Token → Output
  | [] => nothing
  | t :: ts =>
    if t.quoted then ofText t.text ++ ofTokens names isKey ts
    else if isComment t.text then nothing
    else
      let name := String.ofList t.text
      if t.hasSuffix then
        match ts with
        | [] => if name = boundaryWord then boundary isKey else problem (.missingModifier name)
        | suffix :: rest =>
          (if name = boundaryWord then boundary isKey else ofSuffixed names name suffix.text) ++
            ofTokens names isKey rest
      else
        (if name = boundaryWord then boundary isKey else ofName names .tap name) ++
          ofTokens names isKey ts

end Output

end JogShuttle
