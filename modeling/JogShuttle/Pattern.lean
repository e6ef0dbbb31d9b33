import JogShuttle.Pattern.Ending
import JogShuttle.Pattern.Match
import JogShuttle.Pattern.Reader

/-!
# Patterns

A section of a rule file names the windows it is meant for by a pattern that is searched for in the
window's title.
-/

set_option autoImplicit false

namespace JogShuttle

/-- A pattern that has been read, with the text it was read from. -/
structure Pattern where
  source : String
  program : Pattern.Program
deriving Inhabited

namespace Pattern

/-- No look-behind steps back this far. -/
def reachLimit : Nat := 0x80000000

def read (source : String) : Except Failure Pattern := do
  let (mode, node) ← Node.read source.toList
  if node.reach ≥ reachLimit ∨ node.isBroken mode then throw (.fault .program)
  return ⟨source, .ofNode mode node⟩

/-- What a search for the pattern in a text comes to. -/
def find (p : Pattern) (text : String) : Found := p.program.search text.toList.toArray

/-- Whether the pattern matches somewhere in a text. -/
def search (p : Pattern) (text : String) : Bool := p.find text != .nothing

/-- Whether the match in a text has a captured stretch that ends before it starts. -/
def crosses (p : Pattern) (text : String) : Bool := p.find text == .crossed

/-- The report on such a match. -/
def crossedMessage : String :=
  "The span of capturing group is wrong, please report a bug for the re module."

theorem source_of_read {source : String} {p : Pattern} (h : read source = .ok p) :
    p.source = source := by
  unfold read at h
  cases hr : Node.read source.toList with
  | error e => rw [hr] at h; cases h
  | ok r =>
    rw [hr] at h
    simp only [bind, Except.bind, throw, throwThe, MonadExceptOf.throw, pure, Except.pure] at h
    split at h
    · cases h
    · cases h; rfl

end Pattern

end JogShuttle
