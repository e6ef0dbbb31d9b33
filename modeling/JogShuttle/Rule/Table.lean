import JogShuttle.Debug
import JogShuttle.Pattern
import JogShuttle.Rule.Diagnostic

/-!
# Tables

A table holds the sections of a rule file in file order. The first section whose pattern is found in
the window's title governs the window; the default section is the last resort, wherever it stands,
and also supplies what the governing section leaves unbound.
-/

set_option autoImplicit false

namespace JogShuttle

/-- A section without a pattern is meant for every window. Slots bound to nothing are left out. -/
structure Section where
  name : String
  pattern : Option Pattern := none
  bindings : List (Slot × List Stroke) := []
deriving Inhabited

namespace Section

def isDefault (s : Section) : Bool := s.pattern.isNone

def matches? (s : Section) (window : String) : Bool :=
  match s.pattern with
  | none => true
  | some p => p.search window

/-- Whether the section's match in a title has a captured stretch that ends before it starts. -/
def crosses (s : Section) (window : String) : Bool := s.pattern.any (·.crosses window)

def binding (s : Section) (slot : Slot) : Option (List Stroke) := s.bindings.lookup slot

/-- Binds a slot that is not bound yet; an empty sequence leaves it unbound. -/
def bind (s : Section) (slot : Slot) (strokes : List Stroke) : Except Fault Section :=
  if (s.binding slot).isSome then .error (.bound slot s.name)
  else if strokes.isEmpty then .ok s
  else .ok { s with bindings := s.bindings ++ [(slot, strokes)] }

/-- The bound slots in listing order. -/
def listing (s : Section) : List (Slot × List Stroke) :=
  Slot.all.filterMap fun slot => (s.binding slot).map fun strokes => (slot, strokes)

def patternSource (s : Section) : String := (s.pattern.map (·.source)).getD ""

def describe (s : Section) : String :=
  "<TranslationSection [" ++ s.name ++ "] " ++ Text.literal s.patternSource ++ " (" ++
    toString s.bindings.length ++ " bindings)>"

theorem bind_of_bound {s : Section} {slot : Slot} {old : List Stroke} (strokes : List Stroke)
    (h : s.binding slot = some old) : s.bind slot strokes = .error (.bound slot s.name) := by
  simp [bind, h]

end Section

/-- Sections are referred to by their positions; the default one is such a position. -/
structure Table where
  sections : List Section := []
  default : Option Nat := none
  debug : DebugFlags := {}
deriving Inhabited

namespace Table

def sectionAt (t : Table) (i : Option Nat) : Option Section := i.bind (t.sections[·]?)

/-- The section that governs a window. -/
def sectionFor (t : Table) (window : String) : Option Nat :=
  match t.sections.findIdx? fun s => !s.isDefault && s.matches? window with
  | some i => some i
  | none => t.default

/-- Whether the search that chose the section of a window came to a match that is no proper one. -/
def crosses (t : Table) (window : String) : Bool :=
  (t.sectionAt (t.sectionFor window)).any (·.crosses window)

/-- What a slot sends in a section. -/
def resolve (t : Table) (i : Option Nat) (slot : Slot) : List Stroke :=
  let own := (t.sectionAt i).bind (·.binding slot)
  let fallback := (t.sectionAt t.default).bind (·.binding slot)
  (own <|> fallback).getD []

def isBound (t : Table) (i : Option Nat) (slot : Slot) : Bool := !(t.resolve i slot).isEmpty

/-- The slots that send something in a section, in listing order. -/
def bound (t : Table) (i : Option Nat) : List (Slot × List Stroke) :=
  (Slot.all.filter (t.isBound i)).map fun slot => (slot, t.resolve i slot)

end Table

end JogShuttle
