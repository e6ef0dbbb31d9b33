import JogShuttle.Log
import JogShuttle.Text.Utf8

/-!
# The display

A display has windows, of which one has the focus, and a keymap. What is asked of it or done to it
is a call. Only what is asked of a window can fail: the focus is always told.
-/

set_option autoImplicit false

namespace JogShuttle

/-- A window's name as it is stored. -/
inductive WindowName where
  | text (s : String)
  | number (n : Int)
  | bytes (bs : List UInt8)
deriving DecidableEq, Inhabited

def WindowName.title : WindowName → String
  | text s => s
  | number n => toString n
  | bytes bs => String.ofList (Text.Utf8.decodeLossy bs)

/-- What can be asked of a window. -/
inductive Query where
  | name
  | className
  | tree
deriving DecidableEq, Inhabited

/-- A query that fails, with what the error says. -/
structure QueryError where
  query : Query
  text : String
deriving DecidableEq, Inhabited

/-- A window, with the queries that fail on it. -/
structure Window where
  id : Int
  name : Option WindowName := none
  className : List String := []
  parent : Option Int := none
  root : Option Int := none
  errors : List QueryError := []
deriving DecidableEq, Inhabited

/-- What the error says that a query ends in, if it does. -/
def Window.error? (w : Window) (q : Query) : Option String :=
  (w.errors.find? (·.query == q)).map QueryError.text

structure Display where
  windows : List Window := []
  focus : Int := 0
  keycodes : List (Int × Nat) := []
deriving DecidableEq, Inhabited

/-- The kinds of synthetic input. -/
inductive Input where
  | keyPress
  | keyRelease
  | buttonPress
  | buttonRelease
deriving DecidableEq, Inhabited

/-- The code of a kind of input in the protocol of the display. -/
def Input.code : Input → Nat
  | keyPress => 2
  | keyRelease => 3
  | buttonPress => 4
  | buttonRelease => 5

inductive Call where
  | query (q : Query) (window : Int)
  | input (kind : Input) (detail : Nat)
  | flush
  | close
deriving DecidableEq, Inhabited

/-- What is done at the display or reported about it. -/
inductive DisplayAct where
  | call (c : Call)
  | log (r : Record)
deriving DecidableEq, Inhabited

namespace Display

/-- The window of an id; one that was never described has neither name nor place in the tree. -/
def window (d : Display) (id : Int) : Window :=
  (d.windows.find? (·.id == id)).getD { id }

/-- Describes a window anew. -/
def define (d : Display) (w : Window) : Display :=
  { d with windows := w :: d.windows.filter (·.id != w.id) }

/-- The keycode of a keysym; zero if the keymap has none. -/
def keycode (d : Display) (keysym : Int) : Nat := (d.keycodes.lookup keysym).getD 0

theorem window_id (d : Display) (id : Int) : (d.window id).id = id := by
  unfold window
  cases h : d.windows.find? (·.id == id) with
  | none => rfl
  | some w => simpa using List.find?_some h

theorem window_define (d : Display) (w : Window) (id : Int) :
    (d.define w).window id = if id = w.id then w else d.window id := by
  unfold window define
  rw [List.find?_cons]
  by_cases hid : id = w.id
  · simp [hid]
  · have hfind : ∀ v : Window, decide ((v.id != w.id) = true ∧ (v.id == id) = true) = (v.id == id) := by
      intro v
      by_cases hv : v.id = id
      · simp [hv, hid]
      · simp [hv]
    have hne : (w.id == id) = false := by simpa using Ne.symm hid
    rw [hne, if_neg hid, List.find?_filter]
    simp only [hfind]

end Display

end JogShuttle
