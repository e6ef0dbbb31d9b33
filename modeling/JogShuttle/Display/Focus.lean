import JogShuttle.Controller
import JogShuttle.Display
import JogShuttle.Text.Radix

/-!
# The focused window

The focus is often on a nameless child, so its title is that of the nearest named window on the way
to the root. A walk is taken only when the focus has moved; in between its result is remembered.
-/

set_option autoImplicit false

namespace JogShuttle

/-- A window at which a walk fails, with what the error says. -/
structure WalkError where
  window : Int
  text : String
deriving DecidableEq, Inhabited

def WalkError.report (e : WalkError) : Record :=
  .warning ("Unable to query window 0x" ++ Text.hexInt e.window ++ ": " ++ e.text)

/-- What a walk finds, the calls it takes, and how it fails, if it does. -/
structure Walk where
  found : Focused := {}
  calls : List Call := []
  failed : Option WalkError := none
deriving DecidableEq, Inhabited

namespace Walk

/-- A walk with calls made before it. -/
def after (calls : List Call) (w : Walk) : Walk := { w with calls := calls ++ w.calls }

/-- What is reported of a walk: its failure. -/
def reports (w : Walk) : List Record := (w.failed.map WalkError.report).toList

def acts (w : Walk) : List DisplayAct := w.calls.map .call ++ w.reports.map .log

end Walk

namespace Window

/-- The title of a window; an empty one counts as none. -/
def title? (w : Window) : Option String :=
  match w.name.map WindowName.title with
  | none => none
  | some t => if t.isEmpty then none else some t

def classText? (w : Window) : Option String :=
  if w.className.isEmpty then none else some (".".intercalate w.className)

/-- Whether no window lies above. -/
def isTop (w : Window) : Bool := w.root.isNone || w.root == some w.id

end Window

namespace Display

/-- The way up from a window, in at most the given number of steps. -/
def walkFrom (d : Display) : Nat → Option Int → Walk
  | 0, _ => {}
  | _, none => {}
  | n + 1, some id =>
    if id = 0 then {}
    else
      let w := d.window id
      let named := Call.query .name id
      match w.error? .name, w.title? with
      | some text, _ => { calls := [named], failed := some ⟨id, text⟩ }
      | none, some title =>
        let calls := [named, .query .className id]
        match w.error? .className with
        | some text => { calls, failed := some ⟨id, text⟩ }
        | none => { calls, found := ⟨some title, w.classText?⟩ }
      | none, none =>
        let calls := [named, .query .tree id]
        match w.error? .tree with
        | some text => { calls, failed := some ⟨id, text⟩ }
        | none => if w.isTop then { calls } else (d.walkFrom n w.parent).after calls

/-- The way up from a window. Without a cycle it meets every described window at most once. -/
def walk (d : Display) (id : Int) : Walk := d.walkFrom (d.windows.length + 1) (some id)

/-- The focus can be on no window at all. -/
def isWindow (id : Int) : Bool := id != 0 && id != 1

/-- The walk from the focus; there is none to take if it is on no window. -/
def focusWalk (d : Display) : Walk := if isWindow d.focus then d.walk d.focus else {}

end Display

/-- What is remembered of the focus. -/
structure Focus where
  last : Option Int := none
  focused : Focused := {}
deriving DecidableEq, Inhabited

namespace Focus

/-- A look at the focus: what is remembered after it, and what it took. -/
structure Look where
  focus : Focus
  acts : List DisplayAct := []
deriving DecidableEq, Inhabited

def look (f : Focus) (d : Display) : Look :=
  if f.last = some d.focus then { focus := f }
  else
    let w := d.focusWalk
    { focus := ⟨some d.focus, w.found⟩, acts := w.acts }

end Focus

end JogShuttle
