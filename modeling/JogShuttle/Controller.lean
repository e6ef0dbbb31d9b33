import JogShuttle.Rule.File
import JogShuttle.Signal.Meaning

/-!
# The controller

An event of the device is taken all the way to strokes. The rule file is refreshed, the section that
governs the focused window is looked up, the event becomes slots, and what each slot sends goes out
with a flush behind it.
-/

set_option autoImplicit false

namespace JogShuttle

/-- What the controller does to its surroundings. -/
inductive Act where
  | log (r : Record)
  | stroke (s : Stroke)
  | flush
deriving DecidableEq, Inhabited

/-- The window that has the focus. -/
structure Focused where
  title : Option String := none
  className : Option String := none
deriving DecidableEq, Inhabited

/-- What stops the handling of an event. -/
inductive Stop where
  | fault (f : Fault)
  | time (e : Duration.OutOfRange)
  | crossed
deriving DecidableEq

def Stop.message : Stop → String
  | fault f => f.message
  | time e => e.message
  | crossed => Pattern.crossedMessage

/-- The rules in effect, what is known of the device, and the last lookup: the build of the table
and the title that was looked up. -/
structure Controller where
  rules : RuleFile
  signal : Signal := {}
  lastLookup : Option (Nat × String) := none

structure Setup where
  source : RuleSource
  timeout : Duration := Signal.defaultTimeout

/-- An event that has been handled, unless something stopped it. -/
structure Handled where
  controller : Controller
  acts : List Act := []
  stop : Option Stop := none

namespace Controller

def initial (s : Setup) : Controller := { rules := .initial s.source }

/-- The title of a window that has none. -/
def unlabeled : String := "-- Unlabeled Window --"

def windowTitle (w : Focused) : String := w.title.getD unlabeled

/-- The trace of a lookup. -/
def lookupTrace (section? : Option Section) (w : Focused) : Record :=
  let shown := match w.className with
    | none => windowTitle w
    | some name => windowTitle w ++ " (" ++ name ++ ")"
  match section? with
  | some s => .info ("translation: [" ++ s.name ++ "] for " ++ shown)
  | none => .info ("no translation found for " ++ shown)

/-- The section that governs a window. -/
def governing (c : Controller) (w : Focused) : Option Nat :=
  c.rules.table.sectionFor (windowTitle w)

def lookupKey (c : Controller) (w : Focused) : Nat × String := (c.rules.builds, windowTitle w)

/-- A lookup is traced when it differs from the one before. -/
def traceLookup (c : Controller) (w : Focused) : List Act :=
  if c.rules.table.debug.regex ∧ c.lastLookup ≠ some (c.lookupKey w) then
    [.log (lookupTrace (c.rules.table.sectionAt (c.governing w)) w)]
  else []

/-- What a slot sends in a section. -/
def send (names : KeysymTable) (t : Table) (i : Option Nat) (slot : Slot) : List Act :=
  let strokes := t.resolve i slot
  if strokes.isEmpty then []
  else
    let trace :=
      if t.debug.keys then [Act.log (.info (slot.text ++ ": " ++ names.format strokes))] else []
    trace ++ strokes.map .stroke ++ [.flush]

/-- An event of keys, dial or ring under the rules in effect and in the section of a window. -/
def routeIn (c : Controller) (s : Setup) (w : Focused) (e : Event) : Handled :=
  let i := c.governing w
  let traced := c.traceLookup w
  let c := { c with lastLookup := some (c.lookupKey w) }
  match c.signal.event s.timeout (c.rules.table.isBound i) e with
  | .error err => { controller := c, acts := traced, stop := some (.time err) }
  | .ok o =>
    { controller := { c with signal := o.signal }
      acts := traced ++ o.logs.map .log ++
        o.slots.flatMap (send s.source.vocabulary.keysyms c.rules.table i) }

/-- An event of keys, dial or ring under the rules in effect, unless the search for the section goes
wrong. -/
def route (c : Controller) (s : Setup) (w : Focused) (e : Event) : Handled :=
  if c.rules.table.crosses (windowTitle w) then { controller := c, stop := some .crossed }
  else c.routeIn s w e

/-- Brings the rules up to date. -/
def refresh (c : Controller) (s : Setup) (f : FileView) : Handled :=
  let r := c.rules.refresh s.source f
  { controller := { c with rules := r.file }
    acts := r.logs.map .log
    stop := r.fault.map .fault }

/-- An event that carries no input; those of unknown types are reported. -/
def skip (c : Controller) (e : Event) : Handled :=
  { controller := c
    acts := if e.isFraming then [] else [.log (.warning ("invalid event type " ++ e.text))] }

/-- One event, with the rule file and the focused window as they are when it arrives. -/
def handle (c : Controller) (s : Setup) (f : FileView) (w : Focused) (e : Event) : Handled :=
  if e.isInput then
    let r := c.refresh s f
    match r.stop with
    | some _ => r
    | none =>
      let h := r.controller.route s w e
      { h with acts := r.acts ++ h.acts }
  else c.skip e

end Controller

end JogShuttle
