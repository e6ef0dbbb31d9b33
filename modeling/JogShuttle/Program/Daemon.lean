import JogShuttle.CommandLine
import JogShuttle.Device.Listener
import JogShuttle.Display.Focus
import JogShuttle.Display.Sink
import JogShuttle.Program.World

/-!
# The daemon

The daemon takes its settings from the command line and the environment, opens the display, loads
the rules, and listens to the device. Events go through the controller to the display. Failures of
device and display end it with a message.
-/

set_option autoImplicit false

namespace JogShuttle.Daemon

/-- How the daemon ends: with an exit status of its own, at the command line, or by an error that it
does not handle. -/
inductive Ending where
  | status (n : Nat)
  | exit (e : CommandLine.Exit)
  | escaped (e : Escape)

structure Run where
  acts : List DisplayAct
  ending : Ending

namespace Run

def calls (r : Run) : List Call :=
  r.acts.filterMap fun
    | .call c => some c
    | .log _ => none

def logs (r : Run) : List Record :=
  r.acts.filterMap fun
    | .call _ => none
    | .log r => some r

def before (acts : List DisplayAct) (r : Run) : Run := { r with acts := acts ++ r.acts }

/-- Ends with a message and the status of failure. -/
def failing (message : String) : Run := ⟨[.log (.error message)], .status 1⟩

end Run

inductive Key where
  | rules
  | debug
  | verbose
deriving DecidableEq

def grammar : CommandLine.Grammar Key where
  switches :=
    [⟨["-h", "--help"], .flag, none⟩, ⟨["-r"], .value, some .rules⟩,
     ⟨["-d"], .optionalValue, some .debug⟩, ⟨["-v", "--verbose"], .flag, some .verbose⟩]
  needsOperand := false

/-- Takes an option into account. -/
def choose (c : Settings.Choices) : Key × Option String → Settings.Choices
  | (.rules, value) => { c with config := value.map Path.ofText }
  | (.debug, value) => { c with debug := value.getD DebugFlags.everyLetter }
  | (.verbose, _) => { c with verbose := true }

/-- What a command line says about the settings. -/
def readChoices (words : List String) : Except CommandLine.Exit Settings.Choices := do
  let p ← CommandLine.parse grammar words
  return p.given.foldl choose { device := p.operand.map Path.ofText }

/-- What the daemon keeps between events. -/
structure State where
  controller : Controller
  focus : Focus := {}

/-- An event that has reached the display, unless something stopped it. -/
structure Reaction where
  state : State
  acts : List DisplayAct := []
  stop : Option Stop := none

/-- The acts of the controller at a display. -/
def perform (d : Display) (acts : List Act) : List DisplayAct := acts.flatMap d.perform

/-- One event. The focus is looked at once the rules are up to date, and for input only. -/
def react (d : Display) (setup : Setup) (f : FileView) (s : State) (e : Event) : Reaction :=
  if e.isInput then
    let r := s.controller.refresh setup f
    match r.stop with
    | some stop => ⟨{ s with controller := r.controller }, perform d r.acts, some stop⟩
    | none =>
      let l := s.focus.look d
      let h := r.controller.route setup l.focus.focused e
      ⟨⟨h.controller, l.focus⟩, perform d r.acts ++ l.acts ++ perform d h.acts, h.stop⟩
  else
    let h := s.controller.skip e
    ⟨{ s with controller := h.controller }, perform d h.acts, h.stop⟩

/-- The end that a finished listener brings. An interrupt is no failure. -/
def ofFinish : Finish → Ending
  | .stopped => .status 0
  | .failed e => if e.isLoss then .status 1 else .escaped (.device e)
  | .badDelay => .escaped .badDelay

/-- Follows a listener to its end. -/
def follow (d : Display) (setup : Setup) (f : FileView) (device : String) (delay : Duration)
    (finish : Finish) (s : State) : List Happening → Run
  | [] => ⟨[], ofFinish finish⟩
  | h :: hs =>
    match h with
    | .event e =>
      let r := react d setup f s e
      match r.stop with
      | some stop => ⟨r.acts, .escaped (.stop stop)⟩
      | none => (follow d setup f device delay finish r.state hs).before r.acts
    | .lost e =>
      (follow d setup f device delay finish s hs).before
        [.log (.warning (Listener.lossText device e delay))]
    | _ => follow d setup f device delay finish s hs

/-- What is said once the display is closed. -/
def farewell : Finish → List DisplayAct
  | .failed e => if e.isLoss then [.log (.error e.message)] else []
  | _ => []

/-- Closes the display after a run, and then says why the listener failed if that ended the run. -/
def closing (finish : Finish) (r : Run) : Run :=
  let last := match r.ending with
    | .status _ => farewell finish
    | _ => []
  { r with acts := r.acts ++ .call .close :: last }

def setupOf (v : Vocabulary) (s : Settings) : Setup :=
  ⟨⟨v, s.configPath.text, s.debug⟩, s.centerTimeout⟩

def listeningText (device config : Path) : String :=
  "Listening to " ++ device.text ++ " with rules from " ++ config.text

/-- Ends by an error that is not handled, with the display closed. -/
def stopping (e : Escape) : Run := ⟨[.call .close], .escaped e⟩

/-- Listens to a device under rules that have been loaded. -/
def listen (w : World) (d : Display) (setup : Setup) (s : Settings) (device : Path)
    (c : Controller) : Run :=
  let listening := DisplayAct.log (.info (listeningText device s.configPath))
  if !device.isAbsolute then stopping (.device .relativePath)
  else if !device.isProper then (stopping (.device .improperPath)).before [listening]
  else
    let course := Listener.run device.text s.reopenDelay (w.device device)
    let run :=
      follow d setup (w.file s.configPath) device.text s.reopenDelay course.result ⟨c, {}⟩
        course.happenings
    (closing course.result run).before [listening]

/-- Runs at an open display. The rules are loaded first, so that their problems are told at once. -/
def serve (v : Vocabulary) (w : World) (d : Display) (s : Settings) (device : Path) : Run :=
  let setup := setupOf v s
  if !s.configPath.isProper then stopping .improperPath
  else
    let r := (Controller.initial setup).refresh setup (w.file s.configPath)
    let rest := match r.stop with
      | some stop => stopping (.stop stop)
      | none => listen w d setup s device r.controller
    rest.before (perform d r.acts)

def noDeviceText : String :=
  "No shuttle device found; pass its event device path on the command line"

/-- The daemon as a command. -/
def command (v : Vocabulary) (w : World) (words : List String) : Run :=
  match readChoices words with
  | .error e => ⟨[], .exit e⟩
  | .ok c =>
    match Settings.ofChoices w.homes w.environment c with
    | .error .homeless => ⟨[], .escaped .homeless⟩
    | .error e => .failing e.message
    | .ok s =>
      match s.devicePath <|> w.found with
      | none => .failing noDeviceText
      | some device =>
        match w.display with
        | .error text => .failing text
        | .ok d => serve v w d s device

end JogShuttle.Daemon
