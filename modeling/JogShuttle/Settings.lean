import JogShuttle.Debug
import JogShuttle.Path
import JogShuttle.Settings.Raw
import JogShuttle.Signal.Interpreter
import JogShuttle.Text.Infix

/-!
# Settings

Settings come from a record of raw fields or from the options of a command line with the environment
to fall back on. Every field that is missing or does not take its type is an issue of its own.
-/

set_option autoImplicit false

namespace JogShuttle

structure Settings where
  configPath : Path
  devicePath : Option Path
  debug : DebugFlags
  centerTimeout : Duration
  reopenDelay : Duration
deriving DecidableEq

/-- What is wrong with a field. -/
inductive Settings.Cause where
  | missing
  | invalid (expected : String)
  | failed (reason : String)
deriving DecidableEq

/-- A field, by the names that lead to it, with what is wrong with it. -/
structure Settings.Issue where
  field : List String
  cause : Settings.Cause
deriving DecidableEq

namespace Settings

def Cause.text : Cause → String
  | missing => "required field missing"
  | invalid expected => "invalid value for type, expected " ++ expected
  | failed reason => "unknown error (" ++ reason ++ ")"

def Issue.text (i : Issue) : String :=
  i.cause.text ++ " @ $." ++ ".".intercalate i.field

def issuesText (issues : List Issue) : String := "; ".intercalate (issues.map Issue.text)

abbrev Checked (α : Type) := Except (List Issue) α

def issues {α : Type} : Checked α → List Issue
  | .ok _ => []
  | .error is => is

/-- A field that has one thing wrong with it. -/
def wrong {α : Type} (field : List String) (cause : Cause) : Checked α := .error [⟨field, cause⟩]

/-- A path, with a home directory in front expanded. -/
def checkPath (homes : Homes) (field expected : String) : Raw → Checked Path
  | .text s =>
    match (Path.ofText s).expand? homes with
    | some p => .ok p
    | none => wrong [field] (.failed Path.homelessText)
  | _ => wrong [field] (.invalid expected)

def checkConfig (homes : Homes) : Option Raw → Checked Path
  | none => wrong ["config_path"] .missing
  | some r => checkPath homes "config_path" "Path" r

def checkDevice (homes : Homes) : Option Raw → Checked (Option Path)
  | none => .ok none
  | some .null => .ok none
  | some r => (checkPath homes "device_path" "Optional" r).map some

/-- Whether a value that is no record has something of a name in it. -/
def mentions (name : String) : Raw → Bool
  | .text s => Text.hasInfix name.toList s.toList
  | .list items => items.any fun
    | .text s => s == name
    | _ => false
  | _ => false

/-- A flag of a record; it is off if the record leaves it out. -/
def checkFlag (name : String) : Raw → Checked Bool
  | .record fields => .ok (((fields.lookup name).map Raw.isTrue).getD false)
  | r => if mentions name r then wrong ["debug", name] (.invalid "bool") else .ok false

def checkDebug : Option Raw → Checked DebugFlags
  | none => .ok {}
  | some r =>
    match r with
    | .record _ | .text _ | .list _ =>
      match checkFlag "regex" r, checkFlag "strokes" r, checkFlag "keys" r with
      | .ok regex, .ok strokes, .ok keys => .ok { regex, strokes, keys }
      | a, b, c => .error (issues a ++ issues b ++ issues c)
    | _ => wrong ["debug"] (.invalid "DebugFlags")

def checkDuration (field : String) (default : Duration) : Option Raw → Checked Duration
  | none => .ok default
  | some r =>
    match Duration.ofRaw r with
    | .ok d => .ok d
    | .error e =>
      if e.isFailure then wrong [field] (.failed e.message)
      else wrong [field] (.invalid "timedelta")

def defaultReopenDelay : Duration := .second

/-- Settings from a record of raw fields; fields of other names do not matter. -/
def ofFields (homes : Homes) (fields : List (String × Raw)) : Checked Settings :=
  let config := checkConfig homes (fields.lookup "config_path")
  let device := checkDevice homes (fields.lookup "device_path")
  let debug := checkDebug (fields.lookup "debug")
  let timeout :=
    checkDuration "shuttle_center_timeout" Signal.defaultTimeout
      (fields.lookup "shuttle_center_timeout")
  let delay := checkDuration "reopen_delay" defaultReopenDelay (fields.lookup "reopen_delay")
  match config, device, debug, timeout, delay with
  | .ok configPath, .ok devicePath, .ok debug, .ok centerTimeout, .ok reopenDelay =>
    .ok { configPath, devicePath, debug, centerTimeout, reopenDelay }
  | _, _, _, _, _ =>
    .error (issues config ++ issues device ++ issues debug ++ issues timeout ++ issues delay)

/-- The variables of an environment. -/
abbrev Environment := List (String × String)

/-- The value of a variable; an empty one counts as unset. -/
def value? (env : Environment) (name : String) : Option String :=
  match env.lookup name with
  | some v => if v.isEmpty then none else some v
  | none => none

def configFileVariable : String := "SHUTTLE_CONFIG_FILE"

def centerTimeoutVariable : String := "SHUTTLE_CENTER_TIMEOUT"

def homeVariable : String := "HOME"

def defaultConfigName : String := ".shuttlerc"

/-- The rule file that the environment asks for, else the one in the home directory, if there is
one. -/
def defaultConfigPath (homes : Homes) (env : Environment) : Option Path :=
  match value? env configFileVariable, value? env homeVariable with
  | some file, _ => some (.ofText file)
  | none, some home => some ((Path.ofText home).child defaultConfigName)
  | none, none => (Path.ownHome? homes).map (·.child defaultConfigName)

/-- What a command line says about the settings. -/
structure Choices where
  config : Option Path := none
  device : Option Path := none
  debug : String := ""
  verbose : Bool := false
deriving DecidableEq, Inhabited

/-- Why a command line and an environment give no settings: there is no rule file to fall back on, or
what they ask for is wrong. -/
inductive Error where
  | homeless
  | letters (unknown : String)
  | issues (list : List Issue)
deriving DecidableEq

def Error.message : Error → String
  | homeless => Path.homelessText
  | letters unknown => DebugFlags.unknownLettersMessage unknown
  | issues list => issuesText list

/-- The settings that a command line and an environment ask for. -/
def ofChoices (homes : Homes) (env : Environment) (c : Choices) : Except Error Settings := do
  let config ← match c.config.or (defaultConfigPath homes env) with
    | some p => pure p
    | none => throw .homeless
  let debug ← (DebugFlags.ofLetters c.debug).mapError .letters
  let device := match c.device with
    | none => Raw.null
    | some p => .text p.text
  let timeout := (value? env centerTimeoutVariable).getD "5ms"
  let flags :=
    Raw.record [("regex", .flag debug.regex), ("strokes", .flag debug.strokes),
      ("keys", .flag debug.keys)]
  (ofFields homes
    [("config_path", .text config.text), ("device_path", device), ("debug", flags),
     ("shuttle_center_timeout", .text timeout), ("reopen_delay", .text "1s")]).mapError .issues

end Settings

end JogShuttle
