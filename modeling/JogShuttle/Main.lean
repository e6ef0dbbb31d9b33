import JogShuttle.Program.Check
import JogShuttle.Program.Daemon
import JogShuttle.Program.Events

/-!
# Command line

The first word picks the program: `check` checks a rule file, `events` shows the events of the
device, and anything else is taken as the command line of the daemon. No display and no input device
is bound to this executable, so of the three only the check goes all the way.
-/

set_option autoImplicit false

namespace JogShuttle.Main

/-- The error that a failed reading stands for. -/
def systemError (file : String) : IO.Error → SystemError
  | .noFileOrDirectory .. => .missing file
  | .permissionDenied .. => ⟨13, "Permission denied", some file⟩
  | .inappropriateType .. => .isDirectory file
  | e => ⟨5, toString e, some file⟩

/-- Looks at a file once. -/
def lookAt (p : Path) : IO FileView := do
  try
    let bytes ← IO.FS.readBinFile p.text
    return ⟨.ok 0, .ok bytes.toList⟩
  catch e =>
    return ⟨.ok 0, .error (systemError p.text e)⟩

def environment : IO Settings.Environment := do
  let names :=
    [Settings.homeVariable, Settings.configFileVariable, Settings.centerTimeoutVariable]
  names.filterMapM fun name => do return (← IO.getEnv name).map fun value => (name, value)

/-- A device cannot be opened without a binding to it. -/
def noDevice (p : Path) : List Session :=
  [{ opening := .failed ⟨38, "Function not implemented", some p.text⟩ }]

def noDisplayText : String := "unable to open X display"

/-- Only the environment tells of a home directory here. -/
def world : IO World := do
  let env ← environment
  return {
    environment := env
    homes := ⟨env.lookup Settings.homeVariable, fun _ => none⟩
    display := .error noDisplayText
    file := fun p => .missing p.text
    device := noDevice }

def status (n : Nat) : UInt32 := UInt32.ofNat n

def usage (text : String) (e : CommandLine.Exit) : IO UInt32 := do
  match e with
  | .help => IO.println text
  | .usage => IO.eprintln text
  return status e.status

def printAll (out err : List String) (logs : List Record) : IO Unit := do
  for l in out do IO.println l
  for l in err do IO.eprintln l
  for r in logs do IO.eprintln r.text

def escape (e : Escape) : IO UInt32 := do
  IO.eprintln e.message
  return 1

def check (words : List String) : IO UInt32 := do
  match Check.readRequest words with
  | .error e => usage "usage: check [-h] [-q] config" e
  | .ok r =>
    match Check.run .standard r.path.text r.quiet (← lookAt r.path) with
    | .error e => escape e
    | .ok report =>
      printAll report.out report.err []
      return status report.status

def events (words : List String) : IO UInt32 := do
  match Events.command (← world) words with
  | .error e => escape e
  | .ok report =>
    printAll report.out report.err report.logs
    match report.ending with
    | .status n => return status n
    | .interrupted => return 130

def daemon (words : List String) : IO UInt32 := do
  let r := Daemon.command .standard (← world) words
  printAll [] [] r.logs
  match r.ending with
  | .status n => return status n
  | .exit e => usage "usage: [-h] [-r FILE] [-d [rsk]] [-v] [device]" e
  | .escaped e => escape e

end JogShuttle.Main

def main (words : List String) : IO UInt32 :=
  match words with
  | "check" :: rest => JogShuttle.Main.check rest
  | "events" :: rest => JogShuttle.Main.events rest
  | rest => JogShuttle.Main.daemon rest
