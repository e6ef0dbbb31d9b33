import JogShuttle.Controller
import JogShuttle.Device
import JogShuttle.Display
import JogShuttle.Rule.File
import JogShuttle.Settings

/-!
# The world around a program
-/

set_option autoImplicit false

namespace JogShuttle

/-- What a program finds: its environment, the controller's device if the system lists one, the
display or why it cannot be opened, and what is at each path as a file and as a device. -/
structure World where
  environment : Settings.Environment := []
  homes : Homes
  found : Option Path := none
  display : Except String Display
  file : Path → FileView
  device : Path → List Session

/-- An error that a program does not handle. -/
inductive Escape where
  | homeless
  | stop (s : Stop)
  | device (e : DeviceError)
  | badDelay
  | improperPath
  | read (e : ReadError)

def Escape.message : Escape → String
  | homeless => Path.homelessText
  | stop s => s.message
  | device e => e.message
  | badDelay => "\x60seconds\x60 must be non-negative"
  | improperPath => Path.improperText
  | read e => e.message

end JogShuttle
