import JogShuttle.Controller
import JogShuttle.Display
import JogShuttle.Keysym

/-!
# Synthetic input

Strokes on buttons and scroll ticks are pointer input; all others go through the keymap, and a
symbol that the keymap lacks is reported instead of sent.
-/

set_option autoImplicit false

namespace JogShuttle.Display

/-- What a stroke does at a display. -/
def strike (d : Display) (s : Stroke) : List DisplayAct :=
  match s.symbol.button? with
  | some button => [.call (.input (if s.pressed then .buttonPress else .buttonRelease) button)]
  | none =>
    let code := d.keycode s.symbol.keysym
    if code = 0 then
      [.log (.warning ("no keycode for keysym 0x" ++ Text.hexInt s.symbol.keysym ++
        " in the current keymap"))]
    else [.call (.input (if s.pressed then .keyPress else .keyRelease) code)]

/-- What an act of the controller does at a display. -/
def perform (d : Display) : Act → List DisplayAct
  | .log r => [.log r]
  | .stroke s => d.strike s
  | .flush => [.call .flush]

end JogShuttle.Display
