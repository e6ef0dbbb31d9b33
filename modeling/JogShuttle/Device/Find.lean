import JogShuttle.Text.Infix

/-!
# Finding the device

The system names input devices after maker and model. The controller's event devices are known by
their names, and the first of them in order is taken.
-/

set_option autoImplicit false

namespace JogShuttle.Device

/-- Where the names stand. -/
def directory : String := "/dev/input/by-id"

def namePrefix : List Char := "usb-Contour_Design_Shuttle".toList

def nameInfix : List Char := "-event-if".toList

def isControllerName (name : String) : Bool :=
  let cs := name.toList
  namePrefix.isPrefixOf cs && Text.hasInfix nameInfix (cs.drop namePrefix.length)

/-- The smaller of two names. -/
def earlier (found : Option String) (name : String) : Option String :=
  match found with
  | none => some name
  | some f => if name < f then some name else some f

/-- The name of the controller's device among the names of a directory. -/
def find (names : List String) : Option String :=
  (names.filter isControllerName).foldl earlier none

end JogShuttle.Device
