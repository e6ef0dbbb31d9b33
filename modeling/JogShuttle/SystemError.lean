import JogShuttle.Text.Literal

/-!
# Errors of the operating system
-/

set_option autoImplicit false

namespace JogShuttle

/-- Why the system refused something: the number of the error, its description, and the file that
was asked for, if there is one to name. -/
structure SystemError where
  number : Int
  reason : String
  file : Option String := none
deriving DecidableEq, Inhabited

namespace SystemError

def message (e : SystemError) : String :=
  let place := match e.file with
    | none => ""
    | some f => ": " ++ Text.literal f
  "[Errno " ++ toString e.number ++ "] " ++ e.reason ++ place

/-- There is no such file. -/
def missing (file : String) : SystemError := ⟨2, "No such file or directory", some file⟩

def notDirectory (file : String) : SystemError := ⟨20, "Not a directory", some file⟩

def isDirectory (file : String) : SystemError := ⟨21, "Is a directory", some file⟩

def nameTooLong (file : String) : SystemError := ⟨36, "File name too long", some file⟩

/-- The number that tells that a device went away. -/
def noDevice : Int := 19

end SystemError

end JogShuttle
