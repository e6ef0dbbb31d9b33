/-!
# Log records
-/

set_option autoImplicit false

namespace JogShuttle

inductive Level where
  | info
  | warning
  | error
deriving DecidableEq, Inhabited

def Level.name : Level → String
  | .info => "INFO"
  | .warning => "WARNING"
  | .error => "ERROR"

structure Record where
  level : Level
  text : String
deriving DecidableEq, Inhabited

namespace Record

def info (text : String) : Record := ⟨.info, text⟩

def warning (text : String) : Record := ⟨.warning, text⟩

def error (text : String) : Record := ⟨.error, text⟩

end Record

end JogShuttle
