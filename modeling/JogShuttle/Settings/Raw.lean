import JogShuttle.Duration.Seconds
import JogShuttle.Duration.Text

/-!
# Raw settings

A setting may be given as text, as a number or in other forms before it takes its type. Of doubles
that are not finite only the kind matters.
-/

set_option autoImplicit false

namespace JogShuttle

inductive Raw where
  | null
  | flag (b : Bool)
  | whole (n : Int)
  | double (x : Number.Dyadic)
  | infinite
  | notNumber
  | text (s : String)
  | list (items : List Raw)
  | record (fields : List (String × Raw))
deriving Inhabited

namespace Raw

/-- Whether a value counts as true: zeros and empty values do not. -/
def isTrue : Raw → Bool
  | null => false
  | flag b => b
  | whole n => n != 0
  | double x => x.mantissa != 0
  | infinite => true
  | notNumber => true
  | text s => !s.isEmpty
  | list items => !items.isEmpty
  | record fields => !fields.isEmpty

end Raw

/-- Why a value is not read as a duration. -/
inductive Duration.RawError where
  | badType
  | infinite
  | notNumber
  | text (e : Duration.TextError)
deriving DecidableEq

def Duration.RawError.message : Duration.RawError → String
  | badType => "expected a number or a string"
  | infinite => "cannot convert float infinity to integer"
  | notNumber => "cannot convert float NaN to integer"
  | text e => e.message

/-- Whether a value of a proper form fails in the computing of its duration. -/
def Duration.RawError.isFailure : Duration.RawError → Bool
  | infinite => true
  | text .tooManyDigits => true
  | text (.outOfRange _) => true
  | _ => false

/-- The duration that a raw value gives: a text as it is written, a number as seconds. -/
def Duration.ofRaw : Raw → Except Duration.RawError Duration
  | .flag b => .ok (if b then .second else .zero)
  | .whole n => ((Duration.ofMicros (n * 1000000)).mapError .outOfRange).mapError .text
  | .double x =>
    ((Duration.ofMicros (Duration.microsOfSeconds x)).mapError .outOfRange).mapError .text
  | .infinite => .error .infinite
  | .notNumber => .error .notNumber
  | .text s => (Duration.ofText s).mapError .text
  | _ => .error .badType

end JogShuttle
