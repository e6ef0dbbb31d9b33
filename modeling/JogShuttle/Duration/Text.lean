import JogShuttle.Duration
import JogShuttle.Number.Rounding
import JogShuttle.Text.Digit
import JogShuttle.Text.Literal

/-!
# Durations as text

A duration is written as a sign and a list of parts, each a decimal number and a unit, or as a
single zero. Whole and fractional parts are added separately; a fraction is first cut to what
decimal arithmetic keeps of it, twenty-eight significant digits and about a million places, and then
rounded to microseconds, ties going to the even neighbour both times.
-/

set_option autoImplicit false

namespace JogShuttle.Duration

inductive Unit where
  | hour
  | minute
  | second
  | milli
  | micro
deriving DecidableEq, Inhabited

def Unit.micros : Unit → Nat
  | hour => 3600000000
  | minute => 60000000
  | second => 1000000
  | milli => 1000
  | micro => 1

def Unit.text : Unit → String
  | hour => "h"
  | minute => "m"
  | second => "s"
  | milli => "ms"
  | micro => "us"

inductive TextError where
  | empty
  | invalid (text : String) (position : Nat)
  | tooManyDigits
  | outOfRange (e : OutOfRange)
deriving DecidableEq, Inhabited

def TextError.message : TextError → String
  | empty => "Empty duration string"
  | invalid t p =>
    "Invalid duration string " ++ Text.literal t ++ " at position " ++ toString p
  | tooManyDigits => "[<class 'decimal.DivisionImpossible'>]"
  | outOfRange e => e.message

/-- The significant digits of decimal arithmetic. -/
def precision : Nat := 28

/-- The places behind the point that decimal arithmetic has: the first digit of a number in full
precision stands in one of 999999, and the other digits follow it. -/
def placeLimit : Nat := 999999 + (precision - 1)

/-- A part of a duration: the digits before and behind the point, and the unit. -/
structure Part where
  whole : List Char
  fraction : List Char
  unit : Unit
deriving DecidableEq, Inhabited

/-- A unit at the start of a text; the longer names win. -/
def unitAt? : List Char → Option (Unit × List Char)
  | 'm' :: 's' :: cs => some (.milli, cs)
  | 'u' :: 's' :: cs => some (.micro, cs)
  | 'h' :: cs => some (.hour, cs)
  | 'm' :: cs => some (.minute, cs)
  | 's' :: cs => some (.second, cs)
  | _ => none

/-- The digits behind a point, if a point comes next. -/
def fractionAt : List Char → List Char × List Char
  | '.' :: cs => (cs.takeWhile Text.isDigit, cs.dropWhile Text.isDigit)
  | cs => ([], cs)

/-- The part that a text starts with, and the rest. -/
def partAt? (cs : List Char) : Option (Part × List Char) :=
  let whole := cs.takeWhile Text.isDigit
  if whole.isEmpty then none
  else
    let after := fractionAt (cs.dropWhile Text.isDigit)
    (unitAt? after.2).map fun u => (⟨whole, after.1, u.1⟩, u.2)

theorem length_unitAt?_lt {cs r : List Char} {u : Unit} (h : unitAt? cs = some (u, r)) :
    r.length < cs.length := by
  unfold unitAt? at h
  split at h <;> cases h <;> simp only [List.length_cons] <;> omega

theorem length_dropDigits_le (cs : List Char) :
    (cs.dropWhile Text.isDigit).length ≤ cs.length :=
  (List.dropWhile_suffix _).length_le

theorem length_fractionAt_le (cs : List Char) : (fractionAt cs).2.length ≤ cs.length := by
  unfold fractionAt
  split
  · have := length_dropDigits_le (by assumption)
    simp only [List.length_cons]
    omega
  · exact Nat.le_refl _

/-- A part takes at least one character. -/
theorem length_partAt?_lt {cs r : List Char} {p : Part} (h : partAt? cs = some (p, r)) :
    r.length < cs.length := by
  simp only [partAt?] at h
  split at h
  · cases h
  · obtain ⟨⟨u, r'⟩, hu, he⟩ := Option.map_eq_some_iff.mp h
    cases he
    have h1 := length_unitAt?_lt hu
    have h2 := length_fractionAt_le (cs.dropWhile Text.isDigit)
    have h3 := length_dropDigits_le cs
    show r'.length < cs.length
    omega

/-- Drops the zeros in front of a number. -/
def significant (digits : List Char) : List Char :=
  digits.dropWhile fun c => Text.digitValue c == 0

/-- How many places decimal arithmetic cuts at the end of a fraction: the digits beyond its precision
and the places beyond its last one. -/
def surplus (digits : List Char) : Nat :=
  max ((significant digits).length - precision) (digits.length - placeLimit)

/-- Digits behind a point as a whole number of their last place, as decimal arithmetic keeps them. -/
def kept (digits : List Char) : Nat :=
  let cut := Nat.pow 10 (surplus digits)
  Number.divNearest (Text.natOfDigits digits) cut * cut

/-- What is kept of the digits behind a point, as a quotient in lowest terms. -/
def fractionRatio (digits : List Char) : Nat × Nat :=
  let n := kept digits
  let parts := Nat.pow 10 digits.length
  let common := Nat.gcd n parts
  (n / common, parts / common)

def checked (n : Int) : Except TextError Duration := (ofMicros n).mapError .outOfRange

/-- Adds a part to a sum, checking the range after every operation. -/
def Part.addTo (p : Part) (sum : Duration) : Except TextError Duration := do
  if (significant p.whole).length > precision then throw .tooManyDigits
  let whole ← checked (Text.natOfDigits p.whole * p.unit.micros : Nat)
  let sum ← checked (sum.micros + whole.micros)
  let (n, d) := fractionRatio p.fraction
  if n = 0 then return sum
  else
    let product ← checked (n * p.unit.micros : Nat)
    checked (sum.micros + Number.divNearestInt product.micros d)

/-- Adds all parts of a text to a sum; `position` is where the text starts in the whole. -/
def addParts (whole : List Char) (position : Nat) (sum : Duration) (cs : List Char) :
    Except TextError Duration :=
  if cs.isEmpty then .ok sum
  else
    match _h : partAt? cs with
    | none => .error (.invalid (String.ofList whole) position)
    | some (p, rest) => do
      addParts whole (position + (cs.length - rest.length)) (← p.addTo sum) rest
termination_by cs.length
decreasing_by exact length_partAt?_lt _h

def ofUnsigned (cs : List Char) : Except TextError Duration :=
  if cs.isEmpty then .error .empty
  else if cs = ['0'] then .ok zero
  else addParts cs 0 zero cs

/-- The duration that a text writes. -/
def ofText (text : String) : Except TextError Duration := do
  match text.toList with
  | '-' :: cs => checked (-(← ofUnsigned cs).micros)
  | '+' :: cs => ofUnsigned cs
  | cs => ofUnsigned cs

/-- A fraction without its closing zeros. -/
def trimZeros (digits : List Char) : List Char :=
  (digits.reverse.dropWhile (· == '0')).reverse

/-- A number of so many decimal places: as short as possible, with an exponent below one in ten
thousand. -/
def decimalText (places n : Nat) : String :=
  let parts := Nat.pow 10 places
  if n % parts = 0 then toString (n / parts)
  else if n * 10000 < parts then
    let digits := (toString n).toList
    let behind := trimZeros (digits.drop 1)
    let point := if behind.isEmpty then [] else '.' :: behind
    let exponent := places + 1 - digits.length
    String.ofList (digits.take 1 ++ point) ++ "e-" ++ twoDigits exponent
  else
    let behind := trimZeros (padded places (n % parts)).toList
    toString (n / parts) ++ "." ++ String.ofList behind

/-- A duration of at least no time: one unit below a second, else hours, minutes and seconds. -/
def formatMicros (n : Nat) : String :=
  if n = 0 then "0"
  else if n < 1000 then toString n ++ "us"
  else if n < 1000000 then decimalText 3 n ++ "ms"
  else
    let hours := n / 3600000000
    let minutes := n / 60000000 % 60
    let seconds := n % 60000000
    (if hours = 0 then "" else toString hours ++ "h") ++
      (if minutes = 0 then "" else toString minutes ++ "m") ++
      (if seconds = 0 then "" else decimalText 6 seconds ++ "s")

/-- The text that stands for a duration. -/
def format (d : Duration) : String :=
  (if d.micros < 0 then "-" else "") ++ formatMicros d.micros.natAbs

end JogShuttle.Duration
