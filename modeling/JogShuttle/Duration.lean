/-!
# Durations

A duration is a whole number of microseconds of less than a billion days to either side of zero.
Every operation that could leave the range says so.
-/

set_option autoImplicit false

namespace JogShuttle

namespace Duration

def microsPerSecond : Int := 1000000

def microsPerDay : Int := 86400 * microsPerSecond

/-- The greatest number of whole days to either side. -/
def dayLimit : Int := 999999999

/-- A number of microseconds that a duration may have. -/
def InRange (micros : Int) : Prop :=
  -dayLimit * microsPerDay ≤ micros ∧ micros < (dayLimit + 1) * microsPerDay

instance (micros : Int) : Decidable (InRange micros) :=
  inferInstanceAs (Decidable (_ ∧ _))

end Duration

structure Duration where
  micros : Int
  inRange : Duration.InRange micros
deriving DecidableEq

namespace Duration

instance : Inhabited Duration := ⟨⟨0, by decide⟩⟩

theorem ext_micros {a b : Duration} (h : a.micros = b.micros) : a = b := by
  cases a
  cases b
  cases h
  rfl

/-- A number of microseconds outside the range, by its whole days. -/
structure OutOfRange where
  days : Int
deriving DecidableEq, Inhabited

/-- Days of more than thirty-two bits are not even counted. -/
def OutOfRange.message (e : OutOfRange) : String :=
  if -2147483648 ≤ e.days ∧ e.days ≤ 2147483647 then
    "days=" ++ toString e.days ++ "; must have magnitude <= " ++ toString dayLimit
  else "Python int too large to convert to C int"

def ofMicros (micros : Int) : Except OutOfRange Duration :=
  if h : InRange micros then .ok ⟨micros, h⟩ else .error ⟨micros.fdiv microsPerDay⟩

theorem ofMicros_micros (d : Duration) : ofMicros d.micros = .ok d := by
  simp [ofMicros, d.inRange]

theorem ofMicros_eq_ok_iff {n : Int} {d : Duration} : ofMicros n = .ok d ↔ d.micros = n := by
  constructor
  · intro h
    unfold ofMicros at h
    split at h
    · cases h; rfl
    · cases h
  · rintro rfl
    exact ofMicros_micros d

theorem ofMicros_isOk_iff (n : Int) : (∃ d, ofMicros n = .ok d) ↔ InRange n := by
  constructor
  · rintro ⟨d, h⟩
    rw [ofMicros_eq_ok_iff] at h
    exact h ▸ d.inRange
  · intro h
    exact ⟨⟨n, h⟩, by simp [ofMicros, h]⟩

def zero : Duration := ⟨0, by decide⟩

/-- One second. -/
def second : Duration := ⟨1000000, by decide⟩

def add (a b : Duration) : Except OutOfRange Duration := ofMicros (a.micros + b.micros)

def sub (a b : Duration) : Except OutOfRange Duration := ofMicros (a.micros - b.micros)

/-- Two digits, with a leading zero if need be. -/
def twoDigits (n : Nat) : String := if n < 10 then "0" ++ toString n else toString n

/-- A number of decimal places, filled up with zeros in front. -/
def padded (places n : Nat) : String :=
  let digits := toString n
  String.ofList (List.replicate (places - digits.length) '0') ++ digits

/-- Days, hours, minutes and seconds as a clock shows them. -/
def clockText (d : Duration) : String :=
  let days := d.micros.fdiv microsPerDay
  let rest := (d.micros.fmod microsPerDay).toNat
  let seconds := rest / 1000000
  let micros := rest % 1000000
  let dayText :=
    if days = 0 then ""
    else toString days ++ (if days = 1 ∨ days = -1 then " day, " else " days, ")
  dayText ++ toString (seconds / 3600) ++ ":" ++ twoDigits (seconds / 60 % 60) ++ ":" ++
    twoDigits (seconds % 60) ++ (if micros = 0 then "" else "." ++ padded 6 micros)

end Duration

end JogShuttle
