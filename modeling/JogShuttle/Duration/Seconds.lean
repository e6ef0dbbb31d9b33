import JogShuttle.Duration
import JogShuttle.Number.Rounding

/-!
# Durations from seconds

A number of seconds is a whole number or a double. Of a double the whole seconds are split off
exactly; the rest becomes microseconds as a double product, rounded with ties to even.
-/

set_option autoImplicit false

namespace JogShuttle.Duration

/-- The microseconds of a double number of seconds. -/
def microsOfSeconds (x : Number.Dyadic) : Int :=
  let (n, d) := x.ratio
  let product := (Number.Dyadic.nearest? ((n % d * 1000000 : Nat)) d).getD default
  let micros : Int := (n / d * 1000000 : Nat) + product.scaled 1
  if x.mantissa < 0 then -micros else micros

/-- Seconds to six places, as a double nearest to them prints. -/
def secondsText (d : Duration) : String :=
  let x := (Number.Dyadic.nearest? d.micros 1000000).getD default
  let n := x.scaled 1000000
  (if n < 0 then "-" else "") ++ toString (n.natAbs / 1000000) ++ "." ++
    padded 6 (n.natAbs % 1000000)

end JogShuttle.Duration
