/-!
# Rounding

Rounding of a quotient to a whole number, a tie going to the even neighbour, and the binary
fraction of double precision that lies nearest to a quotient.
-/

set_option autoImplicit false

namespace JogShuttle.Number

/-- The whole number nearest to a quotient; a tie goes to the even one. -/
def divNearest (n d : Nat) : Nat :=
  let q := n / d
  let r := n % d
  if 2 * r < d then q
  else if d < 2 * r then q + 1
  else if q % 2 = 0 then q else q + 1

/-- The same for a signed dividend. -/
def divNearestInt (n : Int) (d : Nat) : Int :=
  if n < 0 then -(divNearest n.natAbs d : Int) else divNearest n.natAbs d

/-- A whole number times a power of two. -/
structure Dyadic where
  mantissa : Int
  exponent : Int
deriving DecidableEq, Inhabited

namespace Dyadic

/-- Numerator and denominator of the absolute value. -/
def ratio (x : Dyadic) : Nat × Nat :=
  if 0 ≤ x.exponent then (x.mantissa.natAbs <<< x.exponent.toNat, 1)
  else (x.mantissa.natAbs, 1 <<< (-x.exponent).toNat)

/-- The value times a whole number, rounded to a whole number. -/
def scaled (x : Dyadic) (factor : Nat) : Int :=
  let (n, d) := x.ratio
  if x.mantissa < 0 then -(divNearest (n * factor) d : Int) else divNearest (n * factor) d

/-- The digits that a double keeps, and the exponents it is bounded by. -/
def precision : Nat := 53

def leastExponent : Int := -1074

def greatestPower : Nat := 1024

/-- The exponent of the leading binary digit of a positive quotient. -/
def leadingExponent (n d : Nat) : Int :=
  let e := (n.log2 : Int) - d.log2
  if n <<< (-e).toNat ≥ d <<< e.toNat then e else e - 1

/-- The double nearest to a quotient, unless it is too large to have one. -/
def nearest? (n : Int) (d : Nat) : Option Dyadic :=
  let m := n.natAbs
  if m = 0 then some ⟨0, 0⟩
  else
    let e := max (leadingExponent m d - (precision - 1 : Nat)) leastExponent
    let mantissa := divNearest (m <<< (-e).toNat) (d <<< e.toNat)
    let x : Dyadic := ⟨if n < 0 then -(mantissa : Int) else mantissa, e⟩
    if x.ratio.1 ≥ x.ratio.2 <<< greatestPower then none else some x

end Dyadic

theorem divNearest_one (n : Nat) : divNearest n 1 = n := by
  have h : n % 1 = 0 := Nat.mod_one n
  simp [divNearest, h]

/-- Rounding is off by at most half a unit. -/
theorem divNearest_bounds (n : Nat) {d : Nat} (h : 0 < d) :
    2 * n ≤ 2 * d * divNearest n d + d ∧ 2 * d * divNearest n d ≤ 2 * n + d := by
  have hdiv := Nat.div_add_mod n d
  have hlt := Nat.mod_lt n h
  have h1 : 2 * d * (n / d) = 2 * (d * (n / d)) := by rw [Nat.mul_assoc]
  have h2 : 2 * d * (n / d + 1) = 2 * (d * (n / d)) + 2 * d := by rw [Nat.mul_add, h1, Nat.mul_one]
  unfold divNearest
  simp only
  split
  · rw [h1]; omega
  · split
    · rw [h2]; omega
    · split
      · rw [h1]; omega
      · rw [h2]; omega

end JogShuttle.Number
