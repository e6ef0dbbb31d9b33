import JogShuttle.Slot

/-!
# The jog dial

The dial reports its position in eight bits, wrapping around, and never reports position zero. From
one position to another it is taken to have turned the shorter way, half a turn counting as left; it
passes one detent per unit, except that none is passed when leaving position zero.
-/

set_option autoImplicit false

namespace JogShuttle.Dial

/-- The number of positions, zero included. -/
def size : Int := 256

/-- From this many units on, the other way is shorter. -/
def half : Int := 128

def wrap (n : Int) : Int := n % size

/-- The units between two positions, in the direction of the turn. -/
def distance (old new : Int) : Int :=
  let d := wrap (new - old)
  if half ≤ d then size - d else d

def direction (old new : Int) : Direction :=
  if half ≤ wrap (new - old) then .left else .right

/-- The change of position by one unit. -/
def unit : Direction → Int
  | .left => -1
  | .right => 1

/-- The detents passed on the way from a position over so many units. -/
def walk (d : Direction) : Int → Nat → List Slot
  | _, 0 => []
  | position, n + 1 =>
    let rest := walk d (wrap (position + unit d)) n
    if position = 0 then rest else .jog d :: rest

/-- The detents passed from an old position to a new one. -/
def turn (old new : Int) : List Slot := walk (direction old new) old (distance old new).toNat

theorem wrap_bounds (n : Int) : 0 ≤ wrap n ∧ wrap n < size :=
  ⟨Int.emod_nonneg _ (by decide), Int.emod_lt_of_pos _ (by decide)⟩

theorem distance_bounds (old new : Int) : 0 ≤ distance old new ∧ distance old new ≤ half := by
  have h := wrap_bounds (new - old)
  by_cases hc : half ≤ wrap (new - old)
  · simp only [distance, if_pos hc]
    simp only [half, size] at *
    omega
  · simp only [distance, if_neg hc]
    simp only [half] at *
    omega

end JogShuttle.Dial
