/-!
# Spans of code points

A character class outside ASCII is kept as a list of inclusive spans of code points.
-/

set_option autoImplicit false

namespace JogShuttle.Text

/-- Membership in one of the inclusive spans. -/
def inSpans (spans : List (Nat × Nat)) (code : Nat) : Bool :=
  spans.any fun (first, last) => first ≤ code && code ≤ last

theorem inSpans_iff (spans : List (Nat × Nat)) (code : Nat) :
    inSpans spans code = true ↔ ∃ s ∈ spans, s.1 ≤ code ∧ code ≤ s.2 := by
  simp [inSpans]

end JogShuttle.Text
