/-!
# Lines

Text is read with every line end turned into a newline, and split at the wider set of line breaks.
-/

set_option autoImplicit false

namespace JogShuttle.Text

/-- Carriage returns, alone or before a newline, become newlines. -/
def unifyNewlines : List Char → List Char
  | [] => []
  | '\r' :: '\n' :: cs => '\n' :: unifyNewlines cs
  | c :: cs => (if c = '\r' then '\n' else c) :: unifyNewlines cs

/-- The characters at which a line ends. -/
def isLineBreak (c : Char) : Bool :=
  let n := c.toNat
  (10 ≤ n && n ≤ 13) || (28 ≤ n && n ≤ 30) || n == 0x85 || n == 0x2028 || n == 0x2029

/-- Puts a character in front of the first line. -/
def consFirst (c : Char) : List (List Char) → List (List Char)
  | [] => [[c]]
  | l :: ls => (c :: l) :: ls

/-- The lines of a text without their breaks. A carriage return with a newline is one break, and a
break at the very end opens no further line. -/
def lines : List Char → List (List Char)
  | [] => []
  | '\r' :: '\n' :: cs => [] :: lines cs
  | c :: cs => if isLineBreak c then [] :: lines cs else consFirst c (lines cs)

@[simp] theorem lines_nil : lines [] = [] := by simp [lines]

theorem lines_of_no_break {cs : List Char} (h : ∀ c ∈ cs, isLineBreak c = false) :
    lines cs = if cs = [] then [] else [cs] := by
  induction cs with
  | nil => simp
  | cons c cs ih =>
    have hc := h c (by simp)
    have hr : c ≠ '\r' := by rintro rfl; exact absurd hc (by decide)
    have ih := ih fun d hd => h d (by simp [hd])
    rw [lines]
    · rw [ih]
      by_cases hcs : cs = [] <;> simp [hc, hcs, consFirst]
    · intro _ hh; exact absurd hh hr

end JogShuttle.Text
