/-!
# Runs of names

The names of code points that follow one another, with what they all begin with written once.
-/

set_option autoImplicit false

namespace JogShuttle.Text

/-- The names of the code points from the first one on: each is the stem with one of the endings,
which stand in rows with bars in between. -/
structure NameRun where
  first : Nat
  stem : String
  rows : List String

namespace NameRun

/-- The text behind a start, if it begins with that. -/
def after? : List Char → List Char → Option (List Char)
  | [], cs => some cs
  | p :: ps, c :: cs => if p = c then after? ps cs else none
  | _ :: _, [] => none

/-- The place of a word in a row with bars in between. `left` is what is still to come of the word
at the place reached, unless that place holds another word. -/
def placeIn (word : List Char) : Nat → Option (List Char) → List Char → Option Nat
  | i, left, [] => if left = some [] then some i else none
  | i, left, c :: cs =>
    if c = '|' then
      if left = some [] then some i else placeIn word (i + 1) (some word) cs
    else placeIn word i (left.bind (after? [c])) cs

/-- The code point of a name. -/
def codeOf? (r : NameRun) (name : List Char) : Option Nat := do
  let ending ← after? r.stem.toList name
  return r.first + (← placeIn ending 0 (some ending) ("|".intercalate r.rows).toList)

theorem after?_eq_some_iff {start text rest : List Char} :
    after? start text = some rest ↔ text = start ++ rest := by
  induction start generalizing text with
  | nil => simp [after?, eq_comm]
  | cons p ps ih =>
    cases text with
    | nil => simp [after?]
    | cons c cs =>
      by_cases h : p = c
      · subst h
        simp [after?, ih]
      · simp [after?, h, Ne.symm h]

end NameRun

end JogShuttle.Text
