/-!
# Tokens of a rule line

A line is a run of words and double-quoted texts between blanks and slashes. A word ends at a blank,
at a slash (its suffix follows), before a quote (which opens a text of its own) or at the end of the
line. A text ends at the closing quote, at a newline or at the end.
-/

set_option autoImplicit false

namespace JogShuttle

/-- How a token ended; a character that closed it is no longer part of the rest. -/
inductive Ending where
  | blank (c : Char)
  | slash
  | quote
  | open
deriving DecidableEq, Inhabited

def Ending.text : Ending → String
  | .blank c => c.toString
  | .slash => "/"
  | .quote => "\""
  | .open => ""

structure Token where
  text : List Char
  ending : Ending
  rest : List Char
deriving DecidableEq, Inhabited

namespace Token

def isSpace (c : Char) : Bool := c == ' ' || c == '\t' || c == '\n'

/-- Blanks and slashes stand between tokens. -/
def isGap (c : Char) : Bool := isSpace c || c == '/'

/-- Words hold neither gaps nor quotes. -/
def isWordChar (c : Char) : Bool := !isGap c && c != '"'

/-- Quoted texts hold neither quotes nor newlines. -/
def isTextChar (c : Char) : Bool := c != '"' && c != '\n'

def quoted (t : Token) : Bool := t.ending == .quote

def hasSuffix (t : Token) : Bool := t.ending == .slash

/-- The token of a quoted text whose opening quote has been taken. -/
def ofQuoted (cs : List Char) : Token :=
  { text := cs.takeWhile isTextChar, ending := .quote, rest := (cs.dropWhile isTextChar).drop 1 }

/-- The token of a word, by what follows it. -/
def ofWord (word : List Char) : List Char → Token
  | [] => ⟨word, .open, []⟩
  | c :: cs =>
    if c = '"' then ⟨word, .open, c :: cs⟩
    else if c = '/' then ⟨word, .slash, cs⟩
    else ⟨word, .blank c, cs⟩

/-- The first token of a line, if any is left. -/
def next? (line : List Char) : Option Token :=
  match line.dropWhile isGap with
  | [] => none
  | '"' :: cs => some (ofQuoted cs)
  | cs => some (ofWord (cs.takeWhile isWordChar) (cs.dropWhile isWordChar))

theorem length_dropWhile_le (p : Char → Bool) (cs : List Char) :
    (cs.dropWhile p).length ≤ cs.length :=
  (List.dropWhile_suffix p).length_le

theorem not_of_dropWhile_eq_cons {p : Char → Bool} {cs : List Char} {c : Char} {r : List Char}
    (h : cs.dropWhile p = c :: r) : p c = false := by
  have := List.head?_dropWhile_not p cs
  simpa [h] using this

theorem ofWord_rest_length_le (w cs : List Char) : (ofWord w cs).rest.length ≤ cs.length := by
  unfold ofWord
  split
  · exact Nat.le_refl _
  · split
    · exact Nat.le_refl _
    · split <;> simp

/-- Every token takes at least one character. -/
theorem length_rest_lt {line : List Char} {t : Token} (h : next? line = some t) :
    t.rest.length < line.length := by
  have hle := length_dropWhile_le isGap line
  unfold next? at h
  split at h
  · cases h
  · next cs hcs =>
    cases h
    rw [hcs] at hle
    have := length_dropWhile_le isTextChar cs
    simp only [ofQuoted, List.length_drop, List.length_cons] at *
    omega
  · next cs hne hq =>
    cases h
    obtain ⟨c, r, hcr⟩ := List.exists_cons_of_ne_nil hne
    have hg : isGap c = false := not_of_dropWhile_eq_cons hcr
    have hw : isWordChar c = true := by
      simp only [isWordChar, hg, Bool.not_false, Bool.true_and, bne_iff_ne, ne_eq]
      rintro rfl
      exact hq r hcr
    have h1 := ofWord_rest_length_le ((line.dropWhile isGap).takeWhile isWordChar)
      ((line.dropWhile isGap).dropWhile isWordChar)
    have h2 : ((line.dropWhile isGap).dropWhile isWordChar).length ≤ r.length := by
      rw [hcr, List.dropWhile_cons, if_pos hw]
      exact length_dropWhile_le _ _
    rw [hcr] at hle
    simp only [List.length_cons] at hle
    omega

/-- All tokens of a line in order. -/
def all (line : List Char) : List Token :=
  match _h : next? line with
  | none => []
  | some t => t :: all t.rest
termination_by line.length
decreasing_by exact length_rest_lt _h

theorem all_of_next?_none {line : List Char} (h : next? line = none) : all line = [] := by
  rw [all]
  split
  · rfl
  · next h' => rw [h] at h'; cases h'

theorem all_of_next?_some {line : List Char} {t : Token} (h : next? line = some t) :
    all line = t :: all t.rest := by
  rw [all]
  split
  · next h' => rw [h] at h'; cases h'
  · next h' => rw [h] at h'; cases h'; rfl

end Token

end JogShuttle
