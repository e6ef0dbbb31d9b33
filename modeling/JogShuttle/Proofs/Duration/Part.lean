import JogShuttle.Proofs.Duration.Amount
import Mathlib.Data.List.TakeWhile

/-!
# The parts of a duration

A part is written as digits, perhaps a point and more digits, and a unit. Parts one after the other
are read back and added, whatever follows them. A fraction is exact if it makes whole microseconds:
neither the cut to significant digits nor the rounding behind it changes anything then.
-/

set_option autoImplicit false

namespace JogShuttle

namespace Duration

variable {p : Part} {ps : List Part} {rest whole : List Char} {sum : Duration}

/-- Digits behind a point; without digits there is no point. -/
def pointed (digits : List Char) : List Char := if digits.isEmpty then [] else '.' :: digits

namespace Part

/-- The text that a part is written as. -/
def text (p : Part) : List Char := p.whole ++ (pointed p.fraction ++ p.unit.text.toList)

/-- What a part is worth in microseconds. -/
def worth (p : Part) : Nat :=
  Text.natOfDigits p.whole * p.unit.micros +
    Text.natOfDigits p.fraction * p.unit.micros / 10 ^ p.fraction.length

/-- Digits stand where digits belong, few enough for decimal arithmetic, and the fraction makes
whole microseconds. -/
structure Exact (p : Part) : Prop where
  whole_ne_nil : p.whole ≠ []
  whole_digits : ∀ c ∈ p.whole, Text.isDigit c = true
  fraction_digits : ∀ c ∈ p.fraction, Text.isDigit c = true
  length_whole : p.whole.length ≤ precision
  length_fraction : p.fraction.length ≤ precision
  dvd : 10 ^ p.fraction.length ∣ Text.natOfDigits p.fraction * p.unit.micros
  product : InRange (Text.natOfDigits p.fraction * p.unit.micros : Nat)

/-- Digits, perhaps a point and more digits, and a unit. -/
structure Written (p : Part) (cs : List Char) : Prop where
  whole_ne_nil : p.whole ≠ []
  whole_digits : ∀ c ∈ p.whole, Text.isDigit c = true
  fraction_digits : ∀ c ∈ p.fraction, Text.isDigit c = true
  form : (p.fraction = [] ∧ cs = p.whole ++ p.unit.text.toList) ∨
    cs = p.whole ++ '.' :: (p.fraction ++ p.unit.text.toList)

theorem Exact.written (hp : p.Exact) : p.Written p.text where
  whole_ne_nil := hp.whole_ne_nil
  whole_digits := hp.whole_digits
  fraction_digits := hp.fraction_digits
  form := by
    unfold text pointed
    cases p.fraction with
    | nil => exact .inl ⟨rfl, rfl⟩
    | cons d ds => exact .inr rfl

end Part

/-- No unit is the beginning of a longer one unless the letter of seconds follows. -/
theorem unitAt?_text (u : Unit) (h : rest.head? ≠ some 's') :
    unitAt? (u.text.toList ++ rest) = some (u, rest) := by
  cases u with
  | minute =>
    cases rest with
    | nil => rfl
    | cons c cs =>
      have hc : c ≠ 's' := fun he => h (congrArg some he)
      change unitAt? ('m' :: c :: cs) = _
      simp [unitAt?, hc]
  | _ => rfl

theorem not_isDigit_unit (u : Unit) {c : Char} (h : (u.text.toList ++ rest).head? = some c) :
    Text.isDigit c = false ∧ c ≠ '.' := by
  cases u <;> cases h <;> decide

theorem fractionAt_of_ne_point {more : List Char} (h : more.head? ≠ some '.') :
    fractionAt more = ([], more) := by
  unfold fractionAt
  split
  · exact absurd rfl h
  · rfl

theorem fractionAt_point {digits more : List Char} (hd : ∀ c ∈ digits, Text.isDigit c = true)
    (hmore : ∀ c, more.head? = some c → Text.isDigit c = false) :
    fractionAt ('.' :: (digits ++ more)) = (digits, more) := by
  obtain ⟨htake, hdrop⟩ := Text.takeWhile_dropWhile_append hd hmore
  change ((digits ++ more).takeWhile Text.isDigit, (digits ++ more).dropWhile Text.isDigit) = _
  rw [htake, hdrop]

theorem fractionAt_append {digits more : List Char} (hd : ∀ c ∈ digits, Text.isDigit c = true)
    (hmore : ∀ c, more.head? = some c → Text.isDigit c = false ∧ c ≠ '.') :
    fractionAt (pointed digits ++ more) = (digits, more) := by
  cases digits with
  | nil => exact fractionAt_of_ne_point fun h => (hmore '.' h).2 rfl
  | cons d ds => exact fractionAt_point hd fun c hc => (hmore c hc).1

/-- Behind the digits of a part stand its fraction and its unit. -/
theorem partAt?_of_digits {digits after : List Char} (hne : digits ≠ [])
    (hd : ∀ c ∈ digits, Text.isDigit c = true)
    (hafter : ∀ c, after.head? = some c → Text.isDigit c = false) :
    partAt? (digits ++ after) =
      (unitAt? (fractionAt after).2).map fun u => (⟨digits, (fractionAt after).1, u.1⟩, u.2) := by
  obtain ⟨htake, hdrop⟩ := Text.takeWhile_dropWhile_append hd hafter
  have hempty : digits.isEmpty = false := by simpa using hne
  simp only [partAt?, htake, hdrop, hempty, Bool.false_eq_true, if_false]

theorem partAt?_append {digits fraction more : List Char} (hne : digits ≠ [])
    (hd : ∀ c ∈ digits, Text.isDigit c = true) (hf : ∀ c ∈ fraction, Text.isDigit c = true)
    (hmore : ∀ c, more.head? = some c → Text.isDigit c = false ∧ c ≠ '.') :
    partAt? (digits ++ (pointed fraction ++ more)) =
      (unitAt? more).map fun u => (⟨digits, fraction, u.1⟩, u.2) := by
  have hpoint : ∀ c, (pointed fraction ++ more).head? = some c → Text.isDigit c = false := by
    intro c hc
    cases fraction with
    | nil => exact (hmore c hc).1
    | cons d ds =>
      cases hc
      decide
  rw [partAt?_of_digits hne hd hpoint, fractionAt_append hf hmore]

namespace Part.Written

variable {cs : List Char}

/-- The digits, the point and the digits behind it are read whatever follows the unit. -/
theorem partAt?_eq (hp : p.Written cs) (rest : List Char) :
    partAt? (cs ++ rest) = (unitAt? (p.unit.text.toList ++ rest)).map fun u =>
      (⟨p.whole, p.fraction, u.1⟩, u.2) := by
  have hunit : ∀ c, (p.unit.text.toList ++ rest).head? = some c →
      Text.isDigit c = false ∧ c ≠ '.' := fun c => not_isDigit_unit p.unit
  rcases hp.form with ⟨hnil, rfl⟩ | rfl
  · have hplain := partAt?_append hp.whole_ne_nil hp.whole_digits hp.fraction_digits hunit
    rw [hnil] at hplain ⊢
    rw [List.append_assoc]
    exact hplain
  · have hpoint : ∀ c, ('.' :: (p.fraction ++ (p.unit.text.toList ++ rest))).head? = some c →
        Text.isDigit c = false := by
      intro c hc
      cases hc
      decide
    rw [List.append_assoc, List.cons_append, List.append_assoc,
      partAt?_of_digits hp.whole_ne_nil hp.whole_digits hpoint,
      fractionAt_point hp.fraction_digits fun c hc => (hunit c hc).1]

/-- A part is read back from its text. -/
theorem partAt?_append (hp : p.Written cs) (h : rest.head? ≠ some 's') :
    partAt? (cs ++ rest) = some (p, rest) := by
  rw [hp.partAt?_eq, unitAt?_text p.unit h]
  rfl

/-- A part starts with a digit, and its unit is still to come. -/
theorem exists_cons (hp : p.Written cs) :
    ∃ d ds, cs = d :: ds ∧ Text.isDigit d = true ∧ ds ≠ [] := by
  obtain ⟨d, ds, hw⟩ := List.exists_cons_of_ne_nil hp.whole_ne_nil
  have hd : Text.isDigit d = true := hp.whole_digits d (by simp [hw])
  have hunit : p.unit.text.toList ≠ [] := by cases p.unit <;> decide
  rcases hp.form with ⟨_, rfl⟩ | rfl
  · exact ⟨d, ds ++ p.unit.text.toList, by rw [hw]; rfl, hd, by simp [hunit]⟩
  · exact ⟨d, ds ++ '.' :: (p.fraction ++ p.unit.text.toList), by rw [hw]; rfl, hd, by simp⟩

end Part.Written

/-- Parts one after the other. -/
inductive Written : List Part → List Char → Prop
  | nil : Written [] []
  | cons {p : Part} {ps : List Part} {piece cs : List Char} (hp : p.Written piece)
      (hps : Written ps cs) : Written (p :: ps) (piece ++ cs)

namespace Written

variable {cs : List Char}

theorem exists_cons (h : Written ps cs) (hne : ps ≠ []) :
    ∃ d ds, cs = d :: ds ∧ Text.isDigit d = true ∧ ds ≠ [] := by
  cases h with
  | nil => exact absurd rfl hne
  | cons hp hps =>
    obtain ⟨d, ds, rfl, hd, hds⟩ := hp.exists_cons
    exact ⟨d, _, rfl, hd, by simp [hds]⟩

/-- Parts start with a digit, which goes on with no unit. -/
theorem head?_append (h : Written ps cs) (hrest : ps = [] → rest.head? ≠ some 's') :
    (cs ++ rest).head? ≠ some 's' := by
  cases h with
  | nil => exact hrest rfl
  | cons hp hps =>
    obtain ⟨d, ds, rfl, hd, _⟩ := hp.exists_cons
    intro hs
    cases hs
    exact absurd hd (by decide)

/-- Reading starts with the first part: parts are neither empty nor a single zero. -/
theorem ofUnsigned_append (h : Written ps cs) (hne : ps ≠ []) (rest : List Char) :
    ofUnsigned (cs ++ rest) = addParts (cs ++ rest) 0 zero (cs ++ rest) := by
  obtain ⟨d, ds, rfl, _, hds⟩ := h.exists_cons hne
  have hzero : d :: ds ++ rest ≠ ['0'] := by simp [hds]
  rw [ofUnsigned, if_neg (by simp), if_neg hzero]

end Written

section AddParts

variable {cs : List Char}

theorem addParts_nil (whole : List Char) (position : Nat) (sum : Duration) :
    addParts whole position sum [] = .ok sum := by
  rw [addParts, if_pos List.isEmpty_nil]

theorem addParts_of_none (hne : cs ≠ []) (h : partAt? cs = none)
    (position : Nat) (sum : Duration) :
    addParts whole position sum cs = .error (.invalid (String.ofList whole) position) := by
  have hempty : cs.isEmpty = false := by simpa using hne
  rw [addParts, hempty, if_neg Bool.false_ne_true]
  split
  · rfl
  · rename_i hsome
    rw [h] at hsome
    cases hsome

theorem addParts_of_some (h : partAt? cs = some (p, rest)) (position : Nat) (sum : Duration) :
    addParts whole position sum cs =
      p.addTo sum >>= fun sum =>
        addParts whole (position + (cs.length - rest.length)) sum rest := by
  have hne : cs.isEmpty = false := by
    cases cs with
    | nil => cases h
    | cons => rfl
  rw [addParts, hne, if_neg Bool.false_ne_true]
  split
  · rename_i hnone
    rw [h] at hnone
    cases hnone
  · rename_i q more hsome
    rw [h] at hsome
    cases hsome
    rfl

/-- Written parts are added, and reading goes on behind them. -/
theorem Written.addParts_append (h : Written ps cs) (hrest : rest.head? ≠ some 's')
    (position : Nat) (sum : Duration) :
    addParts whole position sum (cs ++ rest) =
      addAll ps sum >>= fun sum => addParts whole (position + cs.length) sum rest := by
  induction h generalizing position sum with
  | nil => rfl
  | @cons p ps piece cs hp hps ih =>
    have hlength : position + ((piece ++ (cs ++ rest)).length - (cs ++ rest).length) + cs.length =
        position + (piece ++ cs).length := by
      simp only [List.length_append]
      omega
    rw [List.append_assoc, addParts_of_some (hp.partAt?_append (hps.head?_append fun _ => hrest))]
    simp only [ih, hlength, addAll, bind_assoc]

end AddParts

/-- What some parts are worth together. -/
def worths (ps : List Part) : Nat := (ps.map Part.worth).sum

/-- Several parts as they are written. -/
def texts (ps : List Part) : List Char := ps.flatMap Part.text

section Exact

theorem Part.Exact.amount_eq (hp : p.Exact) : p.amount = p.worth := by
  obtain ⟨r, hr⟩ := hp.dvd
  have hpow : 0 < 10 ^ p.fraction.length := Nat.pow_pos (by decide)
  rw [Part.amount_eq_rounded (length_significant_le hp.length_fraction), Part.rounded, Part.worth,
    hr, Nat.mul_div_cancel_left r hpow, Nat.mul_comm (10 ^ p.fraction.length) r,
    Number.divNearest_mul r hpow]

theorem Part.Exact.inRange_product (hp : p.Exact) : InRange p.product := by
  have hfraction := fractionRatio_le hp.length_fraction
  exact hp.product.mono (by omega) (Int.ofNat_le.mpr (Nat.mul_le_mul_right _ hfraction))

theorem written_texts (hps : ∀ p ∈ ps, p.Exact) : Written ps (texts ps) := by
  induction ps with
  | nil => exact .nil
  | cons p ps ih =>
    obtain ⟨hp, hps⟩ := List.forall_mem_cons.mp hps
    exact .cons hp.written (ih hps)

theorem exists_cons_texts (hps : ∀ p ∈ ps, p.Exact) (hne : ps ≠ []) (rest : List Char) :
    ∃ c cs, texts ps ++ rest = c :: cs ∧ Text.isDigit c = true ∧ cs ≠ [] := by
  obtain ⟨d, ds, htexts, hd, hds⟩ := (written_texts hps).exists_cons hne
  exact ⟨d, ds ++ rest, by rw [htexts]; rfl, hd, by simp [hds]⟩

/-- Exact parts add what they are worth together. -/
theorem addAll_of_exact (hps : ∀ p ∈ ps, p.Exact) (h0 : 0 ≤ sum.micros)
    (h : InRange (sum.micros + worths ps)) : addAll ps sum = .ok ⟨_, h⟩ := by
  have hworths : amounts ps = worths ps :=
    congrArg List.sum (List.map_congr_left fun p hp => (hps p hp).amount_eq)
  have hadd := addAll_computes ps h0
  rw [hworths] at hadd
  exact hadd.eq_ok (fun p hp => (hps p hp).inRange_product) h

theorem ofUnsigned_texts_append (hps : ∀ p ∈ ps, p.Exact) (hne : ps ≠ [])
    (hrest : rest.head? ≠ some 's') (h : InRange (zero.micros + worths ps)) :
    ofUnsigned (texts ps ++ rest) =
      addParts (texts ps ++ rest) (texts ps).length ⟨_, h⟩ rest := by
  have hwritten := written_texts hps
  rw [hwritten.ofUnsigned_append hne, hwritten.addParts_append hrest,
    addAll_of_exact hps (Int.le_refl 0) h, Nat.zero_add]
  rfl

end Exact

end Duration

end JogShuttle
