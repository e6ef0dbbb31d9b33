import JogShuttle.Duration.Text
import JogShuttle.Proofs.Text.Decimal

/-!
# What a part adds

A part adds its whole units and its fraction, rounded to microseconds. The sum is computed if it is
in range and so is the fraction's numerator in microseconds, which stands before the division;
otherwise an error says that a number is too large. A fraction of no more significant digits than
decimal arithmetic has is rounded once: if it is so long that its last places are cut, it is too
small to matter.
-/

set_option autoImplicit false

namespace JogShuttle

namespace Number

theorem divNearest_mul (n : Nat) {d : Nat} (hd : 0 < d) : divNearest (n * d) d = n := by
  have hmod : n * d % d = 0 := Nat.mul_mod_left n d
  have hdiv : n * d / d = n := Nat.mul_div_cancel n hd
  simp only [divNearest, hmod, hdiv, Nat.mul_zero, if_pos hd]

/-- A common factor does not matter. -/
theorem divNearest_mul_mul (n d : Nat) {k : Nat} (hk : 0 < k) :
    divNearest (n * k) (d * k) = divNearest n d := by
  have hmod : n * k % (d * k) = n % d * k := Nat.mul_mod_mul_right k n d
  have hdiv : n * k / (d * k) = n / d := Nat.mul_div_mul_right n d hk
  have hlow : 2 * (n % d * k) < d * k ↔ 2 * (n % d) < d := by
    rw [← Nat.mul_assoc, Nat.mul_lt_mul_right hk]
  have hhigh : d * k < 2 * (n % d * k) ↔ d < 2 * (n % d) := by
    rw [← Nat.mul_assoc, Nat.mul_lt_mul_right hk]
  simp only [divNearest, hmod, hdiv, hlow, hhigh]

/-- Less than a half rounds to zero. -/
theorem divNearest_eq_zero {n d : Nat} (h : 2 * n < d) : divNearest n d = 0 := by
  have hmod : n % d = n := Nat.mod_eq_of_lt (by omega)
  have hdiv : n / d = 0 := Nat.div_eq_of_lt (by omega)
  simp only [divNearest, hmod, hdiv, if_pos h]

theorem divNearest_zero (d : Nat) : divNearest 0 d = 0 := by
  simp only [divNearest, Nat.zero_mod, Nat.zero_div, Nat.mul_zero, Nat.zero_mod]
  split
  · rfl
  · simp

theorem divNearestInt_natCast (n d : Nat) : divNearestInt n d = divNearest n d := by
  rw [divNearestInt, if_neg (by omega), Int.natAbs_natCast]

end Number

namespace Duration

variable {m n : Int} {k : Nat} {digits : List Char} {p : Part} {ps : List Part} {sum : Duration}

theorem InRange.mono (h : InRange n) (h0 : 0 ≤ m) (hmn : m ≤ n) : InRange m := by
  simp only [InRange, dayLimit, microsPerDay, microsPerSecond] at *
  omega

theorem lt_precision_of_inRange (hn : InRange k) : k < 10 ^ precision := by
  have hlimit : k < 100000000000000000000 := by
    simp only [InRange, dayLimit, microsPerDay, microsPerSecond] at hn
    omega
  exact hlimit.trans_le (by decide)

theorem checked_of_inRange (h : InRange n) : checked n = .ok ⟨n, h⟩ := by
  simp [checked, ofMicros, h, Except.mapError]

section Digits

theorem length_significant_le (h : digits.length ≤ k) : (significant digits).length ≤ k :=
  (List.dropWhile_suffix _).length_le.trans h

theorem significant_cons_of_zero {c : Char} (h : Text.digitValue c = 0) (cs : List Char) :
    significant (c :: cs) = significant cs := by simp [significant, h]

theorem significant_cons_of_ne_zero {c : Char} (h : Text.digitValue c ≠ 0) (cs : List Char) :
    significant (c :: cs) = c :: cs := by simp [significant, h]

/-- Significant digits make a number large. -/
theorem le_natOfDigits_of_lt_length (h : k < (significant digits).length) :
    10 ^ k ≤ Text.natOfDigits digits := by
  induction digits with
  | nil => cases h
  | cons c cs ih =>
    rw [Text.natOfDigits_cons]
    by_cases hc : Text.digitValue c = 0
    · rw [significant_cons_of_zero hc] at h
      exact (ih h).trans (Nat.le_add_left _ _)
    · rw [significant_cons_of_ne_zero hc, List.length_cons, Nat.lt_succ_iff] at h
      calc 10 ^ k ≤ 10 ^ cs.length := Nat.pow_le_pow_right (by decide) h
        _ ≤ Text.digitValue c * 10 ^ cs.length := Nat.le_mul_of_pos_left _ (Nat.pos_of_ne_zero hc)
        _ ≤ _ := Nat.le_add_right _ _

/-- Zeros in front do not make a number larger. -/
theorem natOfDigits_significant (digits : List Char) :
    Text.natOfDigits (significant digits) = Text.natOfDigits digits := by
  induction digits with
  | nil => rfl
  | cons c cs ih =>
    by_cases hc : Text.digitValue c = 0
    · rw [significant_cons_of_zero hc, ih, Text.natOfDigits_cons, hc, Nat.zero_mul, Nat.zero_add]
    · rw [significant_cons_of_ne_zero hc]

theorem natOfDigits_lt_of_significant (h : (significant digits).length ≤ k) :
    Text.natOfDigits digits < 10 ^ k := by
  rw [← natOfDigits_significant]
  exact (Text.natOfDigits_lt _).trans_le (Nat.pow_le_pow_right (by decide) h)

theorem surplus_eq_zero (h : (significant digits).length ≤ precision)
    (hplaces : digits.length ≤ placeLimit) : surplus digits = 0 := by
  unfold surplus
  omega

theorem surplus_eq_zero_of_length_le (h : digits.length ≤ precision) : surplus digits = 0 :=
  surplus_eq_zero (length_significant_le h) (h.trans (by decide))

theorem surplus_of_long (h : (significant digits).length ≤ precision)
    (hlong : placeLimit < digits.length) : surplus digits = digits.length - placeLimit := by
  unfold surplus
  omega

theorem kept_of_surplus_eq_zero (h : surplus digits = 0) :
    kept digits = Text.natOfDigits digits := by
  rw [kept, h]
  exact (Nat.mul_one _).trans (Number.divNearest_one _)

/-- A fraction is off by at most half of the last place that is kept. -/
theorem kept_le (digits : List Char) :
    2 * kept digits ≤ 2 * Text.natOfDigits digits + 10 ^ surplus digits := by
  have hcut : 0 < 10 ^ surplus digits := Nat.pow_pos (by decide)
  have hbound := (Number.divNearest_bounds (Text.natOfDigits digits) hcut).2
  calc 2 * kept digits
      = 2 * 10 ^ surplus digits *
          Number.divNearest (Text.natOfDigits digits) (10 ^ surplus digits) := by
        rw [Nat.mul_assoc, Nat.mul_comm (10 ^ surplus digits)]
        rfl
    _ ≤ _ := hbound

/-- A fraction is put in lowest terms. -/
theorem fractionRatio_eq (digits : List Char) :
    fractionRatio digits =
      (kept digits / Nat.gcd (kept digits) (10 ^ digits.length),
        10 ^ digits.length / Nat.gcd (kept digits) (10 ^ digits.length)) := rfl

theorem fractionRatio_le (h : digits.length ≤ precision) :
    (fractionRatio digits).1 ≤ Text.natOfDigits digits := by
  rw [fractionRatio_eq, ← kept_of_surplus_eq_zero (surplus_eq_zero_of_length_le h)]
  exact Nat.div_le_self _ _

/-- Lowest terms round as the digits do. -/
theorem divNearest_fractionRatio (digits : List Char) (u : Nat) :
    Number.divNearest ((fractionRatio digits).1 * u) (fractionRatio digits).2 =
      Number.divNearest (kept digits * u) (10 ^ digits.length) := by
  rw [fractionRatio_eq]
  have hparts : 0 < 10 ^ digits.length := Nat.pow_pos (by decide)
  generalize kept digits = n
  generalize 10 ^ digits.length = parts at *
  have hg : 0 < Nat.gcd n parts := Nat.gcd_pos_of_pos_right n hparts
  rw [← Number.divNearest_mul_mul _ _ hg, Nat.mul_right_comm,
    Nat.div_mul_cancel (Nat.gcd_dvd_left n parts), Nat.div_mul_cancel (Nat.gcd_dvd_right n parts)]

/-- Beyond the last place of decimal arithmetic so little is left that it rounds to nothing. -/
theorem divNearest_eq_zero_of_long {n : Nat} (u : Unit) (hlong : placeLimit < digits.length)
    (h : 2 * n ≤ 2 * 10 ^ precision + 10 ^ (digits.length - placeLimit)) :
    Number.divNearest (n * u.micros) (10 ^ digits.length) = 0 := by
  have hlimit : precision + 11 ≤ placeLimit := by decide
  have hunit : 3 * u.micros < 10 ^ 11 := by cases u <;> decide
  have hprecision : 10 ^ precision ≤ 10 ^ (digits.length - 11) :=
    Nat.pow_le_pow_right (by decide) (by omega)
  have hrest : 10 ^ (digits.length - placeLimit) ≤ 10 ^ (digits.length - 11) :=
    Nat.pow_le_pow_right (by decide) (by omega)
  have hn : 2 * n ≤ 3 * 10 ^ (digits.length - 11) := by omega
  apply Number.divNearest_eq_zero
  calc 2 * (n * u.micros)
      = 2 * n * u.micros := (Nat.mul_assoc ..).symm
    _ ≤ 3 * 10 ^ (digits.length - 11) * u.micros := Nat.mul_le_mul_right _ hn
    _ = 3 * u.micros * 10 ^ (digits.length - 11) := Nat.mul_right_comm ..
    _ < 10 ^ 11 * 10 ^ (digits.length - 11) :=
        Nat.mul_lt_mul_of_pos_right hunit (Nat.pow_pos (by decide))
    _ = 10 ^ digits.length := by rw [← Nat.pow_add, Nat.add_sub_cancel' (by omega)]

end Digits

namespace Part

/-- The numerator of a part's fraction in lowest terms, in microseconds. -/
def product (p : Part) : Nat := (fractionRatio p.fraction).1 * p.unit.micros

/-- The whole units of a part and its fraction to the nearest microsecond. -/
def rounded (p : Part) : Nat :=
  Text.natOfDigits p.whole * p.unit.micros +
    Number.divNearest (Text.natOfDigits p.fraction * p.unit.micros) (10 ^ p.fraction.length)

/-- The microseconds that a part adds: the same with a fraction that is cut before. -/
def amount (p : Part) : Nat :=
  Text.natOfDigits p.whole * p.unit.micros +
    Number.divNearest (kept p.fraction * p.unit.micros) (10 ^ p.fraction.length)

theorem amount_eq_rounded (h : (significant p.fraction).length ≤ precision) :
    p.amount = p.rounded := by
  rw [amount, rounded]
  by_cases hlong : placeLimit < p.fraction.length
  · have hdigits : 2 * Text.natOfDigits p.fraction ≤ 2 * 10 ^ precision :=
      Nat.mul_le_mul_left 2 (natOfDigits_lt_of_significant h).le
    have hkept := kept_le p.fraction
    rw [surplus_of_long h hlong] at hkept
    rw [divNearest_eq_zero_of_long p.unit hlong (hkept.trans (Nat.add_le_add_right hdigits _)),
      divNearest_eq_zero_of_long p.unit hlong (hdigits.trans (Nat.le_add_right _ _))]
  · rw [kept_of_surplus_eq_zero (surplus_eq_zero h (Nat.not_lt.mp hlong))]

/-- So few digits behind a point are in range even as hours. -/
theorem inRange_product_of_length_le (h : p.fraction.length ≤ 10) : InRange p.product := by
  have hfraction : (fractionRatio p.fraction).1 < 10 ^ 10 := by
    calc (fractionRatio p.fraction).1 ≤ Text.natOfDigits p.fraction :=
          fractionRatio_le (h.trans (by decide))
      _ < 10 ^ p.fraction.length := Text.natOfDigits_lt _
      _ ≤ 10 ^ 10 := Nat.pow_le_pow_right (by decide) h
  have hunit : p.unit.micros ≤ 3600000000 := by cases p.unit <;> decide
  have hproduct : p.product ≤ 10 ^ 10 * 3600000000 := Nat.mul_le_mul hfraction.le hunit
  have hlimit : InRange (10 ^ 10 * 3600000000 : Nat) := by decide
  exact hlimit.mono (Int.natCast_nonneg _) (Int.ofNat_le.mpr hproduct)

end Part

/-- The errors of numbers that are too large to count with. -/
inductive TextError.TooLarge : TextError → Prop
  | tooManyDigits : TooLarge .tooManyDigits
  | outOfRange (e : OutOfRange) : TooLarge (.outOfRange e)

/-- A number is computed if it is in range and a condition holds; otherwise something is too
large. -/
inductive Computes (c : Prop) (n : Int) : Except TextError Duration → Prop
  | value (hc : c) (h : InRange n) : Computes c n (.ok ⟨n, h⟩)
  | tooLarge {e : TextError} (h : ¬(c ∧ InRange n)) (he : e.TooLarge) : Computes c n (.error e)

section Computes

variable {c d : Prop} {r : Except TextError Duration} {f : Duration → Except TextError Duration}

theorem Computes.eq_ok (hr : Computes c n r) (hc : c) (h : InRange n) : r = .ok ⟨n, h⟩ := by
  cases hr with
  | value => rfl
  | tooLarge hno => exact absurd ⟨hc, h⟩ hno

theorem Computes.congr (h : Computes c n r) (hcd : InRange n → (c ↔ d)) : Computes d n r := by
  cases h with
  | value hc h => exact .value ((hcd h).mp hc) h
  | tooLarge hno he => exact .tooLarge (fun hall => hno ⟨(hcd hall.2).mpr hall.1, hall.2⟩) he

/-- Computing goes on with a number that was computed. -/
theorem Computes.bind (hr : Computes c m r) (hf : ∀ h : InRange m, Computes d n (f ⟨m, h⟩)) :
    Computes (c ∧ InRange m ∧ d) n (r >>= f) := by
  cases hr with
  | value hc h =>
    refine (hf h).congr fun _ => ?_
    simp only [hc, h, true_and]
  | tooLarge hno he => exact .tooLarge (fun hall => hno ⟨hall.1.1, hall.1.2.1⟩) he

theorem checked_computes (n : Int) : Computes True n (checked n) := by
  by_cases h : InRange n
  · rw [checked_of_inRange h]
    exact .value trivial h
  · have herror : checked n = .error (.outOfRange ⟨n.fdiv microsPerDay⟩) := by
      simp [checked, ofMicros, h, Except.mapError]
    rw [herror]
    exact .tooLarge (fun hall => h hall.2) (.outOfRange _)

/-- What is left to do when the whole units of a part are added. -/
def Part.addFraction (p : Part) (sum : Duration) : Except TextError Duration :=
  if (fractionRatio p.fraction).1 = 0 then .ok sum
  else do
    let product ← checked p.product
    checked (sum.micros + Number.divNearestInt product.micros (fractionRatio p.fraction).2)

theorem Part.addTo_eq (h : (significant p.whole).length ≤ precision) :
    p.addTo sum = (do
      let whole ← checked (Text.natOfDigits p.whole * p.unit.micros : Nat)
      p.addFraction (← checked (sum.micros + whole.micros))) := by
  rw [Part.addTo, if_neg (Nat.not_lt.mpr h)]
  rfl

theorem Part.addFraction_computes (p : Part) (sum : Duration) :
    Computes (InRange p.product)
      (sum.micros + Number.divNearest p.product (fractionRatio p.fraction).2)
      (p.addFraction sum) := by
  unfold Part.addFraction
  split
  · rename_i hzero
    have hproduct : p.product = 0 := by rw [Part.product, hzero, Nat.zero_mul]
    rw [hproduct, Number.divNearest_zero, Int.natCast_zero, Int.add_zero]
    exact .value (by decide) sum.inRange
  · have hadd : ∀ h : InRange p.product, Computes True
        (sum.micros + Number.divNearest p.product (fractionRatio p.fraction).2)
        (checked (sum.micros +
          Number.divNearestInt (⟨_, h⟩ : Duration).micros (fractionRatio p.fraction).2)) := by
      intro h
      rw [Number.divNearestInt_natCast]
      exact checked_computes _
    refine ((checked_computes p.product).bind hadd).congr fun _ => ?_
    simp only [true_and, and_true]

/-- Adding a part computes the sum, if the numerator of its fraction is in range. -/
theorem Part.addTo_computes (p : Part) (h0 : 0 ≤ sum.micros) :
    Computes (InRange p.product) (sum.micros + p.amount) (p.addTo sum) := by
  have hamount : p.amount = Text.natOfDigits p.whole * p.unit.micros +
      Number.divNearest p.product (fractionRatio p.fraction).2 := by
    rw [Part.amount, Part.product, divNearest_fractionRatio]
  have hunit : 0 < p.unit.micros := by cases p.unit <;> decide
  by_cases hlong : precision < (significant p.whole).length
  · -- more digits than decimal arithmetic has are out of range in every unit
    have herror : p.addTo sum = .error .tooManyDigits := by
      rw [Part.addTo, if_pos hlong]
      rfl
    have hdigits : 10 ^ precision ≤ Text.natOfDigits p.whole * p.unit.micros :=
      (le_natOfDigits_of_lt_length hlong).trans (Nat.le_mul_of_pos_right _ hunit)
    rw [herror]
    refine .tooLarge (fun hall => ?_) .tooManyDigits
    have hrange : InRange p.amount := hall.2.mono (by omega) (by omega)
    have hlimit := lt_precision_of_inRange hrange
    omega
  · have hadd : ∀ h, Computes (InRange p.product) (sum.micros + p.amount)
        (p.addFraction ⟨sum.micros + (Text.natOfDigits p.whole * p.unit.micros : Nat), h⟩) := by
      intro h
      rw [hamount, Int.natCast_add, ← Int.add_assoc]
      exact p.addFraction_computes ⟨_, h⟩
    rw [Part.addTo_eq (Nat.not_lt.mp hlong)]
    refine ((checked_computes _).bind fun _ => (checked_computes _).bind hadd).congr fun h => ?_
    have hwhole : InRange (Text.natOfDigits p.whole * p.unit.micros : Nat) :=
      h.mono (by omega) (by omega)
    have hsum : InRange (sum.micros + (Text.natOfDigits p.whole * p.unit.micros : Nat)) :=
      h.mono (by omega) (by omega)
    simp only [hsum, hwhole, true_and]

/-- Adds parts to a sum. -/
def addAll : List Part → Duration → Except TextError Duration
  | [], sum => .ok sum
  | p :: ps, sum => p.addTo sum >>= addAll ps

/-- The microseconds that some parts add together. -/
def amounts (ps : List Part) : Nat := (ps.map Part.amount).sum

/-- The whole units of some parts and their fractions to the nearest microsecond. -/
def roundeds (ps : List Part) : Nat := (ps.map Part.rounded).sum

theorem amounts_eq_roundeds (h : ∀ p ∈ ps, (significant p.fraction).length ≤ precision) :
    amounts ps = roundeds ps :=
  congrArg List.sum (List.map_congr_left fun p hp => p.amount_eq_rounded (h p hp))

theorem amounts_cons (p : Part) (ps : List Part) : amounts (p :: ps) = p.amount + amounts ps :=
  List.sum_cons

theorem addAll_computes (ps : List Part) (h0 : 0 ≤ sum.micros) :
    Computes (∀ p ∈ ps, InRange p.product) (sum.micros + amounts ps) (addAll ps sum) := by
  induction ps generalizing sum with
  | nil =>
    have hsum : sum.micros + amounts [] = sum.micros := Int.add_zero _
    rw [hsum]
    exact .value (fun _ hp => absurd hp List.not_mem_nil) sum.inRange
  | cons p ps ih =>
    have hnext : ∀ h, Computes (∀ p ∈ ps, InRange p.product) (sum.micros + amounts (p :: ps))
        (addAll ps ⟨sum.micros + p.amount, h⟩) := by
      intro h
      rw [amounts_cons, Int.natCast_add, ← Int.add_assoc]
      exact @ih ⟨_, h⟩ (show 0 ≤ sum.micros + p.amount by omega)
    refine ((p.addTo_computes h0).bind hnext).congr fun h => ?_
    have hfirst : InRange (sum.micros + p.amount) := by
      rw [amounts_cons] at h
      exact h.mono (by omega) (by omega)
    simp only [hfirst, true_and, List.forall_mem_cons]

theorem addAll_zero_computes (ps : List Part) :
    Computes (∀ p ∈ ps, InRange p.product) (amounts ps) (addAll ps zero) := by
  have h0 : 0 ≤ zero.micros := by decide
  have hsum : zero.micros + amounts ps = amounts ps := Int.zero_add _
  have hadd := addAll_computes ps h0
  rwa [hsum] at hadd

end Computes

end Duration

end JogShuttle
