import JogShuttle.Proofs.Duration.Part

/-!
# Durations that read back

A duration is written as parts that are worth it together, so its text reads back as the duration
itself, at every magnitude and on both sides of zero. Only where hours or minutes leave less than a
hundred microseconds over does the text end in a number with an exponent, which no part can have.
-/

set_option autoImplicit false

namespace JogShuttle.Duration

variable {places n : Nat} {digits : List Char} {u : Unit}

theorem exists_zeros (digits : List Char) :
    ∃ k, digits = trimZeros digits ++ List.replicate k '0' := by
  let zeros := digits.reverse.takeWhile (· == '0')
  have hzeros : zeros = List.replicate zeros.length '0' := by
    refine List.eq_replicate_of_mem fun c hc => ?_
    simpa using List.mem_takeWhile_imp hc
  refine ⟨zeros.length, ?_⟩
  calc digits = (zeros ++ digits.reverse.dropWhile (· == '0')).reverse := by
        rw [List.takeWhile_append_dropWhile, List.reverse_reverse]
    _ = trimZeros digits ++ zeros.reverse := List.reverse_append
    _ = trimZeros digits ++ List.replicate zeros.length '0' := by
        rw [hzeros, List.reverse_replicate, List.length_replicate]

theorem mem_of_mem_trimZeros {c : Char} (h : c ∈ trimZeros digits) : c ∈ digits := by
  obtain ⟨k, hk⟩ := exists_zeros digits
  rw [hk]
  exact List.mem_append_left _ h

theorem length_padded (hp : 0 < places) (h : n < 10 ^ places) :
    (padded places n).toList.length = places := by
  have := Text.length_toString_le hp h
  simp only [padded, String.toList_append, String.toList_ofList, List.length_append,
    List.length_replicate, ← String.length_toList]
  omega

theorem natOfDigits_padded (places n : Nat) : Text.natOfDigits (padded places n).toList = n := by
  rw [padded, String.toList_append, String.toList_ofList, Text.natOfDigits_append,
    Text.natOfDigits_zeros, Nat.zero_mul, Nat.zero_add, Text.natOfDigits_toString]

theorem ascii_of_mem_padded {c : Char} (h : c ∈ (padded places n).toList) : c.isDigit = true := by
  rw [padded, String.toList_append, String.toList_ofList] at h
  rcases List.mem_append.mp h with hz | hd
  · rw [List.eq_of_mem_replicate hz]
    decide
  · exact Text.ascii_of_mem_toString hd

/-- A number of so many decimal places with its unit. -/
def decimalPart (places n : Nat) (u : Unit) : Part where
  whole := (toString (n / 10 ^ places)).toList
  fraction := trimZeros (padded places (n % 10 ^ places)).toList
  unit := u

/-- The digits behind the point, on their places, are the number's last ones. -/
theorem exists_natOfDigits_fraction (hp : 0 < places) (n : Nat) (u : Unit) :
    ∃ k, (decimalPart places n u).fraction.length + k = places ∧
      Text.natOfDigits (decimalPart places n u).fraction * 10 ^ k = n % 10 ^ places := by
  have hlt : n % 10 ^ places < 10 ^ places := Nat.mod_lt n (Nat.pow_pos (by decide))
  obtain ⟨k, hk⟩ := exists_zeros (padded places (n % 10 ^ places)).toList
  simp only [decimalPart]
  refine ⟨k, ?_, ?_⟩
  · have hlength := length_padded hp hlt
    rw [hk, List.length_append, List.length_replicate] at hlength
    exact hlength
  · have hvalue := natOfDigits_padded places (n % 10 ^ places)
    rw [hk, Text.natOfDigits_append, Text.natOfDigits_zeros, List.length_replicate,
      Nat.add_zero] at hvalue
    exact hvalue

theorem fraction_mul_micros (hp : 0 < places) (hu : u.micros = 10 ^ places) (n : Nat) :
    Text.natOfDigits (decimalPart places n u).fraction * (decimalPart places n u).unit.micros =
      10 ^ (decimalPart places n u).fraction.length * (n % 10 ^ places) := by
  obtain ⟨k, hk, hvalue⟩ := exists_natOfDigits_fraction hp n u
  have hunit : (decimalPart places n u).unit.micros = 10 ^ places := hu
  rw [hunit, ← hvalue]
  nth_rewrite 2 [← hk]
  ring

theorem worth_decimalPart (hp : 0 < places) (hu : u.micros = 10 ^ places) :
    (decimalPart places n u).worth = n := by
  have hunit : (decimalPart places n u).unit.micros = 10 ^ places := hu
  have hwhole : Text.natOfDigits (decimalPart places n u).whole = n / 10 ^ places :=
    Text.natOfDigits_toString _
  rw [Part.worth, fraction_mul_micros hp hu n, Nat.mul_div_cancel_left _ (Nat.pow_pos (by decide)),
    hwhole, hunit, Nat.mul_comm, Nat.div_add_mod]

theorem exact_decimalPart (hp : 0 < places) (hplaces : places ≤ 9) (hu : u.micros = 10 ^ places)
    (hn : n < 10 ^ precision) : (decimalPart places n u).Exact where
  whole_ne_nil := Text.toString_ne_nil _
  whole_digits c hc := Text.isDigit_of_ascii (Text.ascii_of_mem_toString hc)
  fraction_digits c hc := by
    simp only [decimalPart] at hc
    exact Text.isDigit_of_ascii (ascii_of_mem_padded (mem_of_mem_trimZeros hc))
  length_whole :=
    Text.length_toString_le (by decide) (Nat.lt_of_le_of_lt (Nat.div_le_self n _) hn)
  length_fraction := by
    obtain ⟨k, hk, _⟩ := exists_natOfDigits_fraction hp n u
    unfold precision
    omega
  dvd := Dvd.intro _ (fraction_mul_micros hp hu n).symm
  product := by
    obtain ⟨k, hk, _⟩ := exists_natOfDigits_fraction hp n u
    have hpow : ∀ {m : Nat}, m ≤ places → 10 ^ m ≤ 10 ^ 9 := fun hm =>
      Nat.pow_le_pow_right (by decide) (hm.trans hplaces)
    have hrest : n % 10 ^ places ≤ 10 ^ 9 :=
      (Nat.mod_lt n (Nat.pow_pos (by decide))).le.trans (hpow (Nat.le_refl _))
    have hle : 10 ^ (decimalPart places n u).fraction.length * (n % 10 ^ places) ≤
        10 ^ 9 * 10 ^ 9 :=
      Nat.mul_le_mul (hpow (by omega)) hrest
    rw [fraction_mul_micros hp hu n]
    exact InRange.mono (n := 1000000000000000000) (by decide) (Int.natCast_nonneg _)
      (Int.ofNat_le.mpr hle)

theorem trimZeros_zeros (k : Nat) : trimZeros (List.replicate k '0') = [] := by
  rw [trimZeros, List.reverse_replicate, List.reverse_eq_nil_iff, List.dropWhile_eq_nil_iff]
  intro c hc
  simpa using List.eq_of_mem_replicate hc

theorem trimZeros_padded_eq_nil_iff (places n : Nat) :
    trimZeros (padded places n).toList = [] ↔ n = 0 := by
  constructor
  · intro h
    obtain ⟨k, hk⟩ := exists_zeros (padded places n).toList
    rw [← natOfDigits_padded places n, hk, h, List.nil_append, Text.natOfDigits_zeros]
  · rintro rfl
    have hzeros : (padded places 0).toList = List.replicate (places - 1 + 1) '0' := by
      rw [padded, String.toList_append, String.toList_ofList, List.replicate_succ']
      rfl
    rw [hzeros, trimZeros_zeros]

/-- A number is written with an exponent if it is below one in ten thousand. -/
def HasExponent (places n : Nat) : Prop := n % 10 ^ places ≠ 0 ∧ n * 10000 < 10 ^ places

instance (places n : Nat) : Decidable (HasExponent places n) :=
  inferInstanceAs (Decidable (_ ∧ _))

theorem toList_decimalText (u : Unit) (h : ¬HasExponent places n) :
    (decimalText places n ++ u.text).toList = (decimalPart places n u).text := by
  have hpow : Nat.pow 10 places = 10 ^ places := rfl
  rw [String.toList_append]
  simp only [decimalText, decimalPart, Part.text, hpow]
  split
  · rename_i hzero
    rw [(trimZeros_padded_eq_nil_iff places _).mpr hzero]
    rfl
  · rename_i hzero
    have hlarge : ¬n * 10000 < 10 ^ places := fun hlt => h ⟨hzero, hlt⟩
    have hne : (trimZeros (padded places (n % 10 ^ places)).toList).isEmpty = false := by
      simpa using mt (trimZeros_padded_eq_nil_iff places _).mp hzero
    rw [if_neg hlarge, pointed, hne, if_neg Bool.false_ne_true, String.toList_append,
      String.toList_append, String.toList_ofList]
    simp

/-- Behind the digits of a number with an exponent stands what is no unit. -/
theorem exists_exponent (h : HasExponent places n) :
    ∃ digits fraction more, (decimalText places n).toList =
        digits ++ (pointed fraction ++ 'e' :: more) ∧
      digits ≠ [] ∧ (∀ c ∈ digits, Text.isDigit c = true) ∧
      ∀ c ∈ fraction, Text.isDigit c = true := by
  have hdigits : ∀ c ∈ (toString n).toList, Text.isDigit c = true := fun c hc =>
    Text.isDigit_of_ascii (Text.ascii_of_mem_toString hc)
  have hpow : Nat.pow 10 places = 10 ^ places := rfl
  refine ⟨(toString n).toList.take 1, trimZeros ((toString n).toList.drop 1),
    '-' :: (twoDigits (places + 1 - (toString n).toList.length)).toList, ?_, ?_, ?_, ?_⟩
  · simp only [decimalText, hpow, if_neg h.1, if_pos h.2, String.toList_append,
      String.toList_ofList, List.append_assoc]
    rfl
  · simp
  · intro c hc
    exact hdigits c (List.mem_of_mem_take hc)
  · intro c hc
    exact hdigits c (List.mem_of_mem_drop (mem_of_mem_trimZeros hc))

/-- A whole number of some unit. -/
def wholePart (n : Nat) (u : Unit) : Part := ⟨(toString n).toList, [], u⟩

theorem text_wholePart (n : Nat) (u : Unit) :
    (wholePart n u).text = (toString n).toList ++ u.text.toList := rfl

theorem worth_wholePart (n : Nat) (u : Unit) : (wholePart n u).worth = n * u.micros := by
  simp only [Part.worth, wholePart, Text.natOfDigits_toString, Text.natOfDigits_nil, Nat.zero_mul,
    Nat.zero_div, Nat.add_zero]

theorem exact_wholePart (hn : n < 10 ^ precision) (u : Unit) : (wholePart n u).Exact where
  whole_ne_nil := Text.toString_ne_nil n
  whole_digits c hc := Text.isDigit_of_ascii (Text.ascii_of_mem_toString hc)
  fraction_digits c hc := absurd hc List.not_mem_nil
  length_whole := Text.length_toString_le (by decide) hn
  length_fraction := Nat.zero_le _
  dvd := by
    simp only [wholePart, Text.natOfDigits_nil, Nat.zero_mul]
    exact dvd_zero _
  product := by
    simp only [wholePart, Text.natOfDigits_nil, Nat.zero_mul]
    decide

/-- The hours and minutes of a duration of at least a second. -/
def clockParts (n : Nat) : List Part :=
  (if n / 3600000000 = 0 then [] else [wholePart (n / 3600000000) .hour]) ++
    (if n / 60000000 % 60 = 0 then [] else [wholePart (n / 60000000 % 60) .minute])

/-- The parts that a duration is written as. -/
def partsOf (n : Nat) : List Part :=
  if n < 1000 then [wholePart n .micro]
  else if n < 1000000 then [decimalPart 3 n .milli]
  else clockParts n ++
    (if n % 60000000 = 0 then [] else [decimalPart 6 (n % 60000000) .second])

/-- Hours and minutes leave something over, but less than a hundred microseconds. -/
def LeavesLittle (n : Nat) : Prop := 60000000 ≤ n ∧ 0 < n % 60000000 ∧ n % 60000000 < 100

instance (n : Nat) : Decidable (LeavesLittle n) := inferInstanceAs (Decidable (_ ∧ _))

theorem texts_append (ps qs : List Part) : texts (ps ++ qs) = texts ps ++ texts qs :=
  List.flatMap_append

theorem texts_singleton (p : Part) : texts [p] = p.text := List.append_nil _

theorem worths_append (ps qs : List Part) : worths (ps ++ qs) = worths ps + worths qs := by
  rw [worths, List.map_append, List.sum_append]
  rfl

theorem worths_singleton (p : Part) : worths [p] = p.worth := Nat.add_zero _

theorem toList_wholePart (n : Nat) (u : Unit) :
    (if n = 0 then "" else toString n ++ u.text).toList =
      texts (if n = 0 then [] else [wholePart n u]) := by
  split
  · rfl
  · rw [texts_singleton, text_wholePart, String.toList_append]

theorem toList_formatMicros_of_second (h : 1000000 ≤ n) :
    (formatMicros n).toList = texts (clockParts n) ++
      (if n % 60000000 = 0 then [] else (decimalText 6 (n % 60000000) ++ "s").toList) := by
  have hzero : n ≠ 0 := by omega
  have hmicro : ¬n < 1000 := by omega
  have hmilli : ¬n < 1000000 := by omega
  rw [clockParts, texts_append, ← toList_wholePart, ← toList_wholePart]
  simp only [formatMicros, if_neg hzero, if_neg hmicro, if_neg hmilli, String.toList_append]
  congr 1
  split
  · rfl
  · rw [String.toList_append]

theorem toList_formatMicros (h0 : n ≠ 0) (h : ¬LeavesLittle n) :
    (formatMicros n).toList = texts (partsOf n) := by
  unfold partsOf
  by_cases hmicro : n < 1000
  · rw [if_pos hmicro, texts_singleton, text_wholePart, formatMicros, if_neg h0, if_pos hmicro,
      String.toList_append]
    rfl
  · by_cases hmilli : n < 1000000
    · have hplain : ¬HasExponent 3 n := by
        rintro ⟨_, hlt⟩
        omega
      rw [if_neg hmicro, if_pos hmilli, texts_singleton, ← toList_decimalText .milli hplain,
        formatMicros, if_neg h0, if_neg hmicro, if_pos hmilli]
      rfl
    · rw [if_neg hmicro, if_neg hmilli, toList_formatMicros_of_second (by omega), texts_append]
      split
      · rfl
      · have hplain : ¬HasExponent 6 (n % 60000000) := by
          rintro ⟨_, hlt⟩
          exact h ⟨by omega, by omega, by omega⟩
        rw [texts_singleton, ← toList_decimalText .second hplain]
        rfl

theorem worths_wholePart (n : Nat) (u : Unit) :
    worths (if n = 0 then [] else [wholePart n u]) = n * u.micros := by
  split
  · rename_i hzero
    rw [hzero, Nat.zero_mul]
    rfl
  · rw [worths_singleton, worth_wholePart]

theorem worths_clockParts (n : Nat) : worths (clockParts n) + n % 60000000 = n := by
  rw [clockParts, worths_append, worths_wholePart, worths_wholePart]
  simp only [Unit.micros]
  omega

theorem worths_partsOf (n : Nat) : worths (partsOf n) = n := by
  unfold partsOf
  split
  · rw [worths_singleton, worth_wholePart]
    exact Nat.mul_one n
  · split
    · rw [worths_singleton, worth_decimalPart (by decide) rfl]
    · have hclock := worths_clockParts n
      rw [worths_append]
      split
      · rename_i hzero
        rw [hzero] at hclock
        exact hclock
      · rw [worths_singleton, worth_decimalPart (by decide) rfl, hclock]

theorem exact_clockParts (hn : n < 10 ^ precision) : ∀ p ∈ clockParts n, p.Exact := by
  have hwhole : ∀ {k : Nat} (u : Unit), k ≤ n →
      ∀ p ∈ if k = 0 then [] else [wholePart k u], p.Exact := by
    intro k u hk p hp
    split at hp
    · cases hp
    · rw [List.mem_singleton.mp hp]
      exact exact_wholePart (Nat.lt_of_le_of_lt hk hn) u
  exact List.forall_mem_append.mpr ⟨hwhole .hour (by omega), hwhole .minute (by omega)⟩

theorem exact_partsOf (hn : n < 10 ^ precision) : ∀ p ∈ partsOf n, p.Exact := by
  unfold partsOf
  split
  · exact List.forall_mem_singleton.mpr (exact_wholePart hn .micro)
  · split
    · exact List.forall_mem_singleton.mpr (exact_decimalPart (by decide) (by decide) rfl hn)
    · refine List.forall_mem_append.mpr ⟨exact_clockParts hn, ?_⟩
      split
      · exact List.forall_mem_nil _
      · have hrest : n % 60000000 < 10 ^ precision := Nat.lt_of_le_of_lt (Nat.mod_le n _) hn
        exact List.forall_mem_singleton.mpr (exact_decimalPart (by decide) (by decide) rfl hrest)

theorem inRange_zero_add (hn : InRange n) : InRange (zero.micros + n) := by
  have hzero : zero.micros + n = n := Int.zero_add _
  rwa [hzero]

theorem partsOf_ne_nil (h0 : n ≠ 0) : partsOf n ≠ [] := by
  intro hnil
  have hworths := worths_partsOf n
  rw [hnil] at hworths
  exact h0 hworths.symm

theorem clockParts_ne_nil (h : 60000000 ≤ n) : clockParts n ≠ [] := by
  intro hnil
  have hclock := worths_clockParts n
  rw [hnil] at hclock
  change 0 + n % 60000000 = n at hclock
  omega

/-- Without an exponent the text reads back. -/
theorem ofUnsigned_formatMicros (h0 : n ≠ 0) (h : ¬LeavesLittle n) (hn : InRange n) :
    ofUnsigned (formatMicros n).toList = .ok ⟨n, hn⟩ := by
  have hps := exact_partsOf (lt_precision_of_inRange hn)
  have hrange : InRange (zero.micros + worths (partsOf n)) := by
    rw [worths_partsOf]
    exact inRange_zero_add hn
  have hend : ([] : List Char).head? ≠ some 's' := by simp
  have hread := ofUnsigned_texts_append hps (partsOf_ne_nil h0) hend hrange
  rw [List.append_nil, addParts_nil] at hread
  rw [toList_formatMicros h0 h, hread]
  refine congrArg Except.ok (ext_micros ?_)
  change 0 + (worths (partsOf n) : Int) = n
  rw [worths_partsOf, Int.zero_add]

/-- Reading stops at the number with the exponent. -/
theorem ofUnsigned_formatMicros_of_leavesLittle (h : LeavesLittle n) (hn : InRange n) :
    ofUnsigned (formatMicros n).toList =
      .error (.invalid (formatMicros n) (texts (clockParts n)).length) := by
  obtain ⟨hlarge, hpos, hlt⟩ := h
  have hexponent : HasExponent 6 (n % 60000000) := ⟨by omega, by omega⟩
  obtain ⟨digits, fraction, more, htext, hne, hd, hf⟩ := exists_exponent hexponent
  -- what is left of the text behind hours and minutes
  have hrest : (decimalText 6 (n % 60000000) ++ "s").toList =
      digits ++ (pointed fraction ++ 'e' :: (more ++ ['s'])) := by
    rw [String.toList_append, htext, List.append_assoc, List.append_assoc]
    rfl
  have hformat : (formatMicros n).toList = texts (clockParts n) ++
      (digits ++ (pointed fraction ++ 'e' :: (more ++ ['s']))) := by
    rw [toList_formatMicros_of_second (by omega), if_neg (by omega), hrest]
  have hnone : partAt? (digits ++ (pointed fraction ++ 'e' :: (more ++ ['s']))) = none := by
    rw [partAt?_append hne hd hf]
    · rfl
    · intro c hc
      cases hc
      decide
  obtain ⟨d, ds, rfl⟩ := List.exists_cons_of_ne_nil hne
  have hhead : (d :: ds ++ (pointed fraction ++ 'e' :: (more ++ ['s']))).head? ≠ some 's' := by
    intro hs
    cases hs
    exact absurd (hd 's' List.mem_cons_self) (by decide)
  have hclock := worths_clockParts n
  have hrange : InRange (zero.micros + worths (clockParts n)) :=
    inRange_zero_add (hn.mono (Int.natCast_nonneg _) (Int.ofNat_le.mpr (by omega)))
  rw [hformat, ofUnsigned_texts_append (exact_clockParts (lt_precision_of_inRange hn))
    (clockParts_ne_nil hlarge) hhead hrange, addParts_of_none (by simp) hnone, ← hformat,
    String.ofList_toList]

theorem ofText_of_digit {text : String} {c : Char} {cs : List Char} (h : text.toList = c :: cs)
    (hc : Text.isDigit c = true) : ofText text = ofUnsigned text.toList := by
  have hminus : c ≠ '-' := by
    rintro rfl
    exact absurd hc (by decide)
  have hplus : c ≠ '+' := by
    rintro rfl
    exact absurd hc (by decide)
  rw [ofText, h]
  split
  · rename_i heq
    exact absurd (List.cons.inj heq).1 hminus
  · rename_i heq
    exact absurd (List.cons.inj heq).1 hplus
  · rfl

/-- An unsigned text starts with a digit. -/
theorem exists_digit_formatMicros (hn : InRange n) :
    ∃ c cs, (formatMicros n).toList = c :: cs ∧ Text.isDigit c = true := by
  have hdigits := lt_precision_of_inRange hn
  by_cases h0 : n = 0
  · rw [h0]
    exact ⟨'0', [], rfl, by decide⟩
  · by_cases h : LeavesLittle n
    · have hlarge : 60000000 ≤ n := h.1
      obtain ⟨c, cs, hstart, hc, _⟩ := exists_cons_texts (exact_clockParts hdigits)
        (clockParts_ne_nil hlarge)
        (if n % 60000000 = 0 then [] else (decimalText 6 (n % 60000000) ++ "s").toList)
      exact ⟨c, cs, by rw [toList_formatMicros_of_second (by omega), hstart], hc⟩
    · obtain ⟨c, cs, hstart, hc, _⟩ := exists_cons_texts (exact_partsOf hdigits)
        (partsOf_ne_nil h0) []
      exact ⟨c, cs, by rw [toList_formatMicros h0 h, ← hstart, List.append_nil], hc⟩

theorem ofUnsigned_format (hn : InRange n) :
    ofUnsigned (formatMicros n).toList =
      if LeavesLittle n then .error (.invalid (formatMicros n) (texts (clockParts n)).length)
      else .ok ⟨n, hn⟩ := by
  by_cases h0 : n = 0
  · subst n
    rfl
  · by_cases h : LeavesLittle n
    · rw [if_pos h, ofUnsigned_formatMicros_of_leavesLittle h hn]
    · rw [if_neg h, ofUnsigned_formatMicros h0 h hn]

/-- The text of a duration reads back as the duration, unless hours and minutes leave less than a
hundred microseconds over: then reading stops where the seconds start. -/
theorem ofText_format (d : Duration) :
    ofText d.format =
      if LeavesLittle d.micros.natAbs then
        .error (.invalid (formatMicros d.micros.natAbs)
          (texts (clockParts d.micros.natAbs)).length)
      else .ok d := by
  have hrange := d.inRange
  have hn : InRange d.micros.natAbs := by
    simp only [InRange, dayLimit, microsPerDay, microsPerSecond] at hrange ⊢
    omega
  have hread := ofUnsigned_format hn
  by_cases hneg : d.micros < 0
  · have htext : d.format.toList = '-' :: (formatMicros d.micros.natAbs).toList := by
      rw [format, if_pos hneg, String.toList_append]
      rfl
    have hsign : -(d.micros.natAbs : Int) = d.micros := by omega
    have hback : InRange (-(d.micros.natAbs : Int)) := by rwa [hsign]
    rw [ofText, htext]
    change (ofUnsigned (formatMicros d.micros.natAbs).toList >>= fun e => checked (-e.micros)) = _
    rw [hread]
    split
    · rfl
    · change checked (-(d.micros.natAbs : Int)) = _
      rw [checked_of_inRange hback]
      exact congrArg Except.ok (ext_micros hsign)
  · have htext : d.format = formatMicros d.micros.natAbs := by
      rw [format, if_neg hneg, String.empty_append]
    obtain ⟨c, cs, hstart, hc⟩ := exists_digit_formatMicros hn
    have hsame : (⟨d.micros.natAbs, hn⟩ : Duration) = d :=
      ext_micros (Int.natAbs_of_nonneg (Int.not_lt.mp hneg))
    rw [htext, ofText_of_digit hstart hc, hread, hsame]

def hourAndMicro : Duration := ⟨3600000001, by decide⟩

/-- The text of an hour and a microsecond does not read back. -/
theorem hourAndMicro_not_read_back :
    hourAndMicro.format = "1h1e-06s" ∧
      ofText hourAndMicro.format = .error (.invalid "1h1e-06s" 2) := by
  decide +kernel

end JogShuttle.Duration
