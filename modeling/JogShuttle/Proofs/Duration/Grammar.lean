import JogShuttle.Proofs.Duration.Part

/-!
# The grammar of durations

A text in the grammar is a sign, and a single zero or parts one after the other. It is read as the
sum of its parts, unless something is too large to count with. A text outside the grammar is never
read: the error names the end of the longest beginning that is written as parts, if these can be
added.
-/

set_option autoImplicit false

namespace JogShuttle.Duration

variable {p : Part} {ps : List Part} {cs front rest whole : List Char}

/-- An unsigned text in the grammar and its parts; a single zero has none. -/
inductive InGrammar : List Char → List Part → Prop
  | zero : InGrammar ['0'] []
  | parts {cs : List Char} {ps : List Part} (hne : ps ≠ []) (h : Written ps cs) : InGrammar cs ps

/-- The factor that the sign of a text stands for, and what follows the sign. -/
def splitSign : List Char → Int × List Char
  | '-' :: cs => (-1, cs)
  | '+' :: cs => (1, cs)
  | cs => (1, cs)

/-- The longest beginning of a text that is written as parts. -/
structure LongestStart (cs : List Char) (ps : List Part) (front : List Char) : Prop where
  written : Written ps front
  start : front <+: cs
  longest : ∀ qs more, Written qs more → more <+: cs → more.length ≤ front.length

section PartAt

theorem eq_of_unitAt? {u : Unit} (h : unitAt? cs = some (u, rest)) :
    cs = u.text.toList ++ rest := by
  unfold unitAt? at h
  split at h <;> cases h <;> rfl

theorem fractionAt_cases (cs : List Char) :
    fractionAt cs = ([], cs) ∨ cs = '.' :: ((fractionAt cs).1 ++ (fractionAt cs).2) := by
  unfold fractionAt
  split
  · exact .inr (congrArg _ List.takeWhile_append_dropWhile.symm)
  · exact .inl rfl

theorem isDigit_of_mem_fractionAt {c : Char} (h : c ∈ (fractionAt cs).1) :
    Text.isDigit c = true := by
  unfold fractionAt at h
  split at h
  · exact List.mem_takeWhile_imp h
  · cases h

/-- What is read as a part is written as one. -/
theorem exists_written_of_partAt? (h : partAt? cs = some (p, rest)) :
    ∃ piece, p.Written piece ∧ cs = piece ++ rest := by
  have hsplit : cs = cs.takeWhile Text.isDigit ++ cs.dropWhile Text.isDigit :=
    List.takeWhile_append_dropWhile.symm
  simp only [partAt?] at h
  split at h
  · cases h
  · rename_i hne
    obtain ⟨⟨u, more⟩, hu, he⟩ := Option.map_eq_some_iff.mp h
    cases he
    have hunit := eq_of_unitAt? hu
    have hform : ∃ piece, cs = piece ++ more ∧
        ((fractionAt (cs.dropWhile Text.isDigit)).1 = [] ∧
            piece = cs.takeWhile Text.isDigit ++ u.text.toList ∨
          piece = cs.takeWhile Text.isDigit ++
            '.' :: ((fractionAt (cs.dropWhile Text.isDigit)).1 ++ u.text.toList)) := by
      rcases fractionAt_cases (cs.dropWhile Text.isDigit) with hplain | hpoint
      · rw [hplain] at hunit ⊢
        refine ⟨_, ?_, .inl ⟨rfl, rfl⟩⟩
        rw [List.append_assoc, ← hunit]
        exact hsplit
      · refine ⟨_, ?_, .inr rfl⟩
        rw [List.append_assoc, List.cons_append, List.append_assoc, ← hunit, ← hpoint]
        exact hsplit
    obtain ⟨piece, hcs, hpiece⟩ := hform
    exact ⟨piece, {
      whole_ne_nil := by simpa using hne
      whole_digits := fun c hc => List.mem_takeWhile_imp hc
      fraction_digits := fun c hc => isDigit_of_mem_fractionAt hc
      form := hpiece }, hcs⟩

/-- Behind the unit nothing is taken but the rest of a longer unit. -/
theorem exists_unitAt?_text (u : Unit) (rest : List Char) :
    ∃ v more, unitAt? (u.text.toList ++ rest) = some (v, more) ∧ more.length ≤ rest.length := by
  by_cases h : rest.head? = some 's'
  · obtain ⟨more, rfl⟩ := List.head?_eq_some_iff.mp h
    cases u with
    | minute => exact ⟨.milli, more, rfl, Nat.le_succ _⟩
    | _ => exact ⟨_, _, rfl, Nat.le_refl _⟩
  · exact ⟨u, rest, unitAt?_text u h, Nat.le_refl _⟩

theorem Part.Written.exists_partAt? (hp : p.Written cs) (rest : List Char) :
    ∃ q more, partAt? (cs ++ rest) = some (q, more) ∧ more.length ≤ rest.length := by
  obtain ⟨u, more, hu, hle⟩ := exists_unitAt?_text p.unit rest
  refine ⟨⟨p.whole, p.fraction, u⟩, more, ?_, hle⟩
  rw [hp.partAt?_eq, hu]
  rfl

end PartAt

/-- The parts that a text starts with, and what is left of it. -/
def partsAt (cs : List Char) : List Part × List Char :=
  match _h : partAt? cs with
  | none => ([], cs)
  | some (p, rest) => (p :: (partsAt rest).1, (partsAt rest).2)
termination_by cs.length
decreasing_by all_goals exact length_partAt?_lt _h

section PartsAt

theorem partsAt_of_none (h : partAt? cs = none) : partsAt cs = ([], cs) := by
  rw [partsAt]
  split
  · rfl
  · rename_i hsome
    rw [h] at hsome
    cases hsome

theorem partsAt_of_some (h : partAt? cs = some (p, rest)) :
    partsAt cs = (p :: (partsAt rest).1, (partsAt rest).2) := by
  rw [partsAt]
  split
  · rename_i hnone
    rw [h] at hnone
    cases hnone
  · rename_i hsome
    rw [h] at hsome
    cases hsome
    rfl

theorem length_partsAt_le (cs : List Char) : (partsAt cs).2.length ≤ cs.length := by
  induction cs using partsAt.induct with
  | case1 cs h => rw [partsAt_of_none h]
  | case2 cs p rest h ih =>
    rw [partsAt_of_some h]
    exact ih.trans (length_partAt?_lt h).le

theorem exists_written_partsAt (cs : List Char) :
    ∃ front, Written (partsAt cs).1 front ∧ cs = front ++ (partsAt cs).2 := by
  induction cs using partsAt.induct with
  | case1 cs h =>
    rw [partsAt_of_none h]
    exact ⟨[], .nil, rfl⟩
  | case2 cs p rest h ih =>
    obtain ⟨piece, hp, hcs⟩ := exists_written_of_partAt? h
    obtain ⟨front, hfront, hrest⟩ := ih
    rw [partsAt_of_some h]
    refine ⟨piece ++ front, .cons hp hfront, ?_⟩
    rw [List.append_assoc, ← hrest]
    exact hcs

/-- The parts are added, and what is left is an error. -/
theorem addParts_eq (cs : List Char) (position : Nat) (sum : Duration) :
    addParts whole position sum cs =
      addAll (partsAt cs).1 sum >>= fun sum =>
        if (partsAt cs).2 = [] then .ok sum
        else .error (.invalid (String.ofList whole)
          (position + (cs.length - (partsAt cs).2.length))) := by
  induction cs using partsAt.induct generalizing position sum with
  | case1 cs h =>
    rw [partsAt_of_none h]
    change _ = if cs = [] then _ else _
    split
    · rename_i hnil
      rw [hnil, addParts_nil]
    · rename_i hne
      rw [addParts_of_none hne h, Nat.sub_self]
      rfl
  | case2 cs p rest h ih =>
    have hshorter := length_partAt?_lt h
    have hle := length_partsAt_le rest
    have hposition : position + (cs.length - rest.length) +
        (rest.length - (partsAt rest).2.length) =
          position + (cs.length - (partsAt rest).2.length) := by omega
    rw [addParts_of_some h, partsAt_of_some h]
    simp only [ih, hposition, addAll, bind_assoc]

/-- At least the written parts at the start of a text are read. -/
theorem length_partsAt_append_le (h : Written ps front) (rest : List Char) :
    (partsAt (front ++ rest)).2.length ≤ rest.length := by
  induction h with
  | nil => exact length_partsAt_le rest
  | @cons p ps piece cs hp hps ih =>
    rw [List.append_assoc]
    -- only the last part can take more than is written: its minutes may go on as milliseconds
    by_cases hnil : ps = []
    · cases hnil
      cases hps
      obtain ⟨q, more, hq, hle⟩ := hp.exists_partAt? rest
      rw [List.nil_append, partsAt_of_some hq]
      exact (length_partsAt_le more).trans hle
    · rw [partsAt_of_some (hp.partAt?_append (hps.head?_append fun h => absurd h hnil))]
      exact ih

theorem Written.partsAt_eq (h : Written ps cs) : partsAt cs = (ps, []) := by
  induction h with
  | nil => exact partsAt_of_none rfl
  | @cons p ps piece cs hp hps ih =>
    have hhead : cs.head? ≠ some 's' := by
      have happend := hps.head?_append fun _ => (by simp : ([] : List Char).head? ≠ some 's')
      rwa [List.append_nil] at happend
    rw [partsAt_of_some (hp.partAt?_append hhead), ih]

/-- A text is written as parts in one way only. -/
theorem Written.unique {qs : List Part} (hp : Written ps cs) (hq : Written qs cs) : ps = qs :=
  congrArg Prod.fst (hp.partsAt_eq.symm.trans hq.partsAt_eq)

end PartsAt

section Reading

/-- Parts can be added if their sum is in range and so are the numerators of their fractions. -/
def Addable (ps : List Part) : Prop := (∀ p ∈ ps, InRange p.product) ∧ InRange (amounts ps)

/-- The error of an unsigned text outside the grammar. -/
inductive Refusal (cs : List Char) : TextError → Prop
  | empty (h : cs = []) : Refusal cs .empty
  | invalid {ps : List Part} {front : List Char} (hne : cs ≠ []) (h : LongestStart cs ps front)
      (hadd : Addable ps) : Refusal cs (.invalid (String.ofList cs) front.length)
  | tooLarge {ps : List Part} {front : List Char} {e : TextError} (h : LongestStart cs ps front)
      (hadd : ¬Addable ps) (he : e.TooLarge) : Refusal cs e

theorem not_written_zero (hne : ps ≠ []) : ¬Written ps ['0'] := by
  intro h
  obtain ⟨d, ds, heq, _, hds⟩ := h.exists_cons hne
  cases heq
  exact hds rfl

/-- A text in the grammar has one reading. -/
theorem InGrammar.unique {qs : List Part} (hp : InGrammar cs ps) (hq : InGrammar cs qs) :
    ps = qs := by
  cases hp with
  | zero =>
    cases hq with
    | zero => rfl
    | parts hne h => exact absurd h (not_written_zero hne)
  | parts hne h =>
    cases hq with
    | zero => exact absurd h (not_written_zero hne)
    | parts _ h' => exact h.unique h'

theorem longestStart_partsAt (h : Written (partsAt cs).1 front)
    (hcs : cs = front ++ (partsAt cs).2) : LongestStart cs (partsAt cs).1 front where
  written := h
  start := ⟨_, hcs.symm⟩
  longest := by
    rintro qs more hmore ⟨rest, hrest⟩
    have hle := length_partsAt_append_le hmore rest
    have hlength := congrArg List.length hcs
    have hlength' := congrArg List.length hrest
    rw [hrest] at hle
    rw [List.length_append] at hlength hlength'
    omega

theorem ofUnsigned_computes (h : InGrammar cs ps) :
    Computes (∀ p ∈ ps, InRange p.product) (amounts ps) (ofUnsigned cs) := by
  cases h with
  | zero => exact .value (fun _ hp => absurd hp List.not_mem_nil) (by decide)
  | parts hne h =>
    have hread : ofUnsigned cs = addAll ps zero := by
      have hstart := h.ofUnsigned_append hne []
      rw [List.append_nil, addParts_eq, h.partsAt_eq] at hstart
      exact hstart.trans (bind_pure _)
    rw [hread]
    exact addAll_zero_computes ps

/-- Outside the grammar something is left behind the parts. -/
theorem rest_ne_nil_of_not_inGrammar (hne : cs ≠ []) (h : ∀ ps, ¬InGrammar cs ps) :
    (partsAt cs).2 ≠ [] := by
  intro hend
  obtain ⟨front, hfront, hsplit⟩ := exists_written_partsAt cs
  rw [hend, List.append_nil] at hsplit
  rw [← hsplit] at hfront
  refine h _ (.parts (fun hnil => ?_) hfront)
  rw [hnil] at hfront
  cases hfront
  exact hne rfl

theorem ofUnsigned_refusal (h : ∀ ps, ¬InGrammar cs ps) :
    ∃ e, ofUnsigned cs = .error e ∧ Refusal cs e := by
  by_cases hnil : cs = []
  · cases hnil
    exact ⟨.empty, rfl, .empty rfl⟩
  · obtain ⟨front, hfront, hsplit⟩ := exists_written_partsAt cs
    have hstart := longestStart_partsAt hfront hsplit
    have hleft := rest_ne_nil_of_not_inGrammar hnil h
    have hposition : 0 + (cs.length - (partsAt cs).2.length) = front.length := by
      have hlength := congrArg List.length hsplit
      rw [List.length_append] at hlength
      omega
    have hzero : cs ≠ ['0'] := by
      rintro rfl
      exact h [] .zero
    have hread : ofUnsigned cs = addAll (partsAt cs).1 zero >>= fun _ =>
        .error (.invalid (String.ofList cs) front.length) := by
      rw [ofUnsigned, if_neg (by simpa using hnil), if_neg hzero, addParts_eq, hposition]
      simp only [if_neg hleft]
    have hadd := addAll_zero_computes (partsAt cs).1
    rw [hread]
    generalize addAll (partsAt cs).1 zero = r at hadd ⊢
    cases hadd with
    | value hproducts hrange => exact ⟨_, rfl, .invalid hnil hstart ⟨hproducts, hrange⟩⟩
    | tooLarge hno he => exact ⟨_, rfl, .tooLarge hstart hno he⟩

theorem ofText_eq {text : String} {sign : Int} (h : splitSign text.toList = (sign, cs)) :
    (sign = 1 ∧ ofText text = ofUnsigned cs) ∨
      (sign = -1 ∧ ofText text = ofUnsigned cs >>= fun d => checked (-d.micros)) := by
  unfold ofText
  generalize text.toList = t at h ⊢
  cases t with
  | nil =>
    cases h
    exact .inl ⟨rfl, rfl⟩
  | cons c t =>
    by_cases hminus : c = '-'
    · cases hminus
      cases h
      exact .inr ⟨rfl, rfl⟩
    · by_cases hplus : c = '+'
      · cases hplus
        cases h
        exact .inl ⟨rfl, rfl⟩
      · have hnone : splitSign (c :: t) = (1, c :: t) := by simp [splitSign, hminus, hplus]
        cases hnone.symm.trans h
        exact .inl ⟨rfl, by simp [hminus, hplus]⟩

theorem ofText_computes {text : String} {sign : Int} (htext : splitSign text.toList = (sign, cs))
    (h : InGrammar cs ps) :
    Computes (∀ p ∈ ps, InRange p.product) (sign * amounts ps) (ofText text) := by
  have hread := ofUnsigned_computes h
  rcases ofText_eq htext with ⟨rfl, heq⟩ | ⟨rfl, heq⟩
  · rwa [heq, Int.one_mul]
  · rw [heq, Int.neg_one_mul]
    refine (hread.bind fun _ => checked_computes _).congr fun hn => ?_
    have hrange : InRange (amounts ps) := by
      simp only [InRange, dayLimit, microsPerDay, microsPerSecond] at hn ⊢
      omega
    simp only [hrange, and_true]

/-- A text in the grammar has one list of parts and is read as their sum with its sign, unless the
sum or the numerator of a fraction is out of range. Fractions of no more significant digits than
decimal arithmetic has are rounded once, and ten digits behind a point never lead out of range. A
text outside the grammar is never read: it is invalid behind its longest beginning of parts, if
these can be added. -/
theorem ofText_grammar {text : String} {sign : Int}
    (htext : splitSign text.toList = (sign, cs)) :
    (∀ ps, InGrammar cs ps →
      (∀ qs, InGrammar cs qs → qs = ps) ∧
      Computes (∀ p ∈ ps, InRange p.product) (sign * amounts ps) (ofText text) ∧
      ((∀ p ∈ ps, (significant p.fraction).length ≤ precision) →
        Computes (∀ p ∈ ps, InRange p.product) (sign * roundeds ps) (ofText text)) ∧
      ((∀ p ∈ ps, p.fraction.length ≤ 10) →
        Computes True (sign * roundeds ps) (ofText text))) ∧
    ((∀ ps, ¬InGrammar cs ps) → ∃ e, ofText text = .error e ∧ Refusal cs e) := by
  constructor
  · intro ps h
    have hread := ofText_computes htext h
    have hrounded : (∀ p ∈ ps, (significant p.fraction).length ≤ precision) →
        Computes (∀ p ∈ ps, InRange p.product) (sign * roundeds ps) (ofText text) := by
      intro hdigits
      rwa [← amounts_eq_roundeds hdigits]
    refine ⟨fun qs hqs => hqs.unique h, hread, hrounded, fun hshort => ?_⟩
    have hdigits : ∀ p ∈ ps, (significant p.fraction).length ≤ precision := fun p hp =>
      length_significant_le ((hshort p hp).trans (by decide))
    refine (hrounded hdigits).congr fun _ => ?_
    simp only [iff_true]
    exact fun p hp => p.inRange_product_of_length_le (hshort p hp)
  · intro h
    obtain ⟨e, he, hrefusal⟩ := ofUnsigned_refusal h
    refine ⟨e, ?_, hrefusal⟩
    rcases ofText_eq htext with ⟨_, heq⟩ | ⟨_, heq⟩
    · rw [heq, he]
    · rw [heq, he]
      rfl

theorem grammar_of_signedParts :
    ofText "-1.5h1.us" = .ok ⟨-5400000001, by decide⟩ ∧
      ∃ e, ofText "+5 ms" = .error e ∧ Refusal "5 ms".toList e := by
  have hparts : InGrammar "1.5h1.us".toList [⟨['1'], ['5'], .hour⟩, ⟨['1'], [], .micro⟩] := by
    have hfirst : Part.Written ⟨['1'], ['5'], .hour⟩ "1.5h".toList :=
      ⟨by decide, List.all_eq_true.mp (by decide), List.all_eq_true.mp (by decide), .inr rfl⟩
    have hsecond : Part.Written ⟨['1'], [], .micro⟩ "1.us".toList :=
      ⟨by decide, List.all_eq_true.mp (by decide), List.all_eq_true.mp (by decide), .inr rfl⟩
    exact .parts (by decide) (.cons hfirst (.cons hsecond .nil))
  have hnone : ∀ ps, ¬InGrammar "5 ms".toList ps := by
    intro ps h
    cases h with
    | parts _ h =>
      have hleft := h.partsAt_eq
      rw [partsAt_of_none (by decide)] at hleft
      cases hleft
  have hminus : splitSign "-1.5h1.us".toList = (-1, "1.5h1.us".toList) := by decide
  have hplus : splitSign "+5 ms".toList = (1, "5 ms".toList) := by decide
  have hsum : (-1 : Int) * roundeds [⟨['1'], ['5'], .hour⟩, ⟨['1'], [], .micro⟩] = -5400000001 := by
    decide
  have hread := ((ofText_grammar hminus).1 _ hparts).2.2.2 (by decide)
  rw [hsum] at hread
  exact ⟨hread.eq_ok trivial (by decide), (ofText_grammar hplus).2 hnone⟩

/-- The numerator of a long fraction in microseconds can be out of range though the fraction is
small, a fraction beyond decimal arithmetic is rounded twice, and parts that are too large are told
before what is wrong behind them. -/
theorem long_fraction_refused :
    (∃ ps, InGrammar "0.123456789012345678s".toList ps ∧ roundeds ps = 123457) ∧
      ofText "0.123456789012345678s" = .error (.outOfRange ⟨714449010488⟩) ∧
    (∃ ps, InGrammar "0.00000050000000000000000000000000000000001s".toList ps ∧
      roundeds ps = 1) ∧
      ofText "0.00000050000000000000000000000000000000001s" = .ok zero ∧
    (∀ ps, ¬InGrammar "100000000000h!".toList ps) ∧
      ofText "100000000000h!" = .error (.outOfRange ⟨4166666666⟩) := by
  have hlong : Part.Written ⟨['0'], "123456789012345678".toList, .second⟩
      "0.123456789012345678s".toList :=
    ⟨by decide, List.all_eq_true.mp (by decide), List.all_eq_true.mp (by decide +kernel), .inr rfl⟩
  have hlonger : Part.Written ⟨['0'], "00000050000000000000000000000000000000001".toList, .second⟩
      "0.00000050000000000000000000000000000000001s".toList :=
    ⟨by decide, List.all_eq_true.mp (by decide), List.all_eq_true.mp (by decide +kernel), .inr rfl⟩
  refine ⟨⟨_, .parts (by decide) (.cons hlong .nil), ?_⟩, ?_,
    ⟨_, .parts (by decide) (.cons hlonger .nil), ?_⟩, ?_, ?_, ?_⟩
  · decide +kernel
  · decide +kernel
  · decide +kernel
  · decide +kernel
  · intro ps h
    cases h with
    | parts _ h =>
      have hfirst : partAt? "100000000000h!".toList =
          some (⟨"100000000000".toList, [], .hour⟩, ['!']) := by decide +kernel
      have hread := h.partsAt_eq
      rw [partsAt_of_some hfirst, partsAt_of_none (by decide)] at hread
      cases hread
  · decide +kernel

end Reading

end JogShuttle.Duration
