import JogShuttle.Text.Digit
import Mathlib.Data.List.Induction
import Mathlib.Tactic.Ring

/-!
# Decimal numbers

Digits behind digits count by their places, zeros in front do not count, and the written form of a
number is a run of digits that reads back as the number.
-/

set_option autoImplicit false

namespace JogShuttle.Text

variable {c : Char} {cs : List Char}

/-- Characters of a kind are taken up to the first of another kind. -/
theorem takeWhile_dropWhile_append {p : Char → Bool} {more : List Char} (hcs : ∀ c ∈ cs, p c = true)
    (hmore : ∀ c, more.head? = some c → p c = false) :
    (cs ++ more).takeWhile p = cs ∧ (cs ++ more).dropWhile p = more := by
  rw [List.takeWhile_append_of_pos hcs, List.dropWhile_append_of_pos hcs]
  cases more with
  | nil => simp
  | cons c more => simp [hmore c rfl]

/-- The digits of ASCII are those of the first run. -/
theorem digitValue?_of_ascii (h : c.isDigit = true) : digitValue? c = some (c.toNat - 48) := by
  have hc : '0' ≤ c ∧ c ≤ '9' := by
    simpa [Char.isDigit, Char.le_def] using h
  have hlow : c.val < 128 := UInt32.lt_of_le_of_lt hc.2 (by decide)
  rw [digitValue?, if_pos hlow, if_pos hc]

theorem isDigit_of_ascii (h : c.isDigit = true) : isDigit c = true := by
  rw [isDigit, digitValue?_of_ascii h, Option.isSome_some]

theorem digitValue_of_ascii (h : c.isDigit = true) : digitValue c = c.toNat - 48 := by
  rw [digitValue, digitValue?_of_ascii h, Option.getD_some]

theorem digitValue_le (c : Char) : digitValue c ≤ 9 := by
  unfold digitValue digitValue?
  split
  · split
    · rename_i hc
      have hmax : c.toNat ≤ '9'.toNat := hc.2
      change c.toNat ≤ 57 at hmax
      change c.toNat - 48 ≤ 9
      omega
    · exact Nat.zero_le _
  · cases hrun : digitZeros.find? fun z => z ≤ c.toNat && c.toNat < z + 10 with
    | none => exact Nat.zero_le _
    | some z =>
      have hz := List.find?_some hrun
      simp only [Bool.and_eq_true, decide_eq_true_eq] at hz
      change c.toNat - z ≤ 9
      omega

@[simp] theorem natOfDigits_nil : natOfDigits [] = 0 := rfl

theorem natOfDigits_concat (cs : List Char) (c : Char) :
    natOfDigits (cs ++ [c]) = 10 * natOfDigits cs + digitValue c := by
  rw [natOfDigits, List.foldl_append]
  rfl

theorem natOfDigits_append (cs ds : List Char) :
    natOfDigits (cs ++ ds) = natOfDigits cs * 10 ^ ds.length + natOfDigits ds := by
  induction ds using List.reverseRecOn with
  | nil => simp
  | append_singleton ds d ih =>
    rw [← List.append_assoc, natOfDigits_concat, ih, natOfDigits_concat, List.length_append,
      List.length_singleton, Nat.pow_succ]
    ring

theorem natOfDigits_cons (c : Char) (cs : List Char) :
    natOfDigits (c :: cs) = digitValue c * 10 ^ cs.length + natOfDigits cs := by
  have hone : natOfDigits [c] = digitValue c := by simp [natOfDigits]
  rw [← List.singleton_append, natOfDigits_append, hone]

theorem natOfDigits_lt (cs : List Char) : natOfDigits cs < 10 ^ cs.length := by
  induction cs with
  | nil => decide
  | cons c cs ih =>
    have hc := Nat.mul_le_mul_right (10 ^ cs.length) (digitValue_le c)
    rw [natOfDigits_cons, List.length_cons, Nat.pow_succ]
    omega

theorem natOfDigits_zeros (k : Nat) : natOfDigits (List.replicate k '0') = 0 := by
  induction k with
  | zero => rfl
  | succ k ih =>
    rw [List.replicate_succ', natOfDigits_concat, ih]
    decide

theorem natOfDigits_of_ascii (h : ∀ c ∈ cs, c.isDigit = true) :
    natOfDigits cs = Nat.ofDigitChars 10 cs 0 := by
  induction cs using List.reverseRecOn with
  | nil => rfl
  | append_singleton cs c ih =>
    obtain ⟨hcs, hc⟩ := List.forall_mem_append.mp h
    rw [natOfDigits_concat, Nat.ofDigitChars_append, ih hcs,
      digitValue_of_ascii (hc c (List.mem_singleton.mpr rfl))]
    rfl

theorem ascii_of_mem_toString {n : Nat} (h : c ∈ (toString n).toList) : c.isDigit = true := by
  rw [Nat.toString_eq_repr, Nat.toList_repr] at h
  exact Nat.isDigit_of_mem_toDigits (by decide) (by decide) h

theorem natOfDigits_toString (n : Nat) : natOfDigits (toString n).toList = n := by
  rw [natOfDigits_of_ascii fun c => ascii_of_mem_toString, Nat.toString_eq_repr, Nat.toList_repr]
  exact Nat.ofDigitChars_toDigits (by decide) (by decide)

theorem toString_ne_nil (n : Nat) : (toString n).toList ≠ [] := by
  rw [Nat.toString_eq_repr, Nat.toList_repr]
  exact Nat.toDigits_ne_nil

theorem length_toString_le {n k : Nat} (hk : 0 < k) (h : n < 10 ^ k) :
    (toString n).toList.length ≤ k := by
  rw [Nat.toString_eq_repr, Nat.toList_repr]
  exact (Nat.length_toDigits_le_iff (by decide) hk).mpr h

end JogShuttle.Text
