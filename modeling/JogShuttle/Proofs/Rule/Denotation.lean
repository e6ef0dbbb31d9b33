import JogShuttle.Proofs.Rule.Fault
import JogShuttle.Proofs.Text.Decimal
import Mathlib.Data.Nat.Digits.Defs

/-!
# What designators denote

The words that designate a target are those of a small grammar: a letter for keys, ring levels, ring
steps or detents, and a signed number in range or a letter for the direction. Numbers are written in
the decimal digits of any script. Words of the grammar are read as what they denote, and words that
denote one slot are known by one name.
-/

set_option autoImplicit false

namespace JogShuttle

namespace Text

/-- The number that digits stand for by their places. -/
def placeValue (digits : List Char) : Nat := Nat.ofDigits 10 (digits.map digitValue).reverse

theorem natOfDigits_eq_placeValue (digits : List Char) :
    natOfDigits digits = placeValue digits := by
  unfold placeValue
  induction digits using List.reverseRecOn with
  | nil => rfl
  | append_singleton digits c ih =>
    rw [natOfDigits_concat, ih, List.map_append, List.map_singleton, List.reverse_append,
      List.reverse_singleton, List.singleton_append, Nat.ofDigits_cons]
    exact Nat.add_comm _ _

/-- A number without a sign. -/
structure Numeral (digits : List Char) : Prop where
  ne_nil : digits ≠ []
  digits : ∀ c ∈ digits, isDigit c = true

/-- A number with a sign or without one. -/
inductive SignedNumeral : List Char → Int → Prop
  | plain {digits : List Char} (h : Numeral digits) : SignedNumeral digits (placeValue digits)
  | plus {digits : List Char} (h : Numeral digits) :
      SignedNumeral ('+' :: digits) (placeValue digits)
  | minus {digits : List Char} (h : Numeral digits) :
      SignedNumeral ('-' :: digits) (-placeValue digits)

end Text

/-- The letters that name a direction. -/
def Direction.letters : Direction → List Char
  | left => ['L', 'l']
  | right => ['R', 'r']

theorem Direction.ofLetter?_eq_some_iff {cs : List Char} {d : Direction} :
    ofLetter? (String.ofList cs) = some d ↔ ∃ c ∈ d.letters, cs = [c] := by
  have hone : ∀ c, String.ofList cs = String.ofList [c] ↔ cs = [c] := fun c => String.ofList_inj
  have hL : String.ofList cs = "L" ↔ cs = ['L'] := hone 'L'
  have hl : String.ofList cs = "l" ↔ cs = ['l'] := hone 'l'
  have hR : String.ofList cs = "R" ↔ cs = ['R'] := hone 'R'
  have hr : String.ofList cs = "r" ↔ cs = ['r'] := hone 'r'
  unfold ofLetter?
  simp only [hL, hl, hR, hr]
  constructor
  · intro h
    split at h
    · next hleft =>
      cases h
      rcases hleft with rfl | rfl
      · exact ⟨'L', by decide, rfl⟩
      · exact ⟨'l', by decide, rfl⟩
    · split at h
      · next hright =>
        cases h
        rcases hright with rfl | rfl
        · exact ⟨'R', by decide, rfl⟩
        · exact ⟨'r', by decide, rfl⟩
      · cases h
  · rintro ⟨c, hc, rfl⟩
    cases d with
    | left =>
      rcases List.mem_pair.mp hc with rfl | rfl <;> rfl
    | right =>
      rcases List.mem_pair.mp hc with rfl | rfl <;> rfl

namespace Target

variable {word cs digits : List Char} {c : Char} {n : Int} {t u : Target}

/-- What a word denotes. -/
inductive Denotes : List Char → Target → Prop
  | key {c : Char} {cs : List Char} {n : Int} (hc : c ∈ ['K', 'k'])
      (hcs : Text.SignedNumeral cs n) (hn : 1 ≤ n ∧ n ≤ 15) :
      Denotes (c :: cs) ⟨.keyDown n, some (.keyUp n)⟩
  | shuttle {c : Char} {cs : List Char} {n : Int} (hc : c ∈ ['S', 's'])
      (hcs : Text.SignedNumeral cs n) (hn : -7 ≤ n ∧ n ≤ 7) : Denotes (c :: cs) ⟨.shuttle n, none⟩
  | increment {c l : Char} {d : Direction} (hc : c ∈ ['I', 'i']) (hl : l ∈ d.letters) :
      Denotes [c, l] ⟨.increment d, none⟩
  | jog {c l : Char} {d : Direction} (hc : c ∈ ['J', 'j']) (hl : l ∈ d.letters) :
      Denotes [c, l] ⟨.jog d, none⟩

section Numbers

theorem splitSign_of_numeral (h : Text.Numeral digits) : splitSign digits = (false, digits) := by
  have hsigns : Text.isDigit '-' = false ∧ Text.isDigit '+' = false := by decide
  unfold splitSign
  split
  · rw [h.digits '-' List.mem_cons_self] at hsigns
    cases hsigns.1
  · rw [h.digits '+' List.mem_cons_self] at hsigns
    cases hsigns.2
  · rfl

theorem splitSign_cases (cs : List Char) :
    (∃ digits, cs = '-' :: digits ∧ splitSign cs = (true, digits)) ∨
    (∃ digits, cs = '+' :: digits ∧ splitSign cs = (false, digits)) ∨
    splitSign cs = (false, cs) := by
  unfold splitSign
  split
  · exact Or.inl ⟨_, rfl, rfl⟩
  · exact Or.inr (Or.inl ⟨_, rfl, rfl⟩)
  · exact Or.inr (Or.inr rfl)

theorem signedNumeral_iff : Text.SignedNumeral cs n ↔ Text.Numeral (splitSign cs).2 ∧
    n = if (splitSign cs).1 then -(Text.placeValue (splitSign cs).2 : Int)
      else Text.placeValue (splitSign cs).2 := by
  constructor
  · intro h
    cases h with
    | plain h => rw [splitSign_of_numeral h]; exact ⟨h, rfl⟩
    | plus h => exact ⟨h, rfl⟩
    | minus h => exact ⟨h, rfl⟩
  · rintro ⟨h, rfl⟩
    rcases splitSign_cases cs with ⟨digits, rfl, hs⟩ | ⟨digits, rfl, hs⟩ | hs
    · rw [hs] at h ⊢
      exact .minus h
    · rw [hs] at h ⊢
      exact .plus h
    · rw [hs] at h ⊢
      exact .plain h

theorem signed?_eq_some_iff : signed? cs = .ok (some n) ↔
    Text.SignedNumeral cs n ∧ (splitSign cs).2.length ≤ Text.digitLimit := by
  rw [signedNumeral_iff]
  unfold signed?
  obtain ⟨negative, digits⟩ := splitSign cs
  simp only
  split
  · next h =>
    constructor
    · intro hn
      cases hn
    · rintro ⟨⟨hnumeral, _⟩, _⟩
      rw [Bool.or_eq_true, List.isEmpty_iff, Bool.not_eq_true'] at h
      rcases h with rfl | h
      · exact absurd rfl hnumeral.ne_nil
      · rw [List.all_eq_true.mpr hnumeral.digits] at h
        cases h
  · next h =>
    rw [Bool.or_eq_true, not_or, List.isEmpty_iff, Bool.not_eq_true', Bool.not_eq_false] at h
    have hnumeral : Text.Numeral digits := ⟨h.1, List.all_eq_true.mp h.2⟩
    rw [and_iff_right hnumeral, ← Text.natOfDigits_eq_placeValue]
    unfold Text.readNat
    split
    · next hle =>
      rw [and_iff_left hle]
      change (Except.ok (some _) : Except Nat (Option Int)) = .ok (some n) ↔ _
      rw [Except.ok.injEq, Option.some.injEq, eq_comm]
    · next hlong =>
      constructor
      · intro hn
        cases hn
      · rintro ⟨_, hle⟩
        exact absurd hle hlong

end Numbers

section Words

theorem ofNumber_key_iff : ofNumber 'K' n = some t ↔ (1 ≤ n ∧ n ≤ 15) ∧ t = key n := by
  unfold ofNumber
  rw [if_pos rfl]
  constructor
  · intro h
    split at h
    · next hn => exact ⟨hn, (Option.some.inj h).symm⟩
    · cases h
  · rintro ⟨hn, rfl⟩
    exact if_pos hn

theorem ofNumber_shuttle_iff :
    ofNumber 'S' n = some t ↔ (-7 ≤ n ∧ n ≤ 7) ∧ t = single (.shuttle n) := by
  unfold ofNumber
  rw [if_neg (by decide)]
  constructor
  · intro h
    split at h
    · next hn => exact ⟨hn, (Option.some.inj h).symm⟩
    · cases h
  · rintro ⟨hn, rfl⟩
    exact if_pos hn

theorem denotes_of_ofNumber (hc : c ∈ ['K', 'k', 'S', 's']) (hcs : Text.SignedNumeral cs n)
    (h : ofNumber c.toUpper n = some t) : Denotes (c :: cs) t := by
  simp only [List.mem_cons, List.not_mem_nil, or_false] at hc
  rcases hc with rfl | rfl | rfl | rfl
  · obtain ⟨hn, rfl⟩ := ofNumber_key_iff.mp h
    exact .key (by decide) hcs hn
  · obtain ⟨hn, rfl⟩ := ofNumber_key_iff.mp h
    exact .key (by decide) hcs hn
  · obtain ⟨hn, rfl⟩ := ofNumber_shuttle_iff.mp h
    exact .shuttle (by decide) hcs hn
  · obtain ⟨hn, rfl⟩ := ofNumber_shuttle_iff.mp h
    exact .shuttle (by decide) hcs hn

theorem denotes_of_ofDesignator? (h : ofDesignator? word = .ok (some t)) : Denotes word t := by
  cases word with
  | nil => cases h
  | cons c cs =>
    unfold ofDesignator? at h
    simp only at h
    split at h
    · next hc =>
      cases hn : signed? cs with
      | error k =>
        rw [hn] at h
        cases h
      | ok number =>
        rw [hn] at h
        have hbind : number.bind (ofNumber c.toUpper) = some t := Except.ok.inj h
        obtain ⟨n, rfl, hnumber⟩ := Option.bind_eq_some_iff.mp hbind
        exact denotes_of_ofNumber ((numbered_letter_iff c).mp hc) (signed?_eq_some_iff.mp hn).1
          hnumber
    · split at h
      · next hc =>
        obtain ⟨d, hd, rfl⟩ := Option.map_eq_some_iff.mp (Except.ok.inj h)
        obtain ⟨l, hl, rfl⟩ := Direction.ofLetter?_eq_some_iff.mp hd
        have hletter := (directed_letter_iff c).mp hc
        simp only [List.mem_cons, List.not_mem_nil, or_false] at hletter
        rcases hletter with rfl | rfl | rfl | rfl
        · exact .increment (by decide) hl
        · exact .increment (by decide) hl
        · exact .jog (by decide) hl
        · exact .jog (by decide) hl
      · cases h

theorem ofDesignator?_of_number {letter : Char} (hletter : c.toUpper = letter)
    (hc : letter = 'K' ∨ letter = 'S') (hcs : signed? cs = .ok (some n)) :
    ofDesignator? (c :: cs) = .ok (ofNumber letter n) := by
  subst hletter
  unfold ofDesignator?
  simp only [if_pos hc, hcs]
  rfl

/-- A word of the grammar is read as what it denotes, unless it is too long. -/
theorem ofDesignator?_of_denotes (h : Denotes word t) (hlong : ∀ n, ¬Overlong word n) :
    ofDesignator? word = .ok (some t) := by
  have hread : ∀ {c cs n}, c ∈ ['K', 'k', 'S', 's'] → Text.SignedNumeral cs n → word = c :: cs →
      signed? cs = .ok (some n) := by
    rintro c cs n hc hcs rfl
    refine signed?_eq_some_iff.mpr ⟨hcs, Nat.le_of_not_lt fun hlt => ?_⟩
    have hdigits := (signedNumeral_iff.mp hcs).1.digits
    exact hlong _ ⟨c, cs, rfl, hc, longNumber_iff.mpr ⟨hdigits, rfl, hlt⟩⟩
  cases h with
  | @key c cs n hc hcs hn =>
    have hnumber := hread (List.mem_append_left ['S', 's'] hc) hcs rfl
    have hupper : c.toUpper = 'K' := by
      rcases List.mem_pair.mp hc with rfl | rfl <;> rfl
    rw [ofDesignator?_of_number hupper (Or.inl rfl) hnumber, ofNumber_key_iff.mpr ⟨hn, rfl⟩]
    rfl
  | @shuttle c cs n hc hcs hn =>
    have hnumber := hread (List.mem_append_right ['K', 'k'] hc) hcs rfl
    have hupper : c.toUpper = 'S' := by
      rcases List.mem_pair.mp hc with rfl | rfl <;> rfl
    rw [ofDesignator?_of_number hupper (Or.inr rfl) hnumber, ofNumber_shuttle_iff.mpr ⟨hn, rfl⟩]
    rfl
  | @increment c l d hc hl =>
    have hd := Direction.ofLetter?_eq_some_iff.mpr ⟨l, hl, rfl⟩
    have hmap : (Direction.ofLetter? (String.ofList [l])).map (fun d => single (.increment d)) =
        some (single (.increment d)) := by
      rw [hd, Option.map_some]
    rcases List.mem_pair.mp hc with rfl | rfl <;> exact congrArg Except.ok hmap
  | @jog c l d hc hl =>
    have hd := Direction.ofLetter?_eq_some_iff.mpr ⟨l, hl, rfl⟩
    have hmap : (Direction.ofLetter? (String.ofList [l])).map (fun d => single (.jog d)) =
        some (single (.jog d)) := by
      rw [hd, Option.map_some]
    rcases List.mem_pair.mp hc with rfl | rfl <;> exact congrArg Except.ok hmap

/-- A number that is too long takes more digits than can be read. -/
theorem not_overlong (h : word.countP Text.isDigit ≤ Text.digitLimit) (k : Nat) :
    ¬Overlong word k := by
  rintro ⟨c, _, rfl, _, sign, digits, rfl, _, hdigits, rfl, hlong⟩
  have hall : digits.countP Text.isDigit = digits.length := List.countP_eq_length.mpr hdigits
  rw [List.countP_cons, List.countP_append, hall] at h
  omega

end Words

section Targets

/-- Only words for keys denote a target with a slot for the release. -/
theorem Denotes.release_iff (h : Denotes word t) :
    t.release.isSome = true ↔ ∃ cs, word = 'K' :: cs ∨ word = 'k' :: cs := by
  cases h with
  | @key c cs n hc hcs hn =>
    refine iff_of_true rfl ⟨cs, ?_⟩
    rcases List.mem_pair.mp hc with rfl | rfl
    · exact Or.inl rfl
    · exact Or.inr rfl
  | @shuttle c cs n hc hcs hn =>
    refine iff_of_false Bool.false_ne_true ?_
    rintro ⟨_, h | h⟩ <;> cases h <;> exact absurd hc (by decide)
  | increment hc hl =>
    refine iff_of_false Bool.false_ne_true ?_
    rintro ⟨_, h | h⟩ <;> cases h <;> exact absurd hc (by decide)
  | jog hc hl =>
    refine iff_of_false Bool.false_ne_true ?_
    rintro ⟨_, h | h⟩ <;> cases h <;> exact absurd hc (by decide)

/-- Targets that words designate are known apart by their names. -/
theorem designator_eq_iff {word' : List Char} (h : ofDesignator? word = .ok (some t))
    (h' : ofDesignator? word' = .ok (some u)) :
    t.slot.designator = u.slot.designator ↔ t.slot = u.slot := by
  constructor
  · intro hname
    rw [eq_of_designator_eq (mem_all_of_ofDesignator? h) (mem_all_of_ofDesignator? h') hname]
  · intro hslot
    rw [hslot]

end Targets

/-- A word is read as what it denotes, and as no target if it denotes none; only a number with too
many digits cannot be read. Words that are read have the same name for duplicates exactly if they
denote the same slot. -/
theorem designators_read_as_denoted (word : List Char) :
    ((∀ n, ¬Overlong word n) →
      ∃ r, ofDesignator? word = .ok r ∧ ∀ t, r = some t ↔ Denotes word t) ∧
    (∀ n, ofDesignator? word = .error n ↔ Overlong word n) ∧
    (word.countP Text.isDigit ≤ 4300 → ∀ n, ¬Overlong word n) ∧
    (∀ t, Denotes word t →
      (t.release.isSome = true ↔ ∃ cs, word = 'K' :: cs ∨ word = 'k' :: cs)) ∧
    ∀ t word' t', ofDesignator? word = .ok (some t) → ofDesignator? word' = .ok (some t') →
      (t.slot.designator = t'.slot.designator ↔ t.slot = t'.slot) := by
  refine ⟨?_, fun n => ofDesignator?_error_iff, not_overlong, fun t h => h.release_iff,
    fun t word' t' h h' => designator_eq_iff h h'⟩
  intro hlong
  cases hread : ofDesignator? word with
  | error n => exact absurd (ofDesignator?_error_iff.mp hread) (hlong n)
  | ok r =>
    refine ⟨r, rfl, ?_⟩
    intro t
    constructor
    · rintro rfl
      exact denotes_of_ofDesignator? hread
    · intro h
      have hsome := ofDesignator?_of_denotes h hlong
      rw [hread] at hsome
      exact Except.ok.inj hsome

/-- The third key, with a sign and in the digits of another script. -/
def signedKey : List Char := ['k', '+', '\u0660', '\u0663']

theorem designators_read_as_denoted_of_signedKey :
    signedKey.countP Text.isDigit = 2 ∧ Denotes signedKey (key 3) ∧
      ofDesignator? signedKey = .ok (some (key 3)) ∧
      (key 3).release.isSome = true ∧
      ofDesignator? ['S', '3'] = .ok (some (single (.shuttle 3))) ∧
      (key 3).slot.designator ≠ (single (.shuttle 3)).slot.designator := by
  have hcount : signedKey.countP Text.isDigit = 2 := by decide
  have hdenotes : Denotes signedKey (key 3) := by
    have hnumeral : Text.Numeral ['\u0660', '\u0663'] :=
      ⟨List.cons_ne_nil _ _, List.all_eq_true.mp (by decide)⟩
    have hvalue : Text.placeValue ['\u0660', '\u0663'] = 3 := by decide
    have hcs := Text.SignedNumeral.plus hnumeral
    rw [hvalue] at hcs
    exact .key (by decide) hcs (by decide)
  obtain ⟨hread, _, hshort, hrelease, hname⟩ := designators_read_as_denoted signedKey
  obtain ⟨r, hr, hiff⟩ := hread (hshort (by rw [hcount]; decide))
  rw [(hiff (key 3)).mpr hdenotes] at hr
  have hring : ofDesignator? ['S', '3'] = .ok (some (single (.shuttle 3))) := by decide
  refine ⟨hcount, hdenotes, hr, (hrelease _ hdenotes).mpr ⟨_, Or.inr rfl⟩, hring, ?_⟩
  intro hsame
  cases (hname _ _ _ hr hring).mp hsame

end Target

end JogShuttle
