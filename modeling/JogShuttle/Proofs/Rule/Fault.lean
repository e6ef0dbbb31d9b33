import JogShuttle.Proofs.Rule.Sections

/-!
# What stops the reading of a rule file

Two things in a rule file are no problems that are reported and skipped. A key or ring number with
more digits than can be read stops the reading if a section is open. So does the pattern of a header
whose reading ends in a fault and not in a verdict on the pattern. The first of them in the order of
the file is the fault that the reading ends with.
-/

set_option autoImplicit false

namespace JogShuttle

namespace Target

variable {cs : List Char} {n : Nat}

/-- A number with a sign that has more digits than are read. -/
def LongNumber (cs : List Char) (n : Nat) : Prop :=
  ∃ sign digits, cs = sign ++ digits ∧ sign ∈ [[], ['-'], ['+']] ∧
    (∀ c ∈ digits, Text.isDigit c = true) ∧ digits.length = n ∧ Text.digitLimit < n

/-- A designator of a key or a ring level with such a number. -/
def Overlong (word : List Char) (n : Nat) : Prop :=
  ∃ c cs, word = c :: cs ∧ c ∈ ['K', 'k', 'S', 's'] ∧ LongNumber cs n

theorem splitSign_append {sign digits : List Char} (hs : sign ∈ [[], ['-'], ['+']])
    (hd : ∀ c ∈ digits, Text.isDigit c = true) : (splitSign (sign ++ digits)).2 = digits := by
  simp only [List.mem_cons, List.not_mem_nil, or_false] at hs
  rcases hs with rfl | rfl | rfl
  · cases digits with
    | nil => rfl
    | cons c cs =>
      have hc := hd c (by simp)
      rw [List.nil_append]
      unfold splitSign
      split
      · rename_i h
        cases h
        exact absurd hc (by decide)
      · rename_i h
        cases h
        exact absurd hc (by decide)
      · rfl
  · rfl
  · rfl

theorem exists_sign (cs : List Char) :
    ∃ sign ∈ [[], ['-'], ['+']], cs = sign ++ (splitSign cs).2 := by
  unfold splitSign
  split
  · exact ⟨['-'], by simp, rfl⟩
  · exact ⟨['+'], by simp, rfl⟩
  · exact ⟨[], by simp, rfl⟩

theorem readNat_error_iff : Text.readNat cs = .error n ↔ cs.length = n ∧ Text.digitLimit < n := by
  unfold Text.readNat
  split
  · rename_i h
    constructor
    · intro hn
      cases hn
    · rintro ⟨rfl, hn⟩
      omega
  · rename_i h
    constructor
    · intro hn
      cases hn
      exact ⟨rfl, by omega⟩
    · rintro ⟨rfl, _⟩
      rfl

theorem signed?_error_iff : signed? cs = .error n ↔
    (∀ c ∈ (splitSign cs).2, Text.isDigit c = true) ∧ (splitSign cs).2.length = n ∧
      Text.digitLimit < n := by
  unfold signed?
  obtain ⟨negative, digits⟩ := splitSign cs
  simp only
  split
  · rename_i h
    constructor
    · intro hn
      cases hn
    · rintro ⟨hd, rfl, hlong⟩
      rw [Bool.or_eq_true, List.isEmpty_iff, Bool.not_eq_true'] at h
      rcases h with rfl | h
      · exact absurd hlong (Nat.not_lt_zero _)
      · rw [List.all_eq_true.mpr hd] at h
        cases h
  · rename_i h
    rw [Bool.or_eq_true, not_or, Bool.not_eq_true', Bool.not_eq_false] at h
    have hd : ∀ c ∈ digits, Text.isDigit c = true := List.all_eq_true.mp h.2
    rw [and_iff_right hd, ← readNat_error_iff]
    cases Text.readNat digits <;> simp [bind, Except.bind, pure, Except.pure]

theorem longNumber_iff : LongNumber cs n ↔
    (∀ c ∈ (splitSign cs).2, Text.isDigit c = true) ∧ (splitSign cs).2.length = n ∧
      Text.digitLimit < n := by
  constructor
  · rintro ⟨sign, digits, rfl, hs, hd, hn, hlong⟩
    rw [splitSign_append hs hd]
    exact ⟨hd, hn, hlong⟩
  · rintro ⟨hd, hn, hlong⟩
    obtain ⟨sign, hs, hcs⟩ := exists_sign cs
    exact ⟨sign, _, hcs, hs, hd, hn, hlong⟩

theorem toNat_toUpper (c : Char) : c.toUpper.toNat =
    if 97 ≤ c.toNat ∧ c.toNat ≤ 122 then c.toNat - 32 else c.toNat := by
  unfold Char.toUpper
  split
  · rename_i h
    have hlow : 97 ≤ c.toNat := UInt32.le_iff_toNat_le.mp h.1
    have hhigh : c.toNat ≤ 122 := UInt32.le_iff_toNat_le.mp h.2
    rw [if_pos ⟨hlow, hhigh⟩]
    change (c.val + ('A'.val - 'a'.val)).toNat = c.toNat - 32
    rw [UInt32.toNat_add]
    -- the difference of the cases is taken modulo the word
    change (c.toNat + 4294967264) % 4294967296 = _
    omega
  · rename_i h
    rw [if_neg]
    rintro ⟨hlow, hhigh⟩
    exact h ⟨UInt32.le_iff_toNat_le.mpr hlow, UInt32.le_iff_toNat_le.mpr hhigh⟩

theorem numbered_letter_iff (c : Char) :
    (c.toUpper = 'K' ∨ c.toUpper = 'S') ↔ c ∈ ['K', 'k', 'S', 's'] := by
  simp only [← Char.toNat_inj, toNat_toUpper, List.mem_cons, List.not_mem_nil, or_false,
    Char.reduceToNat]
  split <;> omega

theorem directed_letter_iff (c : Char) :
    (c.toUpper = 'I' ∨ c.toUpper = 'J') ↔ c ∈ ['I', 'i', 'J', 'j'] := by
  simp only [← Char.toNat_inj, toNat_toUpper, List.mem_cons, List.not_mem_nil, or_false,
    Char.reduceToNat]
  split <;> omega

/-- A designator cannot be read exactly if its number is too long. -/
theorem ofDesignator?_error_iff {word : List Char} :
    ofDesignator? word = .error n ↔ Overlong word n := by
  cases word with
  | nil =>
    constructor
    · intro h
      cases h
    · rintro ⟨c, cs, h, _⟩
      cases h
  | cons c cs =>
    have hoverlong : Overlong (c :: cs) n ↔ c ∈ ['K', 'k', 'S', 's'] ∧ LongNumber cs n := by
      simp [Overlong]
    rw [hoverlong, ← numbered_letter_iff, longNumber_iff, ← signed?_error_iff]
    unfold ofDesignator?
    simp only
    split
    · rename_i hc
      rw [and_iff_right hc]
      cases signed? cs <;> simp [bind, Except.bind, pure, Except.pure]
    · rename_i hc
      have hok : ∀ {p : Prop} [Decidable p] {a b : Option Target},
          (if p then Except.ok a else .ok b : Except Nat (Option Target)) ≠ .error n := by
        intro p _ a b h
        split at h <;> cases h
      exact ⟨fun h => absurd h hok, fun h => absurd h.1 hc⟩

end Target

namespace Rule

variable {v : Vocabulary} {b : Block} {l : Line} {f : Fault}

/-- Where every fault has a cause, there is none exactly if there is no cause. -/
theorem eq_none_iff_of_eq_some_iff {α : Type} {o : Option Fault} {P : α → Prop} {fault : α → Fault}
    (h : ∀ f, o = some f ↔ ∃ a, P a ∧ f = fault a) : o = none ↔ ∀ a, ¬P a := by
  rw [Option.eq_none_iff_forall_ne_some]
  constructor
  · intro hnone a ha
    exact hnone _ ((h _).mpr ⟨a, ha, rfl⟩)
  · intro hnone f hf
    obtain ⟨a, ha, _⟩ := (h f).mp hf
    exact hnone a ha

namespace Line

/-- A line for a slot with a designator that is too long. -/
def Overlong (l : Line) (n : Nat) : Prop :=
  ∃ first, l.subject? = some first ∧ first.quoted = false ∧ Target.Overlong first.text n

/-- What stops the reading at a line of an open section. -/
def fault? (l : Line) : Option Fault :=
  match l.subject? with
  | none => none
  | some first =>
    if first.quoted then none
    else match Target.ofDesignator? first.text with
      | .error n => some (.digits n)
      | .ok _ => none

theorem fault?_eq_some_iff : l.fault? = some f ↔ ∃ n, l.Overlong n ∧ f = .digits n := by
  unfold fault? Overlong
  constructor
  · intro h
    split at h
    · cases h
    rename_i first hfirst
    split at h
    · cases h
    rename_i hq
    split at h
    · rename_i n hd
      cases h
      exact ⟨n, ⟨first, hfirst, by simpa using hq, Target.ofDesignator?_error_iff.mp hd⟩, rfl⟩
    · cases h
  · rintro ⟨n, ⟨first, hfirst, hq, hlong⟩, rfl⟩
    simp [hfirst, hq, Target.ofDesignator?_error_iff.mpr hlong]

theorem fault?_eq_none_iff : l.fault? = none ↔ ∀ n, ¬l.Overlong n :=
  eq_none_iff_of_eq_some_iff fun _ => fault?_eq_some_iff

/-- A line that defines a slot has a designator that was read. -/
theorem fault?_of_definition? {d : Target × List Token} (h : l.definition? = some d) :
    l.fault? = none := by
  unfold fault?
  cases hsub : l.subject? with
  | none => rfl
  | some first =>
    obtain ⟨-, tokens, hall, -⟩ := exists_tokens_of_subject? hsub
    unfold definition? at h
    rw [hall] at h
    simp only at h ⊢
    split
    · rfl
    · next hq =>
      rw [if_neg hq] at h
      cases hd : Target.ofDesignator? first.text with
      | error n =>
        rw [hd] at h
        cases h
      | ok target => rfl

/-- A header with a pattern whose reading ends in a fault. -/
def Unreadable (v : Vocabulary) (l : Line) (f : Pattern.Fault) : Prop :=
  ']' ∈ l.text ∧ l.patternText.isEmpty = false ∧ v.readPattern l.patternText = .error (.fault f)

/-- What stops the reading at a header. -/
def headerFault? (v : Vocabulary) (l : Line) : Option Fault :=
  if ']' ∈ l.text ∧ l.patternText.isEmpty = false then
    match v.readPattern l.patternText with
    | .error (.fault f) => some (.pattern f)
    | _ => none
  else none

theorem headerFault?_eq_some_iff :
    l.headerFault? v = some f ↔ ∃ p, l.Unreadable v p ∧ f = .pattern p := by
  unfold headerFault? Unreadable
  constructor
  · intro h
    split at h
    · rename_i hl
      split at h
      · rename_i p hp
        cases h
        exact ⟨p, ⟨hl.1, hl.2, hp⟩, rfl⟩
      · cases h
    · cases h
  · rintro ⟨p, ⟨hc, he, hp⟩, rfl⟩
    rw [if_pos ⟨hc, he⟩, hp]

theorem headerFault?_eq_none_iff : l.headerFault? v = none ↔ ∀ p, ¬l.Unreadable v p :=
  eq_none_iff_of_eq_some_iff fun _ => headerFault?_eq_some_iff

end Line

/-- What stops the reading in a block. Under a header that opens no section nothing does. -/
def Block.fault? (v : Vocabulary) (b : Block) : Option Fault :=
  (b.header.headerFault? v).or
    (if b.header.Accepted v then b.body.findSome? Line.fault? else none)

/-- What stops the reading of a rule file. -/
def firstFault? (v : Vocabulary) (text : String) : Option Fault :=
  (headed (linesOf text)).findSome? (Block.fault? v)

theorem Block.fault?_eq_none_iff : b.fault? v = none ↔
    (∀ p, ¬b.header.Unreadable v p) ∧
      (b.header.Accepted v → ∀ l ∈ b.body, ∀ n, ¬l.Overlong n) := by
  rw [Block.fault?, Option.or_eq_none_iff, Line.headerFault?_eq_none_iff]
  split
  · rename_i ha
    simp only [List.findSome?_eq_none_iff, Line.fault?_eq_none_iff, forall_prop_of_true ha]
  · rename_i ha
    simp only [forall_prop_of_false ha]

theorem Block.cause_of_fault? (h : b.fault? v = some f) :
    (∃ p, b.header.Unreadable v p ∧ f = .pattern p) ∨
      b.header.Accepted v ∧ ∃ l ∈ b.body, ∃ n, l.Overlong n ∧ f = .digits n := by
  rw [Block.fault?, Option.or_eq_some_iff] at h
  rcases h with h | ⟨_, h⟩
  · exact Or.inl (Line.headerFault?_eq_some_iff.mp h)
  · split at h
    · rename_i ha
      obtain ⟨l, hl, hf⟩ := List.exists_of_findSome?_eq_some h
      exact Or.inr ⟨ha, l, hl, Line.fault?_eq_some_iff.mp hf⟩
    · cases h

end Rule

end JogShuttle
