import JogShuttle.Proofs.Sequence.Modifiers
import JogShuttle.Rule.Output
import JogShuttle.Text.Blank
import JogShuttle.Text.Line

/-!
# Names that are shown and read

A symbol is shown by the first name that is listed for it, behind the prefix that all names share.
In a table that lists every name once, and no name with a blank, a slash or a quote in it, the name
shown for a symbol is a word and stands for just this symbol.
-/

set_option autoImplicit false

namespace JogShuttle

theorem Text.isLineBreak_of_not_isBlank {c : Char} (h : isBlank c = false) :
    isLineBreak c = false := by
  simp only [isLineBreak, isBlank, Bool.or_eq_false_iff, Bool.and_eq_false_iff,
    decide_eq_false_iff_not, beq_eq_false_iff_ne] at *
  omega

/-- A word holds the character, and it is no blank. -/
def Token.isNameChar (c : Char) : Bool := isWordChar c && !Text.isBlank c

theorem Token.word_of_all_isNameChar {cs : List Char} (h : cs.all isNameChar = true) :
    ∀ c ∈ cs, isWordChar c = true ∧ Text.isBlank c = false := by
  simpa [isNameChar] using h

namespace KeysymTable

variable {t : KeysymTable} {s : Symbol} {bare : String} {n : Int}

/-- Some name stands for the symbol. -/
def Named (t : KeysymTable) (s : Symbol) : Prop := ∃ name, t.resolve name = some s

/-- The names of the pointer symbols with their keysyms. -/
def pointers : List (String × Int) := pointerNames.map fun e => (e.1, (pointerBase + e.2 : Nat))

/-- All names of a table with their keysyms, those of the pointer symbols first. -/
def listed (t : KeysymTable) : List (String × Int) := pointers ++ t.entries

theorem keysymOf_eq (t : KeysymTable) (bare : String) : t.keysymOf bare = t.listed.lookup bare := by
  have hpointer : ∀ names : List (String × Nat),
      (names.map fun e => (e.1, ((pointerBase + e.2 : Nat) : Int))).lookup bare =
        (names.lookup bare).map fun n => ((pointerBase + n : Nat) : Int) := by
    intro names
    induction names with
    | nil => rfl
    | cons e names ih =>
      rw [List.map_cons, List.lookup_cons, List.lookup_cons, ih]
      cases bare == e.1 <;> rfl
  unfold keysymOf listed pointers
  rw [List.lookup_append, hpointer]
  cases pointerNames.lookup bare <;> rfl

theorem nameOf_eq (t : KeysymTable) (s : Symbol) :
    t.nameOf s = match t.listed.find? fun e => e.2 == s.keysym with
      | some e => namePrefix ++ e.1
      | none => "0x" ++ Text.hexInt s.keysym := by
  unfold nameOf listed pointers
  rw [List.find?_append, List.find?_map]
  simp only [Function.comp_def]
  cases pointerNames.find? fun e => ((pointerBase + e.2 : Nat) : Int) == s.keysym with
  | some e => rfl
  | none =>
    cases t.entries.find? fun e => e.2 == s.keysym with
    | some e => rfl
    | none => rfl

/-- A name stands for a keysym that is listed with it. -/
theorem exists_listed_of_resolve {name : String} (h : t.resolve name = some s) :
    ∃ e ∈ t.listed, e.2 = s.keysym := by
  unfold resolve at h
  rw [keysymOf_eq] at h
  split at h
  · cases h
  · split at h
    · cases h
    · cases h
    · next n _ hn =>
      cases h
      exact ⟨_, mem_of_lookup hn, rfl⟩

/-- A symbol that is listed is shown by a name that is listed for it. -/
theorem exists_nameOf_of_listed {e : String × Int} (he : e ∈ t.listed) (hk : e.2 = s.keysym) :
    ∃ e ∈ t.listed, e.2 = s.keysym ∧ t.nameOf s = namePrefix ++ e.1 := by
  rw [nameOf_eq]
  cases hfind : t.listed.find? fun e => e.2 == s.keysym with
  | none => exact absurd (beq_iff_eq.mpr hk) (List.find?_eq_none.mp hfind e he)
  | some first =>
    exact ⟨first, List.mem_of_find?_eq_some hfind, by simpa using List.find?_some hfind, rfl⟩

theorem exists_listed_of_named (h : t.Named s) :
    ∃ e ∈ t.listed, e.2 = s.keysym ∧ t.nameOf s = namePrefix ++ e.1 := by
  obtain ⟨name, hname⟩ := h
  obtain ⟨e, he, hkeysym⟩ := exists_listed_of_resolve hname
  exact exists_nameOf_of_listed he hkeysym

theorem resolve_prefixed (h : t.listed.lookup bare = some n) (hn : n ≠ 0) :
    t.resolve (namePrefix ++ bare) = some ⟨n⟩ := by
  have hlist : (namePrefix ++ bare).toList = 'X' :: 'K' :: '_' :: bare.toList := by
    rw [String.toList_append]
    rfl
  have hne : namePrefix ++ bare ≠ "" := by
    intro hempty
    rw [hempty] at hlist
    cases hlist
  unfold resolve
  rw [if_neg hne, hlist, bareName, String.ofList_toList, keysymOf_eq, h]
  split
  · rename_i hnone
    cases hnone
  · rename_i hzero
    cases hzero
    exact absurd rfl hn
  · rename_i hsome
    cases hsome
    rfl

/-- Where no name is listed twice, the name shown for a symbol stands for it. -/
theorem resolve_nameOf_of_listed (hnodup : (t.listed.map Prod.fst).Nodup) {e : String × Int}
    (he : e ∈ t.listed) (hk : e.2 = s.keysym) (h0 : s.keysym ≠ 0) :
    t.resolve (t.nameOf s) = some s := by
  obtain ⟨first, hfirst, hkeysym, hname⟩ := exists_nameOf_of_listed he hk
  have hne : first.2 ≠ 0 := hkeysym ▸ h0
  rw [hname, resolve_prefixed (lookup_of_mem hnodup hfirst) hne, hkeysym]

/-- The name shown for a named symbol is a word and stands for it. -/
structure Faithful (t : KeysymTable) : Prop where
  resolve_nameOf : ∀ s, t.Named s → t.resolve (t.nameOf s) = some s
  isWordChar_nameOf : ∀ s, t.Named s → ∀ c ∈ (t.nameOf s).toList, Token.isWordChar c = true

/-- A table in which no name is listed twice, those of the pointer symbols among them, no name has a
blank, a slash or a quote in it, and no name is listed for zero. -/
structure Regular (t : KeysymTable) : Prop where
  nodup : (t.listed.map Prod.fst).Nodup
  word : ∀ e ∈ t.listed, e.1.toList.all Token.isNameChar = true
  nonzero : ∀ e ∈ t.listed, e.2 ≠ 0

theorem Regular.resolve_nameOf (h : t.Regular) (hs : t.Named s) :
    t.resolve (t.nameOf s) = some s := by
  obtain ⟨e, he, hkeysym, -⟩ := exists_listed_of_named hs
  exact resolve_nameOf_of_listed h.nodup he hkeysym (hkeysym ▸ h.nonzero e he)

theorem Regular.word_nameOf (h : t.Regular) (hs : t.Named s) :
    (t.nameOf s).toList.all Token.isNameChar = true := by
  obtain ⟨e, he, -, hname⟩ := exists_listed_of_named hs
  have hhead : namePrefix.toList.all Token.isNameChar = true := by decide +kernel
  rw [hname, String.toList_append, List.all_append, hhead, h.word e he, Bool.and_true]

theorem Regular.faithful (h : t.Regular) : t.Faithful where
  resolve_nameOf _ hs := h.resolve_nameOf hs
  isWordChar_nameOf _ hs c hc := (Token.word_of_all_isNameChar (h.word_nameOf hs) c hc).1

theorem head?_nameOf (t : KeysymTable) (s : Symbol) :
    (t.nameOf s).toList.head? = some 'X' ∨ (t.nameOf s).toList.head? = some '0' := by
  unfold nameOf
  dsimp only
  split
  · exact .inl (by rw [String.toList_append]; rfl)
  · exact .inr (by rw [String.toList_append]; rfl)

theorem isComment_nameOf (t : KeysymTable) (s : Symbol) :
    Output.isComment (t.nameOf s).toList = false := by
  rw [Output.isComment]
  cases head?_nameOf t s with
  | inl h => rw [h]; rfl
  | inr h => rw [h]; rfl

theorem nameOf_ne_boundaryWord (t : KeysymTable) (s : Symbol) :
    t.nameOf s ≠ Output.boundaryWord := by
  intro hname
  have hhead := head?_nameOf t s
  rw [hname] at hhead
  revert hhead
  decide

theorem toList_nameOf_ne_nil (t : KeysymTable) (s : Symbol) : (t.nameOf s).toList ≠ [] := by
  intro hnil
  have hhead := head?_nameOf t s
  rw [hnil] at hhead
  simp at hhead

end KeysymTable

end JogShuttle
