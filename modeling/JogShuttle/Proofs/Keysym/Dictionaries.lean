import JogShuttle.Proofs.Keysym.Naming
import Mathlib.Logic.Function.Basic

/-!
# The two dictionaries of a keysym table

A table is looked up both ways. Seen as dictionaries, one goes from names to keysyms and holds the
last keysym that a name is listed with; the other goes from keysyms to names and holds the first
name that is listed for a keysym. The pointer symbols are written over both. Where no name is listed
twice, the two are inverse to each other as far as aliases and the value zero allow.
-/

set_option autoImplicit false

namespace JogShuttle

/-- A dictionary by what it holds under each key. -/
abbrev Dictionary (α β : Type) := α → Option β

namespace Dictionary

variable {α β : Type} {es : List (α × β)} {a : α}

def empty : Dictionary α β := fun _ => none

section Writing

variable [DecidableEq α]

/-- Writes entries in order, each over what its key held before. -/
def replace (d : Dictionary α β) (es : List (α × β)) : Dictionary α β :=
  es.foldl (fun d e => Function.update d e.1 (some e.2)) d

/-- Writes entries in order, each only if its key held nothing before. -/
def keep (d : Dictionary α β) (es : List (α × β)) : Dictionary α β :=
  es.foldl (fun d e => Function.update d e.1 ((d e.1).or (some e.2))) d

theorem lookup_cons_of_ne {e : α × β} (h : a ≠ e.1) : (e :: es).lookup a = es.lookup a := by
  have hb : (a == e.1) = false := beq_false_of_ne h
  rw [List.lookup_cons, hb]

theorem lookup_eq_none_of_not_mem (h : a ∉ es.map Prod.fst) : es.lookup a = none := by
  apply List.lookup_eq_none_iff.mpr
  intro e he
  exact bne_iff_ne.mpr fun hae => h (hae ▸ List.mem_map_of_mem he)

theorem replace_apply (d : Dictionary α β) (hk : (es.map Prod.fst).Nodup) (a : α) :
    d.replace es a = (es.lookup a).or (d a) := by
  induction es generalizing d with
  | nil => rfl
  | cons e es ih =>
    obtain ⟨hnew, hk⟩ := List.nodup_cons.mp hk
    have hstep : d.replace (e :: es) a = replace (Function.update d e.1 (some e.2)) es a := rfl
    rw [hstep, ih _ hk]
    by_cases ha : a = e.1
    · subst ha
      rw [lookup_eq_none_of_not_mem hnew, List.lookup_cons_self, Function.update_self]
      rfl
    · rw [lookup_cons_of_ne ha, Function.update_of_ne ha]

theorem keep_apply (d : Dictionary α β) (es : List (α × β)) (a : α) :
    d.keep es a = (d a).or (es.lookup a) := by
  induction es generalizing d with
  | nil => exact (Option.or_none).symm
  | cons e es ih =>
    have hstep : d.keep (e :: es) a =
        keep (Function.update d e.1 ((d e.1).or (some e.2))) es a := rfl
    rw [hstep, ih]
    by_cases ha : a = e.1
    · subst ha
      rw [List.lookup_cons_self, Function.update_self]
      cases d e.1 with
      | none => rfl
      | some v => rfl
    · rw [lookup_cons_of_ne ha, Function.update_of_ne ha]

end Writing

/-- Read the other way round, entries are found by their values. -/
theorem lookup_map_swap [DecidableEq β] (es : List (α × β)) (b : β) :
    (es.map Prod.swap).lookup b = (es.find? fun e => e.2 == b).map Prod.fst := by
  induction es with
  | nil => rfl
  | cons e es ih =>
    rw [List.map_cons, List.find?_cons]
    by_cases hb : b = e.2
    · subst hb
      rw [beq_self_eq_true]
      exact List.lookup_cons_self
    · have hb' : (e.2 == b) = false := beq_false_of_ne (Ne.symm hb)
      rw [lookup_cons_of_ne (e := e.swap) hb, ih, hb']

end Dictionary

namespace KeysymTable

variable {t : KeysymTable} {s : Symbol} {bare name : String} {n : Nat}

/-- The keysyms by their names. -/
def byName (t : KeysymTable) : Dictionary String Int :=
  (Dictionary.empty.replace t.entries).replace pointers

/-- The names by their keysyms. -/
def byKeysym (t : KeysymTable) : Dictionary Int String :=
  (Dictionary.empty.keep (t.entries.map Prod.swap)).replace (pointers.map Prod.swap)

/-- No name is listed twice, and none is that of a pointer symbol. -/
structure Loadable (t : KeysymTable) : Prop where
  nodup : (t.entries.map Prod.fst).Nodup
  no_pointer : ∀ e ∈ t.entries, e.1 ∉ pointerNames.map Prod.fst

section Loaded

theorem keysymOf_eq_byName (h : t.Loadable) (bare : String) : t.keysymOf bare = t.byName bare := by
  have hpointers : (pointers.map Prod.fst).Nodup := by decide
  rw [byName, Dictionary.replace_apply _ hpointers, Dictionary.replace_apply _ h.nodup, keysymOf_eq,
    listed, List.lookup_append, Dictionary.empty, Option.or_none]

theorem nameOf_eq_byKeysym (t : KeysymTable) (s : Symbol) :
    t.nameOf s = match t.byKeysym s.keysym with
      | some bare => namePrefix ++ bare
      | none => "0x" ++ Text.hexInt s.keysym := by
  have hpointers : ((pointers.map Prod.swap).map Prod.fst).Nodup := by decide
  have hfind : t.byKeysym s.keysym = (t.listed.find? fun e => e.2 == s.keysym).map Prod.fst := by
    rw [byKeysym, Dictionary.replace_apply _ hpointers, Dictionary.keep_apply, Dictionary.empty,
      Option.none_or, Dictionary.lookup_map_swap, Dictionary.lookup_map_swap, listed,
      List.find?_append, Option.map_or]
  rw [nameOf_eq, hfind]
  cases t.listed.find? fun e => e.2 == s.keysym with
  | some e => rfl
  | none => rfl

theorem Loadable.nodup_listed (h : t.Loadable) : (t.listed.map Prod.fst).Nodup := by
  rw [listed, List.map_append]
  apply List.nodup_append.mpr
  refine ⟨by decide, h.nodup, ?_⟩
  intro p hp bare hbare heq
  obtain ⟨e, he, rfl⟩ := List.mem_map.mp hbare
  have hnames : pointers.map Prod.fst = pointerNames.map Prod.fst := rfl
  rw [heq, hnames] at hp
  exact h.no_pointer e he hp

end Loaded

section Pointers

theorem button?_eq_some_iff :
    s.button? = some n ↔ ∃ bare, (bare, n) ∈ pointerNames ∧ s.keysym = (pointerBase + n : Nat) := by
  have hlength : pointerNames.length = 5 := rfl
  constructor
  · intro h
    simp only [Symbol.button?, hlength] at h
    split at h
    · cases h
      have hnames : ∀ k < 6, 1 ≤ k → ∃ e ∈ pointerNames, e.2 = k := by decide
      obtain ⟨⟨bare, k⟩, hmem, hk⟩ :=
        hnames (s.keysym - pointerBase).toNat (by omega) (by omega)
      exact ⟨bare, hk ▸ hmem, by omega⟩
    · cases h
  · rintro ⟨bare, hmem, hkeysym⟩
    obtain ⟨k⟩ := s
    cases hkeysym
    have hbuttons : ∀ e ∈ pointerNames,
        (⟨(pointerBase + e.2 : Nat)⟩ : Symbol).button? = some e.2 := by decide
    exact hbuttons _ hmem

theorem mem_pointers {e : String × Int} :
    e ∈ pointers ↔ ∃ n, (e.1, n) ∈ pointerNames ∧ e.2 = (pointerBase + n : Nat) := by
  simp only [pointers, List.mem_map]
  constructor
  · rintro ⟨⟨bare, n⟩, hmem, rfl⟩
    exact ⟨n, hmem, rfl⟩
  · rintro ⟨n, hmem, hkeysym⟩
    exact ⟨(e.1, n), hmem, Prod.ext rfl hkeysym.symm⟩

/-- A symbol that is no pointer symbol is looked for among the entries alone. -/
theorem find?_listed (hs : s.button? = none) :
    (t.listed.find? fun e => e.2 == s.keysym) = t.entries.find? fun e => e.2 == s.keysym := by
  have hpointers : (pointers.find? fun e => e.2 == s.keysym) = none := by
    apply List.find?_eq_none.mpr
    intro e he hk
    obtain ⟨n, hmem, hkeysym⟩ := mem_pointers.mp he
    have hbutton : s.button? = some n :=
      button?_eq_some_iff.mpr ⟨e.1, hmem, (beq_iff_eq.mp hk).symm.trans hkeysym⟩
    rw [hs] at hbutton
    cases hbutton
  rw [listed, List.find?_append, hpointers, Option.none_or]

/-- A symbol that is no pointer symbol is shown by the first of its names. -/
theorem exists_first_of_entry (hs : s.button? = none) (h : ∃ e ∈ t.entries, e.2 = s.keysym) :
    ∃ before bare after, t.entries = before ++ (bare, s.keysym) :: after ∧
      (∀ e ∈ before, e.2 ≠ s.keysym) ∧ t.nameOf s = namePrefix ++ bare := by
  obtain ⟨e, he, hk⟩ := h
  cases hfind : t.entries.find? fun e => e.2 == s.keysym with
  | none => exact absurd (beq_iff_eq.mpr hk) (List.find?_eq_none.mp hfind e he)
  | some first =>
    obtain ⟨hfirst, before, after, hentries, hbefore⟩ := List.find?_eq_some_iff_append.mp hfind
    obtain ⟨bare, k⟩ := first
    obtain rfl : k = s.keysym := beq_iff_eq.mp hfirst
    refine ⟨before, bare, after, hentries, fun e he => ?_, ?_⟩
    · simpa using hbefore e he
    · rw [nameOf_eq, find?_listed hs, hfind]

/-- A pointer symbol is shown by the name of its button, whatever else is listed. -/
theorem exists_pointer_of_button (hs : s.button? = some n) :
    ∃ bare, (bare, n) ∈ pointerNames ∧ t.nameOf s = namePrefix ++ bare := by
  obtain ⟨bare, hmem, hkeysym⟩ := button?_eq_some_iff.mp hs
  have hlisted : (bare, s.keysym) ∈ pointers := mem_pointers.mpr ⟨n, hmem, hkeysym⟩
  cases hfind : pointers.find? fun e => e.2 == s.keysym with
  | none => exact absurd (beq_iff_eq.mpr rfl) (List.find?_eq_none.mp hfind _ hlisted)
  | some first =>
    have hk : first.2 = s.keysym := by simpa using List.find?_some hfind
    obtain ⟨m, hm, hfirst⟩ := mem_pointers.mp (List.mem_of_find?_eq_some hfind)
    obtain rfl : m = n := by omega
    refine ⟨first.1, hm, ?_⟩
    rw [nameOf_eq, listed, List.find?_append, hfind, Option.some_or]

end Pointers

theorem bareName_prefixed (cs : List Char) : bareName (namePrefix.toList ++ cs) = cs := rfl

theorem bareName_of_not_prefixed {cs : List Char} (h : ¬namePrefix.toList <+: cs) :
    bareName cs = cs := by
  unfold bareName
  split
  · rename_i bare
    exact absurd ⟨bare, rfl⟩ h
  · rfl

/-- The prefix can be left out of a name. -/
theorem resolve_prefix (hne : name ≠ "") (h : ¬namePrefix.toList <+: name.toList) :
    t.resolve name = t.resolve (namePrefix ++ name) := by
  have hne' : namePrefix ++ name ≠ "" := by
    intro hempty
    have hlist := congrArg String.toList hempty
    rw [String.toList_append] at hlist
    cases hlist
  rw [resolve, resolve, if_neg hne, if_neg hne', String.toList_append, bareName_prefixed,
    bareName_of_not_prefixed h]

theorem keysym_ne_zero_of_resolve (h : t.resolve name = some s) : s.keysym ≠ 0 := by
  unfold resolve at h
  split at h
  · cases h
  · split at h
    · cases h
    · cases h
    · next m hm _ =>
      cases h
      exact hm

/-- What is looked up in a table is what the two dictionaries hold. A symbol other than zero that is
listed is shown by the first name listed for it, a pointer symbol by the name of its button, and
the name shown stands for the symbol. So the name shown for what a name stands for stands for the
same symbol, and a name means the same with the prefix as without it. -/
theorem names_and_keysyms_inverse (h : t.Loadable) :
    ((∀ bare, t.keysymOf bare = t.byName bare) ∧
      ∀ s, t.nameOf s = match t.byKeysym s.keysym with
        | some bare => namePrefix ++ bare
        | none => "0x" ++ Text.hexInt s.keysym) ∧
    (∀ s, s.keysym ≠ 0 → s.button? = none → (∃ e ∈ t.entries, e.2 = s.keysym) →
      t.resolve (t.nameOf s) = some s ∧
        ∃ before bare after, t.entries = before ++ (bare, s.keysym) :: after ∧
          (∀ e ∈ before, e.2 ≠ s.keysym) ∧ t.nameOf s = namePrefix ++ bare) ∧
    (∀ s n, s.button? = some n → t.resolve (t.nameOf s) = some s ∧
      ∃ bare, (bare, n) ∈ pointerNames ∧ t.nameOf s = namePrefix ++ bare) ∧
    (∀ name s, t.resolve name = some s → t.resolve (t.nameOf s) = some s) ∧
    ∀ name, name ≠ "" → ¬namePrefix.toList <+: name.toList →
      t.resolve name = t.resolve (namePrefix ++ name) := by
  refine ⟨⟨keysymOf_eq_byName h, t.nameOf_eq_byKeysym⟩, ?_, ?_, ?_, ?_⟩
  · intro s h0 hs hentry
    obtain ⟨e, he, hk⟩ := hentry
    have hlisted : e ∈ t.listed := List.mem_append_right _ he
    exact ⟨resolve_nameOf_of_listed h.nodup_listed hlisted hk h0,
      exists_first_of_entry hs ⟨e, he, hk⟩⟩
  · intro s n hs
    obtain ⟨bare, hmem, hkeysym⟩ := button?_eq_some_iff.mp hs
    have hlisted : (bare, s.keysym) ∈ t.listed :=
      List.mem_append_left _ (mem_pointers.mpr ⟨n, hmem, hkeysym⟩)
    have h0 : s.keysym ≠ 0 := by
      rw [hkeysym, pointerBase]
      omega
    exact ⟨resolve_nameOf_of_listed h.nodup_listed hlisted rfl h0, exists_pointer_of_button hs⟩
  · intro name s hname
    obtain ⟨e, he, hk⟩ := exists_listed_of_resolve hname
    exact resolve_nameOf_of_listed h.nodup_listed he hk (keysym_ne_zero_of_resolve hname)
  · intro name hne hprefix
    exact resolve_prefix hne hprefix

/-- A key with two names, a name for nothing, and a keysym below zero. -/
def aliasedKeys : KeysymTable :=
  ⟨[("VoidSymbol", 0), ("Prior", 0xff55), ("Page_Up", 0xff55), ("Reserved", -3)]⟩

theorem names_and_keysyms_inverse_of_aliasedKeys :
    aliasedKeys.Loadable ∧
      aliasedKeys.resolve (aliasedKeys.nameOf ⟨0xff55⟩) = some ⟨0xff55⟩ ∧
      aliasedKeys.nameOf ⟨0xff55⟩ = "XK_Prior" ∧
      aliasedKeys.resolve (aliasedKeys.nameOf ⟨-3⟩) = some ⟨-3⟩ ∧
      aliasedKeys.resolve (aliasedKeys.nameOf ⟨0x2000004⟩) = some ⟨0x2000004⟩ ∧
      aliasedKeys.resolve "Page_Up" = some ⟨0xff55⟩ ∧
      aliasedKeys.resolve "Page_Up" = aliasedKeys.resolve "XK_Page_Up" ∧
      aliasedKeys.resolve "VoidSymbol" = none := by
  have h : aliasedKeys.Loadable := ⟨by decide, by decide⟩
  obtain ⟨-, hentry, hpointer, hname, hprefix⟩ := names_and_keysyms_inverse h
  have hpage : aliasedKeys.resolve "Page_Up" = some ⟨0xff55⟩ := by decide
  exact ⟨h, hname _ _ hpage, by decide, (hentry ⟨-3⟩ (by decide) (by decide) (by decide)).1,
    (hpointer ⟨0x2000004⟩ 4 (by decide)).1, hpage, hprefix _ (by decide) (by decide), by decide⟩

end KeysymTable

end JogShuttle
