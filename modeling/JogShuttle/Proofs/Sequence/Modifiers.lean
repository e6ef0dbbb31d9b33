import JogShuttle.Sequence

/-!
# The modifiers of a build

The modifiers form a list without repeated symbols, in the order in which they were first marked.
Marking one and moving all of a state to another act on the state of each symbol alone, and neither
disturbs that order.
-/

set_option autoImplicit false

namespace JogShuttle

section Lookup

variable {α β : Type} [BEq α] [LawfulBEq α] {entries : List (α × β)} {a : α} {b : β}

theorem mem_of_lookup (h : entries.lookup a = some b) : (a, b) ∈ entries := by
  obtain ⟨before, after, rfl, _⟩ := List.lookup_eq_some_iff.mp h
  simp

/-- Where nothing is listed twice, every entry is found. -/
theorem lookup_of_mem (hk : (entries.map Prod.fst).Nodup) (h : (a, b) ∈ entries) :
    entries.lookup a = some b := by
  obtain ⟨before, after, rfl⟩ := List.append_of_mem h
  refine List.lookup_eq_some_iff.mpr ⟨before, after, rfl, fun e he => ?_⟩
  rw [List.map_append, List.map_cons] at hk
  have hne : e.1 ≠ a :=
    (List.nodup_append.mp hk).2.2 _ (List.mem_map_of_mem he) _ List.mem_cons_self
  exact bne_iff_ne.mpr hne.symm

end Lookup

namespace Build

/-- The symbols of a list of modifiers. -/
def keys (ms : List (Symbol × Hold)) : List Symbol := ms.map Prod.fst

variable {ms : List (Symbol × Hold)} {m : Symbol} {h : Hold} {p : Hold → Bool}

theorem lookup_cons_eq_ite (t : Symbol) (g : Hold) (ms : List (Symbol × Hold)) (m : Symbol) :
    ((t, g) :: ms).lookup m = if t = m then some g else ms.lookup m := by
  by_cases ht : t = m
  · simp [ht]
  · have hb : (m == t) = false := by simpa using Ne.symm ht
    rw [List.lookup_cons, hb, if_neg ht]

theorem lookup_setHold (s : Symbol) (h : Hold) (ms : List (Symbol × Hold)) (m : Symbol) :
    (setHold s h ms).lookup m = if s = m then some h else ms.lookup m := by
  induction ms with
  | nil => simp [setHold, lookup_cons_eq_ite]
  | cons e ms ih =>
    obtain ⟨t, g⟩ := e
    by_cases ht : t = s
    · subst t
      by_cases hm : s = m <;> simp [setHold, lookup_cons_eq_ite, hm]
    · by_cases hm : t = m
      · subst t
        simp [setHold, ht, Ne.symm ht]
      · simp [setHold, lookup_cons_eq_ite, ht, hm, ih]

theorem keys_setHold (s : Symbol) (h : Hold) (ms : List (Symbol × Hold)) :
    keys (setHold s h ms) = if s ∈ keys ms then keys ms else keys ms ++ [s] := by
  induction ms with
  | nil => rfl
  | cons e ms ih =>
    obtain ⟨t, g⟩ := e
    by_cases ht : t = s
    · simp [setHold, keys, ht]
    · simp only [keys] at ih
      by_cases hs : s ∈ ms.map Prod.fst
      · simp [setHold, keys, ht, ih, hs]
      · simp [setHold, keys, ht, ih, hs, Ne.symm ht]

theorem nodup_keys_setHold (s : Symbol) (h : Hold) (hk : (keys ms).Nodup) :
    (keys (setHold s h ms)).Nodup := by
  rw [keys_setHold]
  split
  · exact hk
  · rename_i hs
    exact List.nodup_append.mpr ⟨hk, by simp, by
      intro a ha b hb
      rw [List.mem_singleton.mp hb]
      rintro rfl
      exact hs ha⟩

theorem lookup_moveHolds (p : Hold → Bool) (h : Hold) (ms : List (Symbol × Hold)) (m : Symbol) :
    (moveHolds p h ms).lookup m = (ms.lookup m).map fun g => if p g then h else g := by
  induction ms with
  | nil => rfl
  | cons e ms ih =>
    obtain ⟨t, g⟩ := e
    simp only [moveHolds] at ih
    by_cases hm : t = m <;> by_cases hg : p g <;>
      simp [moveHolds, lookup_cons_eq_ite, hg, hm, ih]

@[simp] theorem keys_moveHolds (p : Hold → Bool) (h : Hold) (ms : List (Symbol × Hold)) :
    keys (moveHolds p h ms) = keys ms := by
  simp only [keys, moveHolds, List.map_map]
  apply List.map_congr_left
  intro e _
  by_cases hp : p e.2 <;> simp [hp]

/-- The modifiers that satisfy a test are known by their states. -/
theorem mem_modifiersWhere {b : Build} (hk : (keys b.modifiers).Nodup) :
    m ∈ b.modifiersWhere p ↔ ∃ h, b.holdOf m = some h ∧ p h = true := by
  simp only [modifiersWhere, List.mem_map, List.mem_filter, holdOf]
  constructor
  · rintro ⟨⟨t, h⟩, ⟨hm, hp⟩, rfl⟩
    exact ⟨h, lookup_of_mem hk hm, hp⟩
  · rintro ⟨h, hl, hp⟩
    exact ⟨(m, h), ⟨mem_of_lookup hl, hp⟩, rfl⟩

end Build

end JogShuttle
