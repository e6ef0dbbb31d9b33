import JogShuttle.Rule.Designator
import Mathlib.Data.List.Nodup

/-!
# The targets of designators

A designator that is accepted names one of thirty-four targets: fifteen keys with both their slots,
fifteen levels of the ring, and two directions of the ring and of the dial. No two of them share a
slot or a name.
-/

set_option autoImplicit false

namespace JogShuttle

theorem Slot.mem_keys {n : Int} : n ∈ Slot.keys ↔ 1 ≤ n ∧ n ≤ keyCount := by
  simp only [keys, List.mem_map, List.mem_range]
  constructor
  · rintro ⟨i, hi, rfl⟩
    omega
  · intro h
    exact ⟨(n - 1).toNat, by omega, by omega⟩

theorem Slot.mem_levels {n : Int} :
    n ∈ Slot.levels ↔ -(outerLevel : Int) ≤ n ∧ n ≤ outerLevel := by
  simp only [levels, List.mem_map, List.mem_range]
  constructor
  · rintro ⟨i, hi, rfl⟩
    omega
  · intro h
    exact ⟨(n + outerLevel).toNat, by omega, by omega⟩

namespace Target

variable {t u : Target} {slot : Slot}

/-- Every target that a designator can name. -/
def all : List Target :=
  Slot.keys.map key ++ Slot.levels.map (fun l => single (.shuttle l)) ++
    [single (.increment .left), single (.increment .right), single (.jog .left),
      single (.jog .right)]

/-- Whether a slot is bound by the lines of a target. -/
def covers (t : Target) (slot : Slot) : Bool := t.slot == slot || t.release == some slot

theorem covers_iff : t.covers slot = true ↔ slot = t.slot ∨ some slot = t.release := by
  rw [covers, Bool.or_eq_true, beq_iff_eq, beq_iff_eq, eq_comm (a := t.slot),
    eq_comm (a := t.release)]

theorem covers_key {n : Int} :
    (key n).covers slot = true ↔ slot = .keyDown n ∨ slot = .keyUp n := by
  simp [covers_iff, key]

theorem covers_single {s : Slot} : (single s).covers slot = true ↔ slot = s := by
  simp [covers_iff, single]

/-- A target is a key or a single slot that belongs to no key. -/
theorem key_or_single (ht : t ∈ all) :
    (∃ n, t = key n) ∨ ∃ s : Slot, t = single s ∧ s.isKey = false := by
  simp only [all, List.mem_append, List.mem_map, List.mem_cons, List.not_mem_nil, or_false] at ht
  rcases ht with (⟨n, _, rfl⟩ | ⟨l, _, rfl⟩) | rfl | rfl | rfl | rfl
  · exact Or.inl ⟨n, rfl⟩
  · exact Or.inr ⟨_, rfl, rfl⟩
  · exact Or.inr ⟨_, rfl, rfl⟩
  · exact Or.inr ⟨_, rfl, rfl⟩
  · exact Or.inr ⟨_, rfl, rfl⟩
  · exact Or.inr ⟨_, rfl, rfl⟩

theorem mem_slots_of_covers (ht : t ∈ all) (h : t.covers slot = true) : slot ∈ Slot.all := by
  have hall : ∀ t ∈ all, t.slot ∈ Slot.all ∧ ∀ r ∈ t.release, r ∈ Slot.all := by decide
  obtain ⟨hslot, hrelease⟩ := hall t ht
  rcases covers_iff.mp h with rfl | hr
  · exact hslot
  · exact hrelease slot hr.symm

/-- No slot belongs to two targets. -/
theorem eq_of_covers (ht : t ∈ all) (hu : u ∈ all) (h : t.covers slot = true)
    (h' : u.covers slot = true) : t = u := by
  rcases key_or_single ht with ⟨n, rfl⟩ | ⟨s, rfl, hs⟩
  · rcases key_or_single hu with ⟨k, rfl⟩ | ⟨r, rfl, hr⟩
    · rcases covers_key.mp h with rfl | rfl
      · rcases covers_key.mp h' with hk | hk <;> cases hk
        rfl
      · rcases covers_key.mp h' with hk | hk <;> cases hk
        rfl
    · rw [covers_single.mp h'] at h
      rcases covers_key.mp h with rfl | rfl <;> cases hr
  · rw [covers_single.mp h] at h'
    rcases key_or_single hu with ⟨k, rfl⟩ | ⟨r, rfl, _⟩
    · rcases covers_key.mp h' with rfl | rfl <;> cases hs
    · rw [covers_single.mp h']

/-- Both slots of a key belong to one target. -/
theorem covers_keyDown_eq (ht : t ∈ all) (n : Int) :
    t.covers (.keyDown n) = t.covers (.keyUp n) := by
  rw [Bool.eq_iff_iff]
  rcases key_or_single ht with ⟨k, rfl⟩ | ⟨s, rfl, hs⟩
  · simp [covers_key]
  · rw [covers_single, covers_single]
    constructor
    · rintro rfl
      cases hs
    · rintro rfl
      cases hs

/-- Distinct targets have distinct designators. -/
theorem eq_of_designator_eq (ht : t ∈ all) (hu : u ∈ all)
    (h : t.slot.designator = u.slot.designator) : t = u := by
  have hnodup : (all.map (·.slot.designator)).Nodup := by decide
  exact List.inj_on_of_nodup_map hnodup ht hu h

theorem mem_all_of_ofNumber {letter : Char} {n : Int} (h : ofNumber letter n = some t) :
    t ∈ all := by
  unfold ofNumber at h
  split at h
  · split at h
    · rename_i hn
      cases h
      exact List.mem_append_left _
        (List.mem_append_left _ (List.mem_map_of_mem (Slot.mem_keys.mpr hn)))
    · cases h
  · split at h
    · rename_i hn
      cases h
      exact List.mem_append_left _ (List.mem_append_right _
        (List.mem_map.mpr ⟨n, Slot.mem_levels.mpr hn, rfl⟩))
    · cases h

theorem mem_all_of_direction (j : Bool) (d : Direction) :
    single (if j then .jog d else .increment d) ∈ all := by
  cases j <;> cases d <;> decide

theorem mem_all_of_ofDesignator? {word : List Char} (h : ofDesignator? word = .ok (some t)) :
    t ∈ all := by
  unfold ofDesignator? at h
  split at h
  · cases h
  · rename_i c cs
    simp only at h
    split at h
    · cases hn : signed? cs with
      | error k =>
        rw [hn] at h
        cases h
      | ok n =>
        rw [hn] at h
        have hb : n.bind (ofNumber c.toUpper) = some t := Except.ok.inj h
        obtain ⟨k, _, hk⟩ := Option.bind_eq_some_iff.mp hb
        exact mem_all_of_ofNumber hk
    · split at h
      · obtain ⟨d, _, rfl⟩ := Option.map_eq_some_iff.mp (Except.ok.inj h)
        simpa using mem_all_of_direction (decide (c.toUpper = 'J')) d
      · cases h

end Target

end JogShuttle
