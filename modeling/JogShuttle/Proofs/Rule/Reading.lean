import JogShuttle.Rule.Compile

/-!
# Results of reading

A reading that has a result had one at every step on the way. Notes never stand in its way: the
reports and traces of a rule file change nothing in what is read.
-/

set_option autoImplicit false

namespace JogShuttle

namespace Reading

variable {α β : Type}

@[simp] theorem result_pure (a : α) : (pure a : Reading α).result = .ok a := rfl

@[simp] theorem result_note (n : Note) : (note n).result = .ok () := rfl

/-- A step is passed with a result. -/
theorem result_bind_ok_iff {r : Reading α} {f : α → Reading β} {b : β} :
    (r >>= f).result = .ok b ↔ ∃ a, r.result = .ok a ∧ (f a).result = .ok b := by
  change (Reading.bind r f).result = .ok b ↔ _
  unfold Reading.bind
  cases r.result <;> simp

/-- A step that cannot fail is passed. -/
theorem result_bind_of_ok {r : Reading α} {a : α} (h : r.result = .ok a) (f : α → Reading β) :
    (r >>= f).result = (f a).result := by
  change (Reading.bind r f).result = _
  unfold Reading.bind
  rw [h]

/-- A result is found by testing it. -/
theorem exists_of_any {r : Reading α} {p : α → Bool} (h : r.result.toOption.any p = true) :
    ∃ a, r.result = .ok a ∧ p a = true := by
  cases hr : r.result with
  | error e =>
    rw [hr] at h
    cases h
  | ok a =>
    rw [hr] at h
    exact ⟨a, rfl, h⟩

theorem result_note_if {c : Prop} [Decidable c] {n : Note} (r : Reading α) :
    (if c then note n >>= fun _ => r else r).result = r.result := by
  split
  · rw [result_bind_of_ok (result_note n)]
  · rfl

end Reading

namespace Rule

open Reading

@[simp] theorem result_report (line : Nat) (sectionName designator : Option String)
    (problem : Problem) : (report line sectionName designator problem).result = .ok () := rfl

@[simp] theorem result_reportAll (line : Nat) (sectionName designator : Option String)
    (problems : List Problem) :
    (reportAll line sectionName designator problems).result = .ok () := by
  induction problems with
  | nil => rfl
  | cons p ps ih => rw [reportAll, result_bind_of_ok (result_report _ _ _ _), ih]

@[simp] theorem result_orFault {α : Type} (e : Except Fault α) : (orFault e).result = e := by
  cases e <;> rfl

@[simp] theorem result_traceSlot (v : Vocabulary) (debug : DebugFlags) (slot : Slot)
    (strokes : List Stroke) : (traceSlot v debug slot strokes).result = .ok () := by
  unfold traceSlot
  split <;> rfl

end Rule

end JogShuttle
