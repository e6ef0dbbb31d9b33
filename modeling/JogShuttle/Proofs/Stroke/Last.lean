import JogShuttle.Stroke

/-!
# What a sequence leaves pressed

Only the last stroke on a symbol decides whether a sequence leaves it pressed, whatever pairs of
strokes came before. A sequence is settled if that stroke is a release for every symbol in it.
-/

set_option autoImplicit false

namespace JogShuttle.Stroke

variable {m n : Symbol} {s : Stroke} {ss rs : List Stroke}

/-- The last stroke of a sequence on a symbol. -/
def lastOn (m : Symbol) (ss : List Stroke) : Option Stroke := ss.reverse.find? (·.symbol == m)

/-- Whether a sequence leaves a symbol pressed. -/
def Pressed (m : Symbol) (ss : List Stroke) : Prop := lastOn m ss = some (press m)

instance (m : Symbol) (ss : List Stroke) : Decidable (Pressed m ss) :=
  inferInstanceAs (Decidable (_ = _))

/-- Every symbol of a sequence is let go of in the end. -/
def Settled (ss : List Stroke) : Prop := ∀ s ∈ ss, lastOn s.symbol ss = some (release s.symbol)

instance (ss : List Stroke) : Decidable (Settled ss) :=
  inferInstanceAs (Decidable (∀ _ ∈ _, _))

@[simp] theorem lastOn_nil (m : Symbol) : lastOn m [] = none := rfl

theorem lastOn_append (m : Symbol) (ss rs : List Stroke) :
    lastOn m (ss ++ rs) = (lastOn m rs).or (lastOn m ss) := by
  simp [lastOn, List.find?_append]

theorem lastOn_singleton (m : Symbol) (s : Stroke) :
    lastOn m [s] = if s.symbol = m then some s else none := by
  by_cases h : s.symbol = m <;> simp [lastOn, h]

theorem lastOn_eq_none_iff : lastOn m ss = none ↔ ∀ s ∈ ss, s.symbol ≠ m := by
  simp [lastOn]

theorem symbol_of_lastOn (h : lastOn m ss = some s) : s.symbol = m := by
  simpa using List.find?_some h

theorem lastOn_eq_some_iff :
    lastOn m ss = some s ↔
      s.symbol = m ∧ ∃ before after, ss = before ++ s :: after ∧ ∀ t ∈ after, t.symbol ≠ m := by
  unfold lastOn
  rw [List.find?_eq_some_iff_append]
  constructor
  · rintro ⟨hs, after, before, hss, hafter⟩
    refine ⟨by simpa using hs, before.reverse, after.reverse, ?_, ?_⟩
    · rw [← List.reverse_reverse ss, hss]
      simp
    · intro t ht
      simpa using hafter t (List.mem_reverse.mp ht)
  · rintro ⟨hs, before, after, rfl, hafter⟩
    refine ⟨by simpa using hs, after.reverse, before.reverse, by simp, ?_⟩
    intro t ht
    simpa using hafter t (List.mem_reverse.mp ht)

/-- A stroke on a symbol is one of two. -/
theorem eq_press_or_release (s : Stroke) : s = press s.symbol ∨ s = release s.symbol := by
  obtain ⟨m, pressed⟩ := s
  cases pressed
  · exact Or.inr rfl
  · exact Or.inl rfl

theorem press_ne_release (m n : Symbol) : press m ≠ release n := by simp [press, release]

theorem not_pressed_nil (m : Symbol) : ¬ Pressed m [] := by simp [Pressed]

theorem pressed_append :
    Pressed m (ss ++ rs) ↔ Pressed m rs ∨ lastOn m rs = none ∧ Pressed m ss := by
  unfold Pressed
  rw [lastOn_append]
  cases h : lastOn m rs <;> simp

/-- A sequence that does not mention a symbol changes nothing for it. -/
theorem pressed_append_of_silent (h : ∀ s ∈ rs, s.symbol ≠ m) :
    Pressed m (ss ++ rs) ↔ Pressed m ss := by
  have hn := lastOn_eq_none_iff.mpr h
  rw [pressed_append]
  simp [Pressed, hn]

theorem pressed_append_singleton :
    Pressed m (ss ++ [s]) ↔
      s.symbol = m ∧ s.pressed = true ∨ s.symbol ≠ m ∧ Pressed m ss := by
  obtain ⟨x, p⟩ := s
  rw [pressed_append]
  by_cases hx : x = m <;> simp [Pressed, lastOn_singleton, press, hx]

theorem lastOn_map {f : Symbol → Stroke} (hf : ∀ x, (f x).symbol = x) (m : Symbol)
    (xs : List Symbol) : lastOn m (xs.map f) = if m ∈ xs then some (f m) else none := by
  induction xs with
  | nil => rfl
  | cons x xs ih =>
    rw [List.map_cons, ← List.singleton_append, lastOn_append, ih, lastOn_singleton, hf]
    by_cases hm : m ∈ xs
    · simp [hm]
    · by_cases hx : x = m
      · subst x
        simp [hm]
      · simp [hm, hx, Ne.symm hx]

theorem silent_map {f : Symbol → Stroke} {xs : List Symbol} (hf : ∀ x, (f x).symbol = x)
    (hm : m ∉ xs) : ∀ s ∈ xs.map f, s.symbol ≠ m := by
  intro s hs
  obtain ⟨x, hx, rfl⟩ := List.mem_map.mp hs
  rw [hf]
  rintro rfl
  exact hm hx

theorem pressed_append_presses {xs : List Symbol} :
    Pressed m (ss ++ xs.map press) ↔ m ∈ xs ∨ Pressed m ss := by
  rw [pressed_append, Pressed, lastOn_map press_symbol]
  by_cases hm : m ∈ xs <;> simp [hm]

theorem pressed_append_releases {xs : List Symbol} :
    Pressed m (ss ++ xs.map release) ↔ m ∉ xs ∧ Pressed m ss := by
  rw [pressed_append, Pressed, lastOn_map release_symbol]
  by_cases hm : m ∈ xs <;> simp [hm, (press_ne_release m m).symm]

theorem settled_iff : Settled ss ↔ ∀ m, ¬ Pressed m ss := by
  constructor
  · intro h m hm
    have hmem : press m ∈ ss := List.mem_reverse.mp (List.mem_of_find?_eq_some hm)
    have hrel : lastOn m ss = some (release m) := h _ hmem
    exact press_ne_release m m (Option.some.inj (hm.symm.trans hrel))
  · intro h s hs
    cases hl : lastOn s.symbol ss with
    | none => exact absurd rfl (lastOn_eq_none_iff.mp hl s hs)
    | some t =>
      have ht := symbol_of_lastOn hl
      rcases eq_press_or_release t with hp | hr
      · rw [ht] at hp
        exact absurd (hp ▸ hl) (h _)
      · rw [hr, ht]

theorem settled_nil : Settled [] := by simp [Settled]

theorem Settled.append (hs : Settled ss) (hr : Settled rs) : Settled (ss ++ rs) := by
  rw [settled_iff] at *
  intro m hm
  rcases pressed_append.mp hm with hm | ⟨-, hm⟩
  · exact hr m hm
  · exact hs m hm

theorem settled_flatMap {α : Type} {f : α → List Stroke} {xs : List α}
    (h : ∀ x ∈ xs, Settled (f x)) : Settled (xs.flatMap f) := by
  induction xs with
  | nil => exact settled_nil
  | cons x xs ih =>
    obtain ⟨hx, hxs⟩ := List.forall_mem_cons.mp h
    rw [List.flatMap_cons]
    exact hx.append (ih hxs)

end JogShuttle.Stroke
