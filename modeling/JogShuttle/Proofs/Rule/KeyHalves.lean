import JogShuttle.Proofs.Rule.Sections
import JogShuttle.Proofs.Sequence.Settled

/-!
# The two halves of a key

The halves of a key are built together, so a section that binds both lets go of everything. But an
empty half is left to the default section, and the halves that go out for a key may then come from
two lines: the only symbols that they can leave pressed are those of the default section's first
half when the governing section binds the second half alone.
-/

set_option autoImplicit false

namespace JogShuttle

open Rule Stroke

variable {v : Vocabulary} {debug : DebugFlags} {text : String} {t : Table} {b : Block} {s : Section}
variable {i : Option Nat} {n : Int} {m : Symbol} {r q : Halves} {strokes : List Stroke}

/-- What a section of a table binds a slot to by itself. -/
def Table.bindingAt (t : Table) (i : Option Nat) (slot : Slot) : Option (List Stroke) :=
  (t.sectionAt i).bind (·.binding slot)

/-- What goes out for a key that is pressed and released while a window has the focus. -/
def Table.keyStrokes (t : Table) (window : String) (n : Int) : List Stroke :=
  t.resolve (t.sectionFor window) (.keyDown n) ++ t.resolve (t.sectionFor window) (.keyUp n)

/-- The first half of a key is the default section's and the second half the section's own. -/
structure Table.Splits (t : Table) (i : Option Nat) (n : Int) (p q : List Stroke) : Prop where
  unbound : t.bindingAt i (.keyDown n) = none
  fallback : t.bindingAt t.default (.keyDown n) = some p
  bound : t.bindingAt i (.keyUp n) = some q

theorem Rule.Line.defines?_keyDown (l : Line) (n : Int) :
    l.defines? (.keyDown n) = l.defines? (.keyUp n) := by
  unfold defines?
  cases h : l.definition? with
  | none => rfl
  | some p =>
    rw [Option.filter_some, Option.filter_some,
      Target.covers_keyDown_eq (mem_all_of_definition? h)]

/-- A section binds the slots of a key to the two halves of one sequence. -/
theorem Rule.SectionOf.key_halves (h : SectionOf v b s) (n : Int) :
    ∃ r : Halves, Settled (r.press ++ r.release) ∧
      s.binding (.keyDown n) = Section.bound? r.press ∧
      s.binding (.keyUp n) = Section.bound? r.release := by
  have hfirst : b.body.findSome? (Line.defines? (.keyDown n)) =
      b.body.findSome? (Line.defines? (.keyUp n)) := by
    congr 1
    funext l
    exact l.defines?_keyDown n
  have hdown := h.bound (.keyDown n)
  have hup := h.bound (.keyUp n)
  unfold BoundBy at hdown hup
  rw [hfirst] at hdown
  cases hd : b.body.findSome? (Line.defines? (.keyUp n)) with
  | none =>
    rw [hd] at hdown hup
    exact ⟨⟨[], []⟩, settled_nil, hdown, hup⟩
  | some p =>
    rw [hd] at hdown hup
    obtain ⟨r, hr, hdown⟩ := hdown
    obtain ⟨r', hr', hup⟩ := hup
    obtain rfl : r = r' := Except.ok.inj (hr.symm.trans hr')
    exact ⟨r, Build.settled_halves hr, hdown, hup⟩

/-- Every section of a compiled table belongs to a block of the rule file. -/
theorem Table.exists_sectionOf (h : (compile v debug text).result = .ok t)
    (hs : t.sectionAt i = some s) : ∃ b, SectionOf v b s := by
  obtain ⟨k, rfl, hk⟩ := Option.bind_eq_some_iff.mp hs
  obtain ⟨b, _, _, hsec⟩ := (tableOf_compile h).exists_block (List.mem_of_getElem? hk)
  exact ⟨b, hsec⟩

theorem Table.key_halves (h : (compile v debug text).result = .ok t) (i : Option Nat) (n : Int) :
    ∃ r : Halves, Settled (r.press ++ r.release) ∧
      t.bindingAt i (.keyDown n) = Section.bound? r.press ∧
      t.bindingAt i (.keyUp n) = Section.bound? r.release := by
  unfold bindingAt
  cases hs : t.sectionAt i with
  | none => exact ⟨⟨[], []⟩, settled_nil, rfl, rfl⟩
  | some s =>
    obtain ⟨b, hsec⟩ := exists_sectionOf h hs
    exact hsec.key_halves n

/-- What a slot sends: its own half or, if that is empty, the default section's. -/
theorem Table.resolve_eq {slot : Slot} {own fallback : List Stroke}
    (ho : t.bindingAt i slot = Section.bound? own)
    (hf : t.bindingAt t.default slot = Section.bound? fallback) :
    t.resolve i slot = if own = [] then fallback else own := by
  change (t.bindingAt i slot <|> t.bindingAt t.default slot).getD [] = _
  rw [ho, hf]
  cases own <;> cases fallback <;> rfl

theorem not_pressed_release (h : Settled (r.press ++ r.release)) (m : Symbol) :
    ¬Pressed m r.release := by
  intro hm
  exact settled_iff.mp h m (pressed_append.mpr (Or.inl hm))

theorem pressed_press (h : Settled (r.press ++ r.release)) (hm : Pressed m r.press) :
    r.release ≠ [] := by
  intro hnil
  rw [hnil, List.append_nil] at h
  exact settled_iff.mp h m hm

/-- A key leaves a symbol pressed only where the halves come apart, and there the second one lets go
of what it mentions. -/
theorem Table.pressed_keyStrokes_iff (h : (compile v debug text).result = .ok t)
    (window : String) (n : Int) (m : Symbol) :
    Pressed m (t.keyStrokes window n) ↔ ∃ p q, t.Splits (t.sectionFor window) n p q ∧
      Pressed m p ∧ ∀ k ∈ q, k.symbol ≠ m := by
  obtain ⟨r, hr, hdown, hup⟩ := key_halves h (t.sectionFor window) n
  obtain ⟨d, hd, hdown', hup'⟩ := key_halves h t.default n
  unfold keyStrokes
  rw [resolve_eq hdown hdown', resolve_eq hup hup']
  constructor
  · intro hm
    by_cases hpress : r.press = []
    · by_cases hrelease : r.release = []
      · rw [if_pos hpress, if_pos hrelease] at hm
        exact absurd hm (settled_iff.mp hd m)
      · rw [if_pos hpress, if_neg hrelease] at hm
        obtain hm | ⟨hsilent, hm⟩ := pressed_append.mp hm
        · exact absurd hm (not_pressed_release hr m)
        · have hne : d.press ≠ [] := by
            intro hnil
            rw [hnil] at hm
            exact not_pressed_nil m hm
          refine ⟨d.press, r.release, ⟨?_, ?_, ?_⟩, hm, lastOn_eq_none_iff.mp hsilent⟩
          · rw [hdown, Section.bound?_eq_none_iff.mpr hpress]
          · rw [hdown', Section.bound?_eq_some_iff.mpr ⟨hne, rfl⟩]
          · rw [hup, Section.bound?_eq_some_iff.mpr ⟨hrelease, rfl⟩]
    · rw [if_neg hpress] at hm
      by_cases hrelease : r.release = []
      · rw [if_pos hrelease] at hm
        obtain hm | ⟨_, hm⟩ := pressed_append.mp hm
        · exact absurd hm (not_pressed_release hd m)
        · exact absurd hrelease (pressed_press hr hm)
      · rw [if_neg hrelease] at hm
        exact absurd hm (settled_iff.mp hr m)
  · rintro ⟨p, q, hsplit, hm, hq⟩
    have hpress := Section.bound?_eq_none_iff.mp (hdown.symm.trans hsplit.unbound)
    obtain ⟨_, hp⟩ := Section.bound?_eq_some_iff.mp (hdown'.symm.trans hsplit.fallback)
    obtain ⟨hrelease, hq'⟩ := Section.bound?_eq_some_iff.mp (hup.symm.trans hsplit.bound)
    rw [if_pos hpress, if_neg hrelease, hp, hq', pressed_append_of_silent hq]
    exact hm

end JogShuttle
