import JogShuttle.Proofs.Sequence.Pressed

/-!
# Nothing stays pressed

Whatever is pressed during a build is accounted for: it is the tapped symbol or a modifier that is
down or held. Each step keeps this, also where one symbol is both tapped and marked, and the end of
a build lets go of exactly these.
-/

set_option autoImplicit false

namespace JogShuttle.Build

open Stroke

variable {b b' : Build}

/-- Whatever is pressed is the tapped symbol or a modifier that is down or held. -/
def Accounted (b : Build) : Prop :=
  ∀ m, Pressed m b.sent →
    b.ordinary = some m ∨ b.holdOf m = some .down ∨ b.holdOf m = some .held

theorem accounted_initial (split : Bool) : Accounted { split } :=
  fun m h => absurd h (not_pressed_nil m)

theorem Accounted.tap (ha : b.Accounted) (hb : b.Sound) (s : Symbol) : (b.tap s).Accounted := by
  intro m hm
  rcases (pressed_tap hb s).mp hm with rfl | ⟨_, ho, hp⟩
  · exact Or.inl rfl
  · refine Or.inr ?_
    rw [holdOf_tap]
    rcases hp with ⟨hs, hpending⟩ | hpressed
    · simp [hs, hpending]
    · rcases ha m hpressed with hord | hdown | hheld
      · exact absurd hord ho
      · simp [hdown]
      · simp [hheld]

theorem Accounted.setModifier (ha : b.Accounted) (hb : b.Filed) {k : Mark} {p : Bool} {g : Hold}
    (hk : k.effect? = some (p, g)) (s : Symbol) : (b.setModifier ⟨s, p⟩ g).Accounted := by
  intro m hm
  rw [holdOf_setModifier]
  rcases (pressed_setModifier hb _ _).mp hm with ⟨hs, hp⟩ | ⟨hs, hpressed⟩
  · rw [if_pos hs]
    refine Or.inr ?_
    cases k <;> cases hk
    · exact Or.inl rfl
    · cases hp
    · exact Or.inr rfl
  · rw [if_neg hs]
    simpa [Build.setModifier] using ha m hpressed

theorem Accounted.cross (ha : b.Accounted) (hb : b.Sound) : b.cross.Accounted := by
  intro m hm
  obtain ⟨hd, ho, hpressed⟩ := (pressed_cross hb).mp hm
  rw [holdOf_cross]
  rcases ha m hpressed with hord | hdown | hheld
  · exact absurd hord ho
  · exact absurd hdown hd
  · simp [hheld]

theorem Accounted.step (ha : b.Accounted) (hb : b.Sound) {t : Step} (h : b.step t = .ok b') :
    b'.Accounted := by
  rcases step_cases h with ⟨_, _, rfl⟩ | ⟨s, _, rfl⟩ | ⟨s, p, g, _, hg, rfl⟩
  · exact ha.cross hb
  · exact ha.tap hb s
  · exact ha.setModifier hb.filed hg s

theorem accounted_of_steps {split : Bool} {ts : List Step} (h : Build.steps { split } ts = .ok b) :
    b.Accounted := by
  have hrun : b.Sound ∧ b.Accounted :=
    steps_induction (P := fun _ c => c.Sound ∧ c.Accounted)
      ⟨sound_initial split, accounted_initial split⟩
      (fun hc hd => ⟨hc.1.step hd, hc.2.step hc.1 hd⟩) h
  exact hrun.2

theorem Accounted.releaseOrdinary (ha : b.Accounted) (hb : b.Filed) :
    b.releaseOrdinary.Accounted := by
  intro m hm
  obtain ⟨ho, hpressed⟩ := (pressed_releaseOrdinary hb).mp hm
  rcases ha m hpressed with hord | hhold
  · exact absurd hord ho
  · exact Or.inr (by simpa [holdOf] using hhold)

/-- Letting go of the modifiers and of the tapped symbol lets go of everything. -/
theorem Accounted.settled (ha : b.Accounted) (hf : b.Filed) (hk : (keys b.modifiers).Nodup) :
    Settled b.releaseModifiers.releaseOrdinary.sent := by
  apply settled_iff.mpr
  intro m hm
  obtain ⟨ho, hm⟩ := (pressed_releaseOrdinary hf.releaseModifiers).mp hm
  obtain ⟨hd, hh, hpressed⟩ := (pressed_releaseModifiers hf hk).mp hm
  rcases ha m hpressed with hord | hdown | hheld
  · exact ho (by simpa [Build.releaseModifiers] using hord)
  · exact hd hdown
  · exact hh hheld

theorem settled_finish (hb : b.Sound) (ha : b.Accounted) : Settled b.finish.sent := by
  unfold finish
  cases hs : b.split with
  | false => exact ha.settled hb.filed hb.nodup
  | true =>
    cases hr : b.inRelease with
    | true =>
      exact (ha.releaseOrdinary hb.filed).settled hb.filed.releaseOrdinary (by simpa using hb.nodup)
    | false =>
      have hc := hb.cross hs
      exact ((ha.cross hb).releaseOrdinary hc.filed).settled hc.filed.releaseOrdinary
        (by simpa using hc.nodup)

/-- The halves of any list of steps let go of everything that they press. -/
theorem settled_halves {split : Bool} {ts : List Step} {r : Halves}
    (h : Halves.ofSteps? split ts = .ok r) : Settled (r.press ++ r.release) := by
  obtain ⟨b, hb, rfl⟩ := Halves.ofSteps?_ok_iff.mp h
  rw [halves_append]
  exact settled_finish (sound_of_steps hb) (accounted_of_steps hb)

/-- Every symbol of the halves has a last stroke, and that stroke lets go of it. -/
theorem every_symbol_ends_released {split : Bool} {ts : List Step} {r : Halves}
    (h : Halves.ofSteps? split ts = .ok r) {s : Stroke} (hs : s ∈ r.press ++ r.release) :
    ∃ before after, r.press ++ r.release = before ++ .release s.symbol :: after ∧
      ∀ t ∈ after, t.symbol ≠ s.symbol :=
  (lastOn_eq_some_iff.mp (settled_halves h s hs)).2

/-- One symbol tapped, held, released twice over at boundaries and marked once more. -/
theorem every_symbol_ends_released_of_aliased :
    Halves.ofSteps? true
        [.tap ⟨1⟩, .hold ⟨1⟩, .up ⟨2⟩, .boundary, .boundary, .down ⟨1⟩, .tap ⟨1⟩] =
          .ok ⟨[.press ⟨1⟩, .press ⟨1⟩, .release ⟨2⟩],
            [.release ⟨1⟩, .press ⟨1⟩, .press ⟨1⟩, .release ⟨1⟩, .release ⟨1⟩]⟩ ∧
      press ⟨1⟩ ∈ [.press ⟨1⟩, .press ⟨1⟩, .release ⟨2⟩] ++
        [.release ⟨1⟩, .press ⟨1⟩, .press ⟨1⟩, .release ⟨1⟩, .release ⟨1⟩] ∧
      ∃ before after, [.press ⟨1⟩, .press ⟨1⟩, .release ⟨2⟩] ++
          [.release ⟨1⟩, .press ⟨1⟩, .press ⟨1⟩, .release ⟨1⟩, .release ⟨1⟩] =
            before ++ release ⟨1⟩ :: after ∧ ∀ t ∈ after, t.symbol ≠ ⟨1⟩ := by
  have hok : Halves.ofSteps? true
      [.tap ⟨1⟩, .hold ⟨1⟩, .up ⟨2⟩, .boundary, .boundary, .down ⟨1⟩, .tap ⟨1⟩] =
        .ok ⟨[.press ⟨1⟩, .press ⟨1⟩, .release ⟨2⟩],
          [.release ⟨1⟩, .press ⟨1⟩, .press ⟨1⟩, .release ⟨1⟩, .release ⟨1⟩]⟩ := by decide
  have hmem : press ⟨1⟩ ∈ [.press ⟨1⟩, .press ⟨1⟩, .release ⟨2⟩] ++
      [.release ⟨1⟩, .press ⟨1⟩, .press ⟨1⟩, .release ⟨1⟩, .release ⟨1⟩] := by decide
  exact ⟨hok, hmem, every_symbol_ends_released hok hmem⟩

end JogShuttle.Build
