import JogShuttle.Proofs.Sequence.Emission
import Mathlib.Data.List.Induction

/-!
# Builds that steps can reach

A step taps a symbol, marks a modifier or crosses the boundary. What these three keep is kept by
every list of steps: no symbol is listed twice among the modifiers, the release half is entered at a
boundary only, and modifiers are pending only between a boundary and the next tap, when no symbol is
left tapped.
-/

set_option autoImplicit false

namespace JogShuttle

/-- What a mark sends for a modifier, and the state it leaves the modifier in. -/
def Mark.effect? : Mark → Option (Bool × Hold)
  | .down => some (true, .down)
  | .up => some (false, .released)
  | .hold => some (true, .held)
  | _ => none

theorem Mark.effect?_ne_pending {k : Mark} {p : Bool} {g : Hold} (h : k.effect? = some (p, g)) :
    g ≠ .pending := by
  cases k <;> cases h <;> decide

namespace Build

variable {b b' : Build}

section Holds

theorem holdOf_tap (b : Build) (s m : Symbol) :
    (b.tap s).holdOf m =
      if b.startsRelease then (b.holdOf m).map fun g => if g == .pending then .down else g
      else b.holdOf m := by
  have hm : (b.tap s).modifiers = b.repress.modifiers := by simp [tap]
  unfold holdOf
  rw [hm, repress_modifiers]
  split
  · exact lookup_moveHolds _ _ _ _
  · rfl

theorem holdOf_setModifier (b : Build) (s : Stroke) (h : Hold) (m : Symbol) :
    (b.setModifier s h).holdOf m = if s.symbol = m then some h else b.holdOf m :=
  lookup_setHold _ _ _ _

theorem holdOf_cross (b : Build) (m : Symbol) :
    b.cross.holdOf m = (b.holdOf m).map fun g => if g == .down then .pending else g := by
  have hm : b.cross.modifiers = moveHolds (· == .down) .pending b.modifiers := by simp [cross]
  unfold holdOf
  rw [hm]
  exact lookup_moveHolds _ _ _ _

theorem keys_tap (b : Build) (s : Symbol) : keys (b.tap s).modifiers = keys b.modifiers := by
  have hm : (b.tap s).modifiers = b.repress.modifiers := by simp [tap]
  rw [hm, repress_modifiers]
  split <;> simp

theorem keys_cross (b : Build) : keys b.cross.modifiers = keys b.modifiers := by simp [cross]

@[simp] theorem keys_releaseModifiers (b : Build) :
    keys b.releaseModifiers.modifiers = keys b.modifiers := by simp [releaseModifiers]

end Holds

/-- What a step can do. -/
theorem step_cases {t : Step} (h : b.step t = .ok b') :
    (t.mark = .release ∧ b.split = true ∧ b' = b.cross) ∨
    (∃ s, t = .tap s ∧ b' = b.tap s) ∨
    ∃ s p g, t.symbol = some s ∧ t.mark.effect? = some (p, g) ∧ b' = b.setModifier ⟨s, p⟩ g := by
  obtain ⟨k, s⟩ := t
  cases k with
  | release =>
    simp only [step] at h
    split at h
    · rename_i hs
      cases h
      exact Or.inl ⟨rfl, hs, rfl⟩
    · cases h
  | tap =>
    cases s with
    | none => cases h
    | some s =>
      cases h
      exact Or.inr (Or.inl ⟨s, rfl, rfl⟩)
  | down =>
    cases s with
    | none => cases h
    | some s =>
      cases h
      exact Or.inr (Or.inr ⟨s, true, .down, rfl, rfl, rfl⟩)
  | up =>
    cases s with
    | none => cases h
    | some s =>
      cases h
      exact Or.inr (Or.inr ⟨s, false, .released, rfl, rfl, rfl⟩)
  | hold =>
    cases s with
    | none => cases h
    | some s =>
      cases h
      exact Or.inr (Or.inr ⟨s, true, .held, rfl, rfl, rfl⟩)

theorem steps_cons_ok_iff {t : Step} {ts : List Step} :
    b.steps (t :: ts) = .ok b' ↔ ∃ c, b.step t = .ok c ∧ c.steps ts = .ok b' := by
  rw [steps_cons]
  cases b.step t <;> simp [Except.bind]

theorem steps_append_ok_iff {ts us : List Step} :
    b.steps (ts ++ us) = .ok b' ↔ ∃ c, b.steps ts = .ok c ∧ c.steps us = .ok b' := by
  induction ts generalizing b with
  | nil => simp
  | cons t ts ih =>
    simp only [List.cons_append, steps_cons_ok_iff, ih]
    constructor
    · rintro ⟨c, hc, d, hd, hb⟩
      exact ⟨d, ⟨c, hc, hd⟩, hb⟩
    · rintro ⟨d, ⟨c, hc, hd⟩, hb⟩
      exact ⟨c, hc, d, hd, hb⟩

/-- A relation between the steps taken and the build they lead to holds of every run if it holds at
the start and each step keeps it. -/
theorem steps_induction {P : List Step → Build → Prop} {start : Build} (hstart : P [] start)
    (hstep : ∀ {ts c t d}, P ts c → c.step t = .ok d → P (ts ++ [t]) d) :
    ∀ {ts c}, start.steps ts = .ok c → P ts c := by
  intro ts
  induction ts using List.reverseRecOn with
  | nil =>
    intro c h
    cases h
    exact hstart
  | append_singleton ts t ih =>
    intro d h
    obtain ⟨c, hc, hd⟩ := steps_append_ok_iff.mp h
    obtain ⟨e, he, hd⟩ := steps_cons_ok_iff.mp hd
    cases hd
    exact hstep (ih hc) he

theorem split_of_step {t : Step} (h : b.step t = .ok b') : b'.split = b.split := by
  rcases step_cases h with ⟨_, hs, rfl⟩ | ⟨s, _, rfl⟩ | ⟨s, p, g, _, _, rfl⟩
  · simp [cross]
  · simp [tap]
  · simp [setModifier]

theorem split_of_steps {split : Bool} {ts : List Step} (h : Build.steps { split } ts = .ok b) :
    b.split = split :=
  steps_induction (P := fun _ c => c.split = split) rfl
    (fun hc hd => (split_of_step hd).trans hc) h

/-- What holds of every build that steps can reach. -/
structure Sound (b : Build) : Prop where
  nodup : (keys b.modifiers).Nodup
  filed : b.Filed
  inRelease_of_starts : b.startsRelease = true → b.inRelease = true
  ordinary_of_starts : b.startsRelease = true → b.ordinary = none
  starts_of_pending : ∀ {m}, b.holdOf m = some .pending → b.startsRelease = true
  split_of_inRelease : b.inRelease = true → b.split = true

theorem sound_initial (split : Bool) : Sound { split } where
  nodup := .nil
  filed := fun _ => rfl
  inRelease_of_starts := fun h => by cases h
  ordinary_of_starts := fun h => by cases h
  starts_of_pending := fun h => by cases h
  split_of_inRelease := fun h => by cases h

@[simp] theorem tap_startsRelease (b : Build) (s : Symbol) : (b.tap s).startsRelease = false := by
  simp [tap]

@[simp] theorem tap_ordinary (b : Build) (s : Symbol) : (b.tap s).ordinary = some s := rfl

@[simp] theorem cross_startsRelease (b : Build) : b.cross.startsRelease = true := rfl

@[simp] theorem cross_ordinary (b : Build) : b.cross.ordinary = none := by simp [cross]

theorem holdOf_tap_ne_pending (hb : b.Sound) (s m : Symbol) :
    (b.tap s).holdOf m ≠ some .pending := by
  rw [holdOf_tap]
  split
  · cases b.holdOf m with
    | none => simp
    | some g => cases g <;> simp
  · rename_i hs
    exact fun hp => hs (hb.starts_of_pending hp)

theorem Sound.tap (hb : b.Sound) (s : Symbol) : (b.tap s).Sound where
  nodup := by
    rw [keys_tap]
    exact hb.nodup
  filed := hb.filed.tap s
  inRelease_of_starts := by simp
  ordinary_of_starts := by simp
  starts_of_pending := fun hp => absurd hp (holdOf_tap_ne_pending hb s _)
  split_of_inRelease := by
    intro hr
    simp only [Build.tap, emit_inRelease, releaseOrdinary_inRelease, repress_inRelease] at hr
    simpa [Build.tap] using hb.split_of_inRelease hr

theorem Sound.setModifier (hb : b.Sound) (s : Stroke) {h : Hold} (hh : h ≠ .pending) :
    (b.setModifier s h).Sound where
  nodup := nodup_keys_setHold _ _ hb.nodup
  filed := hb.filed.setModifier s h
  inRelease_of_starts := by simpa [Build.setModifier] using hb.inRelease_of_starts
  ordinary_of_starts := by simpa [Build.setModifier] using hb.ordinary_of_starts
  starts_of_pending := by
    intro m hp
    rw [holdOf_setModifier] at hp
    split at hp
    · exact absurd (Option.some.inj hp) hh
    · simpa [Build.setModifier] using hb.starts_of_pending hp
  split_of_inRelease := by simpa [Build.setModifier] using hb.split_of_inRelease

theorem Sound.cross (hb : b.Sound) (hs : b.split = true) : b.cross.Sound where
  nodup := by
    rw [keys_cross]
    exact hb.nodup
  filed := filed_cross b
  inRelease_of_starts := by simp [Build.cross]
  ordinary_of_starts := by simp
  starts_of_pending := fun _ => rfl
  split_of_inRelease := by simp [Build.cross, hs]

theorem Sound.step (hb : b.Sound) {t : Step} (h : b.step t = .ok b') : b'.Sound := by
  rcases step_cases h with ⟨_, hs, rfl⟩ | ⟨s, _, rfl⟩ | ⟨s, p, g, _, hg, rfl⟩
  · exact hb.cross hs
  · exact hb.tap s
  · exact hb.setModifier _ (Mark.effect?_ne_pending hg)

theorem sound_of_steps {split : Bool} {ts : List Step} (h : Build.steps { split } ts = .ok b) :
    b.Sound :=
  steps_induction (P := fun _ c => c.Sound) (sound_initial split) (fun hc hd => hc.step hd) h

theorem sent_prefix_step (hb : b.Filed) {t : Step} (h : b.step t = .ok b') :
    b.sent <+: b'.sent := by
  rcases step_cases h with ⟨_, _, rfl⟩ | ⟨s, _, rfl⟩ | ⟨s, p, g, _, _, rfl⟩
  · rw [sent_cross, List.append_assoc]
    exact List.prefix_append _ _
  · rw [sent_tap hb, List.append_assoc, List.append_assoc]
    exact List.prefix_append _ _
  · rw [sent_setModifier hb]
    exact List.prefix_append _ _

/-- Nothing that has been sent is taken back. -/
theorem sent_prefix_steps (hb : b.Sound) {ts : List Step} (h : b.steps ts = .ok b') :
    b.sent <+: b'.sent := by
  have hrun : b'.Sound ∧ b.sent <+: b'.sent :=
    steps_induction (P := fun _ c => c.Sound ∧ b.sent <+: c.sent) ⟨hb, List.prefix_rfl⟩
      (fun hc hd => ⟨hc.1.step hd, hc.2.trans (sent_prefix_step hc.1.filed hd)⟩) h
  exact hrun.2

theorem sent_prefix_cross (b : Build) : b.sent <+: b.cross.sent := by
  rw [sent_cross, List.append_assoc]
  exact List.prefix_append _ _

theorem sent_prefix_releaseOrdinary (hb : b.Filed) : b.sent <+: b.releaseOrdinary.sent := by
  rw [sent_releaseOrdinary hb]
  exact List.prefix_append _ _

theorem sent_prefix_releaseModifiers (hb : b.Filed) : b.sent <+: b.releaseModifiers.sent := by
  rw [sent_releaseModifiers hb]
  exact List.prefix_append _ _

theorem sent_prefix_finish (hb : b.Filed) : b.sent <+: b.finish.sent := by
  have hend : ∀ {c : Build}, c.Filed → c.sent <+: c.releaseModifiers.releaseOrdinary.sent :=
    fun hc => (sent_prefix_releaseModifiers hc).trans
      (sent_prefix_releaseOrdinary hc.releaseModifiers)
  unfold finish
  cases b.split with
  | false => exact hend hb
  | true =>
    cases b.inRelease with
    | true => exact (sent_prefix_releaseOrdinary hb).trans (hend hb.releaseOrdinary)
    | false =>
      exact ((sent_prefix_cross b).trans (sent_prefix_releaseOrdinary (filed_cross b))).trans
        (hend (filed_cross b).releaseOrdinary)

theorem Sound.inRelease_eq_false (hb : b.Sound) (hs : b.split = false) : b.inRelease = false := by
  cases hr : b.inRelease with
  | false => rfl
  | true =>
    rw [hb.split_of_inRelease hr] at hs
    cases hs

end Build

theorem Halves.ofSteps?_ok_iff {split : Bool} {ts : List Step} {r : Halves} :
    Halves.ofSteps? split ts = .ok r ↔
      ∃ b, Build.steps { split } ts = .ok b ∧ r = b.finish.halves := by
  unfold Halves.ofSteps?
  cases Build.steps { split } ts with
  | error e => simp [bind, Except.bind]
  | ok b => simp [bind, Except.bind, pure, Except.pure, eq_comm]

/-- What is built for no key has no second half. -/
theorem Build.release_eq_nil {ts : List Step} {r : Halves} (h : Halves.ofSteps? false ts = .ok r) :
    r.release = [] := by
  obtain ⟨b, hb, rfl⟩ := Halves.ofSteps?_ok_iff.mp h
  have hs := split_of_steps hb
  have hsound := sound_of_steps hb
  have hr := hsound.inRelease_eq_false hs
  have hfinish : b.finish = b.releaseModifiers.releaseOrdinary := by
    simp [finish, hs]
  have hreleased : b.finish.released = [] := by
    rw [hfinish]
    exact hsound.filed.releaseModifiers.releaseOrdinary (by simp [releaseModifiers, hr])
  simp [halves, hreleased]

/-- What has been sent after some of the steps is a first part of the halves. -/
theorem Build.sent_prefix_halves {split : Bool} {ts us : List Step} {r : Halves}
    (h : Halves.ofSteps? split (ts ++ us) = .ok r) :
    ∃ b, Build.steps { split } ts = .ok b ∧ b.sent <+: r.press ++ r.release := by
  obtain ⟨c, hc, rfl⟩ := Halves.ofSteps?_ok_iff.mp h
  obtain ⟨b, hb, hbc⟩ := steps_append_ok_iff.mp hc
  refine ⟨b, hb, ?_⟩
  rw [halves_append]
  exact (sent_prefix_steps (sound_of_steps hb) hbc).trans
    (sent_prefix_finish (sound_of_steps hc).filed)

end JogShuttle
