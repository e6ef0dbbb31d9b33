import JogShuttle.Proofs.Sequence.Pressed

/-!
# Modifiers follow their marks

A symbol that is never tapped is pressed by its marks alone. Between two steps its state as a
modifier says which mark came last and whether it is pressed; only a boundary sets the two apart,
and the tap that follows brings them together again before it presses its own symbol. A held
modifier is left alone until it is marked again.
-/

set_option autoImplicit false

namespace JogShuttle

/-- Whether a step marks a symbol as a modifier. -/
def Step.marks (m : Symbol) (t : Step) : Bool := t.symbol == some m && t.mark.effect?.isSome

/-- The last mark on a symbol in a list of steps. -/
def lastMark? (m : Symbol) (ts : List Step) : Option Mark :=
  (ts.reverse.find? (Step.marks m)).map (·.mark)

/-- The mark that leaves a modifier in a state, possibly across a boundary. -/
def Hold.mark : Hold → Mark
  | .down => .down
  | .held => .hold
  | .pending => .down
  | .released => .up

theorem Mark.mark_of_effect? {k : Mark} {p : Bool} {g : Hold} (h : k.effect? = some (p, g)) :
    g.mark = k := by
  cases k <;> cases h <;> rfl

theorem lastMark?_append_singleton (m : Symbol) (ts : List Step) (t : Step) :
    lastMark? m (ts ++ [t]) = if t.marks m then some t.mark else lastMark? m ts := by
  by_cases h : t.marks m <;> simp [lastMark?, h]

theorem lastMark?_eq_none_iff {m : Symbol} {ts : List Step} :
    lastMark? m ts = none ↔ ∀ t ∈ ts, t.marks m = false := by
  simp [lastMark?]

namespace Build

open Stroke

variable {b b' : Build} {m : Symbol} {t : Step}

/-- The state of a modifier tells its last mark. -/
theorem map_mark_holdOf {split : Bool} {ts : List Step} (h : Build.steps { split } ts = .ok b)
    (m : Symbol) : (b.holdOf m).map Hold.mark = lastMark? m ts := by
  refine steps_induction (P := fun ts c => (c.holdOf m).map Hold.mark = lastMark? m ts) rfl ?_ h
  intro ts c t d hc hd
  rw [lastMark?_append_singleton]
  rcases step_cases hd with ⟨hk, _, rfl⟩ | ⟨s, rfl, rfl⟩ | ⟨s, p, g, hs, hg, rfl⟩
  · have hm : t.marks m = false := by simp [Step.marks, hk, Mark.effect?]
    rw [hm, holdOf_cross, ← hc]
    cases c.holdOf m with
    | none => rfl
    | some g => cases g <;> rfl
  · have hm : (Step.tap s).marks m = false := by simp [Step.marks, Step.tap, Mark.effect?]
    rw [hm, holdOf_tap, ← hc]
    split
    · cases c.holdOf m with
      | none => rfl
      | some g => cases g <;> rfl
    · rfl
  · rw [holdOf_setModifier]
    by_cases hsm : s = m
    · have hm : t.marks m = true := by simp [Step.marks, hs, hg, hsm]
      simp [hsm, hm, Mark.mark_of_effect? hg]
    · have hm : t.marks m = false := by simp [Step.marks, hs, hsm]
      simpa [hsm, hm] using hc

/-- For a symbol that has not been tapped, being pressed is a matter of its state. -/
structure Untapped (m : Symbol) (b : Build) : Prop where
  ordinary : b.ordinary ≠ some m
  pressed_iff : Pressed m b.sent ↔ b.holdOf m = some .down ∨ b.holdOf m = some .held

theorem Untapped.tap (hu : b.Untapped m) (hb : b.Sound) {s : Symbol} (hs : s ≠ m) :
    (b.tap s).Untapped m where
  ordinary := by simpa using hs
  pressed_iff := by
    have ho := hu.ordinary
    rw [pressed_tap hb, holdOf_tap, hu.pressed_iff]
    cases hst : b.startsRelease with
    | false => simp [hs, ho]
    | true =>
      cases b.holdOf m with
      | none => simp [hs]
      | some g => cases g <;> simp [hs, ho]

theorem Untapped.setModifier (hu : b.Untapped m) (hb : b.Filed) {k : Mark} {p : Bool} {g : Hold}
    (hk : k.effect? = some (p, g)) (s : Symbol) : (b.setModifier ⟨s, p⟩ g).Untapped m where
  ordinary := by simpa [Build.setModifier] using hu.ordinary
  pressed_iff := by
    rw [pressed_setModifier hb, holdOf_setModifier, hu.pressed_iff]
    by_cases hs : s = m
    · cases k <;> cases hk <;> simp [hs]
    · simp [hs]

theorem Untapped.cross (hu : b.Untapped m) (hb : b.Sound) : b.cross.Untapped m where
  ordinary := by simp
  pressed_iff := by
    have ho := hu.ordinary
    rw [pressed_cross hb, holdOf_cross, hu.pressed_iff]
    cases b.holdOf m with
    | none => simp
    | some g => cases g <;> simp [ho]

theorem Untapped.step (hu : b.Untapped m) (hb : b.Sound) (ht : t ≠ .tap m)
    (h : b.step t = .ok b') : b'.Untapped m := by
  rcases step_cases h with ⟨_, _, rfl⟩ | ⟨s, rfl, rfl⟩ | ⟨s, p, g, _, hg, rfl⟩
  · exact hu.cross hb
  · exact hu.tap hb (fun hs => ht (by rw [hs]))
  · exact hu.setModifier hb.filed hg s

theorem untapped_of_steps {split : Bool} {ts : List Step} (h : Build.steps { split } ts = .ok b)
    (hm : Step.tap m ∉ ts) : b.Untapped m := by
  have hrun : b.Sound ∧ (Step.tap m ∉ ts → b.Untapped m) := by
    refine steps_induction (P := fun ts c => c.Sound ∧ (Step.tap m ∉ ts → c.Untapped m))
      ⟨sound_initial split, fun _ => ⟨by simp, ?_⟩⟩ ?_ h
    · simpa [holdOf, sent, history] using not_pressed_nil m
    · intro ts c t d hc hd
      refine ⟨hc.1.step hd, fun hts => ?_⟩
      rw [List.mem_append, not_or] at hts
      exact (hc.2 hts.1).step hc.1 (fun ht => hts.2 (by simp [ht])) hd
  exact hrun.2 hm

/-- Once a tap has pressed what was pending, a symbol that has not been tapped is pressed if and
only if it was marked down or held last. -/
theorem pressed_tap_iff_lastMark? {split : Bool} {ts : List Step} {s : Symbol}
    (h : Build.steps { split } ts = .ok b) (hm : Step.tap m ∉ ts) (hs : s ≠ m) :
    Pressed m (b.tap s).sent ↔ lastMark? m ts = some .down ∨ lastMark? m ts = some .hold := by
  have hb := sound_of_steps h
  have hnext : Build.steps { split } (ts ++ [.tap s]) = .ok (b.tap s) :=
    steps_append_ok_iff.mpr ⟨b, h, rfl⟩
  have hlast : ((b.tap s).holdOf m).map Hold.mark = lastMark? m ts := by
    rw [map_mark_holdOf hnext, lastMark?_append_singleton]
    simp [Step.marks, Step.tap, Mark.effect?]
  rw [((untapped_of_steps h hm).tap hb hs).pressed_iff, ← hlast]
  have hpending := holdOf_tap_ne_pending hb s m
  revert hpending
  cases (b.tap s).holdOf m with
  | none => simp
  | some g => cases g <;> simp [Hold.mark]

theorem Untapped.silent_ordinaryReleases (hu : b.Untapped m) :
    ∀ s ∈ b.ordinaryReleases, s.symbol ≠ m :=
  silent_map release_symbol fun hm => hu.ordinary (by simpa using hm)

theorem silent_modifiersWhere (hk : (keys b.modifiers).Nodup) {g : Hold} {p : Hold → Bool}
    {f : Symbol → Stroke} (hh : b.holdOf m = some g) (hp : p g = false)
    (hf : ∀ x, (f x).symbol = x) : ∀ s ∈ (b.modifiersWhere p).map f, s.symbol ≠ m := by
  refine silent_map hf fun hm => ?_
  obtain ⟨k, hk, hpk⟩ := (mem_modifiersWhere hk).mp hm
  rw [hh] at hk
  cases hk
  rw [hp] at hpk
  cases hpk

theorem silent_represses (hk : (keys b.modifiers).Nodup) (hh : b.holdOf m = some .held) :
    ∀ s ∈ b.represses, s.symbol ≠ m := by
  unfold represses
  split
  · exact silent_modifiersWhere hk hh rfl press_symbol
  · simp

/-- A step that neither taps nor marks a held modifier sends nothing on it. -/
theorem held_step (hb : b.Sound) (hu : b.Untapped m) (hh : b.holdOf m = some .held)
    (ht : t ≠ .tap m) (hm : t.marks m = false) (h : b.step t = .ok b') :
    b'.holdOf m = some .held ∧
      ∃ ss, b'.sent = b.sent ++ ss ∧ ∀ s ∈ ss, s.symbol ≠ m := by
  rcases step_cases h with ⟨_, _, rfl⟩ | ⟨s, rfl, rfl⟩ | ⟨s, p, g, hs, hg, rfl⟩
  · refine ⟨by simp [holdOf_cross, hh], _, by rw [sent_cross, List.append_assoc], ?_⟩
    intro x hx
    rcases List.mem_append.mp hx with hx | hx
    · exact hu.silent_ordinaryReleases x hx
    · exact silent_modifiersWhere hb.nodup hh rfl release_symbol x hx
  · refine ⟨by simp [holdOf_tap, hh], _, by rw [sent_tap hb.filed, List.append_assoc,
      List.append_assoc], ?_⟩
    intro x hx
    rcases List.mem_append.mp hx with hx | hx
    · exact silent_represses hb.nodup hh x hx
    · rcases List.mem_append.mp hx with hx | hx
      · exact hu.silent_ordinaryReleases x hx
      · rw [List.mem_singleton.mp hx]
        rintro rfl
        exact ht rfl
  · have hsm : s ≠ m := by
      rintro rfl
      simp [Step.marks, hs, hg] at hm
    refine ⟨by simp [holdOf_setModifier, hsm, hh], _, sent_setModifier hb.filed _ _, ?_⟩
    simpa using hsm

theorem held_steps (hb : b.Sound) (hu : b.Untapped m) (hh : b.holdOf m = some .held)
    {ts : List Step} (htap : .tap m ∉ ts) (hm : lastMark? m ts = none) (h : b.steps ts = .ok b') :
    ∃ ss, b'.sent = b.sent ++ ss ∧ ∀ s ∈ ss, s.symbol ≠ m := by
  induction ts generalizing b with
  | nil =>
    cases h
    exact ⟨[], by simp, by simp⟩
  | cons t ts ih =>
    obtain ⟨c, hc, hrest⟩ := steps_cons_ok_iff.mp h
    have hmarks := lastMark?_eq_none_iff.mp hm
    have ht : t ≠ .tap m := fun he => htap (he ▸ List.mem_cons_self)
    obtain ⟨hheld, ss, hss, hsilent⟩ := held_step hb hu hh ht (hmarks t List.mem_cons_self) hc
    obtain ⟨rs, hrs, hsilent'⟩ := ih (hb.step hc) (hu.step hb ht hc) hheld
      (fun hmem => htap (List.mem_cons_of_mem t hmem))
      (lastMark?_eq_none_iff.mpr fun u hu => hmarks u (List.mem_cons_of_mem t hu)) hrest
    refine ⟨ss ++ rs, by rw [hrs, hss, List.append_assoc], ?_⟩
    intro s hs
    rcases List.mem_append.mp hs with hs | hs
    · exact hsilent s hs
    · exact hsilent' s hs

/-- Marking a modifier held presses it, and it stays pressed until it is marked again: at every
point of what is sent in between, boundaries included. -/
theorem pressed_while_held {split : Bool} {ts us : List Step} {b c : Build}
    (hb : Build.steps { split } (ts ++ [.hold m]) = .ok b) (hts : .tap m ∉ ts) (hus : .tap m ∉ us)
    (hm : lastMark? m us = none) (hc : b.steps us = .ok c) {ss : List Stroke}
    (hbs : b.sent <+: ss) (hsc : ss <+: c.sent) : Pressed m ss := by
  have hu : b.Untapped m := untapped_of_steps hb (by simpa [Step.tap, Step.hold] using hts)
  have hh : b.holdOf m = some .held := by
    obtain ⟨a, _, ha⟩ := steps_append_ok_iff.mp hb
    cases ha
    simp [holdOf_setModifier, Stroke.press]
  obtain ⟨rs, hrs, hsilent⟩ := held_steps (sound_of_steps hb) hu hh hus hm hc
  obtain ⟨qs, rfl⟩ := hbs
  rw [hrs, List.prefix_append_right_inj] at hsc
  rw [pressed_append_of_silent fun s hs => hsilent s (hsc.subset hs)]
  exact hu.pressed_iff.mpr (Or.inr hh)

/-- A modifier that is never tapped follows its marks: when a tap presses its symbol, the modifier
is pressed if and only if it was marked down or held last, and from being marked held it is pressed
until it is marked again or the build comes to its end. -/
theorem modifiers_follow_marks {split : Bool} {ts : List Step} {r : Halves} {m : Symbol}
    (h : Halves.ofSteps? split ts = .ok r) (hm : Step.tap m ∉ ts) :
    (∀ us s vs, ts = us ++ [.tap s] ++ vs → ∃ b before,
      Build.steps { split } (us ++ [.tap s]) = .ok b ∧ b.sent = before ++ [.press s] ∧
        b.sent <+: r.press ++ r.release ∧
        (Pressed m before ↔ lastMark? m us = some .down ∨ lastMark? m us = some .hold)) ∧
      ∀ us vs ws, ts = us ++ [.hold m] ++ vs ++ ws → lastMark? m vs = none → ∃ b c,
        Build.steps { split } (us ++ [.hold m]) = .ok b ∧ b.steps vs = .ok c ∧
          c.sent <+: r.press ++ r.release ∧
          ∀ ss, b.sent <+: ss → ss <+: c.sent → Pressed m ss := by
  constructor
  · rintro us s vs rfl
    obtain ⟨hus, hs⟩ : Step.tap m ∉ us ∧ s ≠ m := by
      simp only [List.mem_append, List.mem_singleton, not_or] at hm
      exact ⟨hm.1.1, fun he => hm.1.2 (by rw [he])⟩
    obtain ⟨c, hc, hsent⟩ := sent_prefix_halves h
    obtain ⟨b, hb, hbc⟩ := steps_append_ok_iff.mp hc
    cases hbc
    have hlast := sent_tap (sound_of_steps hb).filed s
    refine ⟨b.tap s, _, hc, hlast, hsent, ?_⟩
    rw [← pressed_tap_iff_lastMark? hb hus hs, hlast]
    exact (pressed_append_of_silent (by simpa using hs)).symm
  · rintro us vs ws rfl hvs
    have hm' : Step.tap m ∉ us ∧ Step.tap m ∉ vs := by
      simp only [List.mem_append, not_or] at hm
      exact ⟨hm.1.1.1, hm.1.2⟩
    obtain ⟨c, hc, hsent⟩ := sent_prefix_halves h
    obtain ⟨b, hb, hbc⟩ := steps_append_ok_iff.mp hc
    exact ⟨b, c, hb, hbc, hsent, fun ss => pressed_while_held hb hm'.1 hm'.2 hvs hbc⟩

/-- A modifier marked down is pressed for the first tap behind two boundaries, with another mark
between them. -/
theorem modifiers_follow_marks_across_boundaries :
    Halves.ofSteps? true [.down ⟨1⟩, .tap ⟨2⟩, .boundary, .hold ⟨3⟩, .boundary, .tap ⟨4⟩] =
        .ok ⟨[.press ⟨1⟩, .press ⟨2⟩], [.release ⟨2⟩, .release ⟨1⟩, .press ⟨3⟩, .press ⟨1⟩,
          .press ⟨4⟩, .release ⟨4⟩, .release ⟨1⟩, .release ⟨3⟩]⟩ ∧
      Step.tap ⟨1⟩ ∉ [.down ⟨1⟩, .tap ⟨2⟩, .boundary, .hold ⟨3⟩, .boundary, .tap ⟨4⟩] ∧
      ∃ b before, Build.steps { split := true }
          ([.down ⟨1⟩, .tap ⟨2⟩, .boundary, .hold ⟨3⟩, .boundary] ++ [.tap ⟨4⟩]) = .ok b ∧
        b.sent = before ++ [.press ⟨4⟩] ∧ Pressed ⟨1⟩ before := by
  have hok : Halves.ofSteps? true
      [.down ⟨1⟩, .tap ⟨2⟩, .boundary, .hold ⟨3⟩, .boundary, .tap ⟨4⟩] =
        .ok ⟨[.press ⟨1⟩, .press ⟨2⟩], [.release ⟨2⟩, .release ⟨1⟩, .press ⟨3⟩, .press ⟨1⟩,
          .press ⟨4⟩, .release ⟨4⟩, .release ⟨1⟩, .release ⟨3⟩]⟩ := by decide
  have hm : Step.tap ⟨1⟩ ∉ [.down ⟨1⟩, .tap ⟨2⟩, .boundary, .hold ⟨3⟩, .boundary, .tap ⟨4⟩] := by
    decide
  obtain ⟨b, before, hb, hsent, _, hp⟩ := (modifiers_follow_marks hok hm).1
    [.down ⟨1⟩, .tap ⟨2⟩, .boundary, .hold ⟨3⟩, .boundary] ⟨4⟩ [] rfl
  exact ⟨hok, hm, b, before, hb, hsent, hp.mpr (Or.inl (by decide))⟩

end Build

end JogShuttle
