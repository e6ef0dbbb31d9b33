import JogShuttle.Proofs.Sequence.Marks
import JogShuttle.Proofs.Sequence.Settled
import Mathlib.Data.List.Chain

/-!
# Strokes that alternate

The strokes on a symbol alternate if none of them presses what is down or lets go of what is up. A
build sends a stroke out of turn in one case only: a mark comes when its symbol stands already where
the mark moves it. Taps, boundaries and the end of a build keep the turn, as long as no symbol is
both tapped and marked.
-/

set_option autoImplicit false

namespace JogShuttle

namespace Stroke

variable {m : Symbol} {s : Stroke} {ss : List Stroke} {xs : List Symbol}

/-- The strokes on a symbol, in order: whether each of them presses it. -/
def edgesOn (m : Symbol) (ss : List Stroke) : List Bool :=
  (ss.filter (·.symbol == m)).map (·.pressed)

/-- A first part of strokes on a symbol that alternate, beginning with a press. -/
structure InTurn (m : Symbol) (ss : List Stroke) : Prop where
  chain : (edgesOn m ss).IsChain (· ≠ ·)
  head : (edgesOn m ss).head? ≠ some false

/-- The strokes on a symbol alternate: a press, a release, and so on up to a last release. -/
structure Alternate (m : Symbol) (ss : List Stroke) : Prop extends InTurn m ss where
  last : (edgesOn m ss).getLast? ≠ some true

theorem inTurn_iff :
    InTurn m ss ↔ (edgesOn m ss).IsChain (· ≠ ·) ∧ (edgesOn m ss).head? ≠ some false :=
  ⟨fun h => ⟨h.chain, h.head⟩, fun h => ⟨h.1, h.2⟩⟩

instance (m : Symbol) (ss : List Stroke) : Decidable (InTurn m ss) :=
  decidable_of_iff _ inTurn_iff.symm

theorem pressed_iff_getLast? : Pressed m ss ↔ (edgesOn m ss).getLast? = some true := by
  have hlast : (edgesOn m ss).getLast? = (lastOn m ss).map (·.pressed) := by
    rw [edgesOn, List.getLast?_map, List.getLast?_filter, lastOn]
  rw [hlast, Option.map_eq_some_iff]
  constructor
  · exact fun h => ⟨press m, h, rfl⟩
  · rintro ⟨s, hs, hp⟩
    have hm := symbol_of_lastOn hs
    rcases eq_press_or_release s with h | h
    · rw [Pressed, hs, h, hm]
    · rw [h] at hp
      cases hp

theorem alternate_iff : Alternate m ss ↔ InTurn m ss ∧ ¬Pressed m ss := by
  rw [pressed_iff_getLast?]
  exact ⟨fun h => ⟨h.toInTurn, h.last⟩, fun h => ⟨h.1, h.2⟩⟩

instance (m : Symbol) (ss : List Stroke) : Decidable (Alternate m ss) :=
  decidable_of_iff _ alternate_iff.symm

theorem alternate_of_silent (h : ∀ s ∈ ss, s.symbol ≠ m) : Alternate m ss := by
  have hnil : edgesOn m ss = [] := by
    rw [edgesOn, List.map_eq_nil_iff, List.filter_eq_nil_iff]
    simpa using h
  rw [alternate_iff, inTurn_iff, pressed_iff_getLast?, hnil]
  simp

theorem inTurn_nil (m : Symbol) : InTurn m [] := ⟨.nil, by simp [edgesOn]⟩

theorem edgesOn_append_singleton :
    edgesOn m (ss ++ [s]) = if s.symbol = m then edgesOn m ss ++ [s.pressed] else edgesOn m ss := by
  by_cases hs : s.symbol = m <;> simp [edgesOn, List.filter_append, hs]

/-- A stroke is in turn if it changes whether its symbol is pressed. -/
theorem inTurn_append_singleton :
    InTurn m (ss ++ [s]) ↔
      InTurn m ss ∧ (s.symbol = m → (s.pressed = true ↔ ¬Pressed m ss)) := by
  rw [inTurn_iff, inTurn_iff, edgesOn_append_singleton, pressed_iff_getLast?]
  by_cases hs : s.symbol = m
  · rw [if_pos hs]
    rcases List.eq_nil_or_concat (edgesOn m ss) with hnil | ⟨es, e, hes⟩
    · simp [hnil, hs]
    · rw [hes, List.isChain_append]
      cases e <;> cases s.pressed <;> simp [hs]
  · simp [hs]

theorem inTurn_append_of_silent {rs : List Stroke} (h : ∀ s ∈ rs, s.symbol ≠ m) :
    InTurn m (ss ++ rs) ↔ InTurn m ss := by
  induction rs using List.reverseRecOn with
  | nil => rw [List.append_nil]
  | append_singleton rs s ih =>
    obtain ⟨hrs, hs⟩ := List.forall_mem_append.mp h
    rw [← List.append_assoc, inTurn_append_singleton, ih hrs]
    simp [hs s (List.mem_singleton.mpr rfl)]

/-- One stroke on each of some symbols. -/
theorem inTurn_append_map {f : Symbol → Stroke} (hf : ∀ x, (f x).symbol = x) (hxs : xs.Nodup) :
    InTurn m (ss ++ xs.map f) ↔
      InTurn m ss ∧ (m ∈ xs → ((f m).pressed = true ↔ ¬Pressed m ss)) := by
  by_cases hm : m ∈ xs
  · obtain ⟨before, after, rfl⟩ := List.append_of_mem hm
    have hother : m ∉ before ++ after :=
      (List.nodup_cons.mp (List.perm_middle.nodup_iff.mp hxs)).1
    obtain ⟨hbefore, hafter⟩ := not_or.mp (mt List.mem_append.mpr hother)
    have hsplit : ss ++ (before ++ m :: after).map f =
        ss ++ before.map f ++ [f m] ++ after.map f := by simp
    rw [hsplit, inTurn_append_of_silent (silent_map hf hafter), inTurn_append_singleton,
      inTurn_append_of_silent (silent_map hf hbefore),
      pressed_append_of_silent (silent_map hf hbefore)]
    simp [hf]
  · rw [inTurn_append_of_silent (silent_map hf hm)]
    simp [hm]

end Stroke

/-- When a mark moves its symbol: not down what is down, and not up what is not down. -/
def Mark.Timely : Mark → Option Hold → Prop
  | .down, h => h = none ∨ h = some .released ∨ h = some .pending
  | .hold, h => h = none ∨ h = some .released ∨ h = some .pending
  | .up, h => h = some .down ∨ h = some .held
  | _, _ => True

namespace Build

open Stroke

variable {b b' : Build} {m : Symbol} {ss : List Stroke}

theorem nodup_modifiersWhere (hk : (keys b.modifiers).Nodup) (p : Hold → Bool) :
    (b.modifiersWhere p).Nodup :=
  hk.sublist (List.filter_sublist.map Prod.fst)

theorem inTurn_append_ordinaryReleases :
    InTurn m (ss ++ b.ordinaryReleases) ↔
      InTurn m ss ∧ (b.ordinary = some m → Pressed m ss) := by
  have hnodup : b.ordinary.toList.Nodup := by cases b.ordinary <;> simp
  rw [ordinaryReleases, inTurn_append_map release_symbol hnodup]
  simp

theorem inTurn_append_represses (hk : (keys b.modifiers).Nodup) :
    InTurn m (ss ++ b.represses) ↔
      InTurn m ss ∧ (b.startsRelease = true → b.holdOf m = some .pending → ¬Pressed m ss) := by
  unfold represses
  split
  · rename_i hs
    rw [inTurn_append_map press_symbol (nodup_modifiersWhere hk _), mem_modifiersWhere hk]
    simp [hs]
  · rename_i hs
    simp [hs]

theorem inTurn_append_modifiersWhere (hk : (keys b.modifiers).Nodup) (p : Hold → Bool) :
    InTurn m (ss ++ (b.modifiersWhere p).map release) ↔
      InTurn m ss ∧ ∀ h, b.holdOf m = some h → p h = true → Pressed m ss := by
  rw [inTurn_append_map release_symbol (nodup_modifiersWhere hk p), mem_modifiersWhere hk]
  simp

/-- A symbol is down as the tapped one or as a modifier, and never as both. -/
structure Single (m : Symbol) (b : Build) : Prop where
  pressed_iff : Pressed m b.sent ↔
    b.ordinary = some m ∨ b.holdOf m = some .down ∨ b.holdOf m = some .held
  holdOf_of_ordinary : b.ordinary = some m → b.holdOf m = none

theorem single_initial (split : Bool) (m : Symbol) : Single m { split } where
  pressed_iff := by simpa [holdOf, sent, history] using not_pressed_nil m
  holdOf_of_ordinary := fun _ => rfl

theorem Single.tap (hm : b.Single m) (hb : b.Sound) {s : Symbol}
    (hs : s = m → b.holdOf m = none) : (b.tap s).Single m where
  pressed_iff := by
    rw [pressed_tap hb, holdOf_tap, hm.pressed_iff, tap_ordinary]
    by_cases hsm : s = m
    · simp [hsm]
    · have hord := hm.holdOf_of_ordinary
      cases hst : b.startsRelease with
      | false =>
        by_cases ho : b.ordinary = some m
        · simp [hsm, ho, hord ho]
        · simp [hsm, ho]
      | true =>
        have ho := hb.ordinary_of_starts hst
        cases b.holdOf m with
        | none => simp [hsm, ho]
        | some g => cases g <;> simp [hsm, ho]
  holdOf_of_ordinary := by
    rw [tap_ordinary, holdOf_tap]
    intro h
    simp [hs (Option.some.inj h)]

theorem Single.setModifier (hm : b.Single m) (hb : b.Filed) {k : Mark} {p : Bool} {g : Hold}
    (hk : k.effect? = some (p, g)) {s : Symbol} (hs : s = m → b.ordinary ≠ some m) :
    (b.setModifier ⟨s, p⟩ g).Single m where
  pressed_iff := by
    have ho : (b.setModifier ⟨s, p⟩ g).ordinary = b.ordinary := by simp [Build.setModifier]
    rw [pressed_setModifier hb, holdOf_setModifier, hm.pressed_iff, ho]
    by_cases hsm : s = m
    · cases k <;> cases hk <;> simp [hsm, hs hsm]
    · simp [hsm]
  holdOf_of_ordinary := by
    intro h
    have ho : b.ordinary = some m := by simpa [Build.setModifier] using h
    have hsm : s ≠ m := fun he => hs he ho
    rw [holdOf_setModifier, if_neg hsm, hm.holdOf_of_ordinary ho]

theorem Single.cross (hm : b.Single m) (hb : b.Sound) : b.cross.Single m where
  pressed_iff := by
    have hord := hm.holdOf_of_ordinary
    rw [pressed_cross hb, holdOf_cross, hm.pressed_iff, cross_ordinary]
    by_cases ho : b.ordinary = some m
    · simp [ho, hord ho]
    · cases b.holdOf m with
      | none => simp [ho]
      | some g => cases g <;> simp [ho]
  holdOf_of_ordinary := by simp

theorem Single.releaseOrdinary (hm : b.Single m) (hb : b.Filed) : b.releaseOrdinary.Single m where
  pressed_iff := by
    have hord := hm.holdOf_of_ordinary
    have hhold : b.releaseOrdinary.holdOf m = b.holdOf m := by simp [holdOf]
    rw [pressed_releaseOrdinary hb, hhold, hm.pressed_iff, releaseOrdinary_ordinary]
    by_cases ho : b.ordinary = some m
    · simp [ho, hord ho]
    · simp [ho]
  holdOf_of_ordinary := by simp

theorem inTurn_tap (hm : b.Single m) (hb : b.Sound) {s : Symbol}
    (hs : s = m → b.holdOf m = none) : InTurn m (b.tap s).sent ↔ InTurn m b.sent := by
  have hord := hm.holdOf_of_ordinary
  rw [sent_tap hb.filed, inTurn_append_singleton, inTurn_append_ordinaryReleases,
    inTurn_append_represses hb.nodup, pressed_append_ordinaryReleases,
    pressed_append_represses hb.nodup, hm.pressed_iff]
  by_cases ho : b.ordinary = some m
  · simp [ho, hord ho]
  · by_cases hsm : s = m
    · simp [ho, hs hsm]
    · simp +contextual [ho, hsm]

theorem inTurn_setModifier (hb : b.Filed) (s : Stroke) (h : Hold) :
    InTurn m (b.setModifier s h).sent ↔
      InTurn m b.sent ∧ (s.symbol = m → (s.pressed = true ↔ ¬Pressed m b.sent)) := by
  rw [sent_setModifier hb, inTurn_append_singleton]

theorem inTurn_releaseOrdinary (hm : b.Single m) (hb : b.Filed) :
    InTurn m b.releaseOrdinary.sent ↔ InTurn m b.sent := by
  rw [sent_releaseOrdinary hb, inTurn_append_ordinaryReleases, hm.pressed_iff]
  simp +contextual

theorem inTurn_cross (hm : b.Single m) (hb : b.Sound) :
    InTurn m b.cross.sent ↔ InTurn m b.sent := by
  have hord := hm.holdOf_of_ordinary
  rw [sent_cross, inTurn_append_modifiersWhere hb.nodup, inTurn_append_ordinaryReleases,
    pressed_append_ordinaryReleases, hm.pressed_iff]
  by_cases ho : b.ordinary = some m
  · simp [ho, hord ho]
  · simp +contextual [ho]

/-- Letting go of modifiers and tapped symbol is in turn. -/
theorem inTurn_releaseModifiers (hm : b.Single m) (hb : b.Filed)
    (hk : (keys b.modifiers).Nodup) :
    InTurn m b.releaseModifiers.releaseOrdinary.sent ↔ InTurn m b.sent := by
  have hord := hm.holdOf_of_ordinary
  have hsame : b.releaseModifiers.ordinary = b.ordinary := by simp [releaseModifiers]
  rw [sent_releaseOrdinary hb.releaseModifiers, inTurn_append_ordinaryReleases,
    pressed_releaseModifiers hb hk, sent_releaseModifiers hb, inTurn_append_modifiersWhere hk,
    hm.pressed_iff, hsame]
  by_cases ho : b.ordinary = some m
  · simp [ho, hord ho]
  · simp +contextual [ho]

theorem inTurn_finish (hm : b.Single m) (hb : b.Sound) :
    InTurn m b.finish.sent ↔ InTurn m b.sent := by
  have hclose : ∀ {c : Build}, c.Single m → c.Filed → (keys c.modifiers).Nodup →
      (InTurn m c.releaseOrdinary.releaseModifiers.releaseOrdinary.sent ↔ InTurn m c.sent) := by
    intro c hc hf hk
    rw [inTurn_releaseModifiers (hc.releaseOrdinary hf) hf.releaseOrdinary (by simpa using hk),
      inTurn_releaseOrdinary hc hf]
  unfold finish
  cases hs : b.split with
  | false => exact inTurn_releaseModifiers hm hb.filed hb.nodup
  | true =>
    cases hr : b.inRelease with
    | true => exact hclose hm hb.filed hb.nodup
    | false =>
      exact (hclose (hm.cross hb) (hb.cross hs).filed (hb.cross hs).nodup).trans
        (inTurn_cross hm hb)

/-- The marks on a symbol come when they move it. -/
def MarksTimely (split : Bool) (ts : List Step) (m : Symbol) : Prop :=
  ∀ us t vs b, ts = us ++ t :: vs → Build.steps { split } us = .ok b → t.symbol = some m →
    t.mark.Timely (b.holdOf m)

theorem marksTimely_nil (split : Bool) (m : Symbol) : MarksTimely split [] m := by
  intro us t vs b h
  simp at h

theorem marksTimely_append_singleton {split : Bool} {ts : List Step} {t : Step}
    (h : Build.steps { split } ts = .ok b) :
    MarksTimely split (ts ++ [t]) m ↔
      MarksTimely split ts m ∧ (t.symbol = some m → t.mark.Timely (b.holdOf m)) := by
  constructor
  · intro ht
    refine ⟨fun us u vs c hts => ht us u (vs ++ [t]) c (by simp [hts]), fun hm => ?_⟩
    exact ht ts t [] b rfl h hm
  · rintro ⟨hts, ht⟩ us u vs c heq hc hm
    rcases List.eq_nil_or_concat vs with rfl | ⟨ws, w, rfl⟩
    · obtain ⟨rfl, hu⟩ := List.append_inj' heq rfl
      cases hu
      rw [h] at hc
      cases hc
      exact ht hm
    · refine hts us u ws c ?_ hc hm
      have heq' : ts ++ [t] = (us ++ u :: ws) ++ [w] := by simpa using heq
      exact (List.append_inj' heq' rfl).1

/-- A mark is in turn if it is timely. -/
theorem timely_iff {k : Mark} {p : Bool} {g : Hold} (hk : k.effect? = some (p, g))
    (hm : b.Single m) (ho : b.ordinary ≠ some m) :
    k.Timely (b.holdOf m) ↔ (p = true ↔ ¬Pressed m b.sent) := by
  rw [hm.pressed_iff]
  cases k <;> cases hk <;> simp only [Mark.Timely] <;> cases b.holdOf m with
  | none => simp [ho]
  | some h => cases h <;> simp [ho]

/-- For a symbol that is not both tapped and marked. -/
theorem single_and_inTurn {split : Bool} {ts : List Step} (h : Build.steps { split } ts = .ok b)
    (hm : .tap m ∈ ts → ∀ t ∈ ts, t.marks m = false) :
    b.Single m ∧ (InTurn m b.sent ↔ MarksTimely split ts m) := by
  induction ts using List.reverseRecOn generalizing b with
  | nil =>
    cases h
    exact ⟨single_initial split m,
      iff_of_true (by simpa [sent, history] using inTurn_nil m) (marksTimely_nil split m)⟩
  | append_singleton ts t ih =>
    obtain ⟨c, hc, hlast⟩ := steps_append_ok_iff.mp h
    obtain ⟨d, hd, hlast⟩ := steps_cons_ok_iff.mp hlast
    cases hlast
    have hb := sound_of_steps hc
    obtain ⟨hsingle, hturn⟩ := ih hc fun htap u hu =>
      hm (List.mem_append_left _ htap) u (List.mem_append_left _ hu)
    rw [marksTimely_append_singleton hc, ← hturn]
    rcases step_cases hd with ⟨hk, _, rfl⟩ | ⟨s, rfl, rfl⟩ | ⟨s, p, g, hs, hg, rfl⟩
    · refine ⟨hsingle.cross hb, ?_⟩
      rw [inTurn_cross hsingle hb, hk]
      simp [Mark.Timely]
    · have hs : s = m → c.holdOf m = none := by
        rintro rfl
        have hnone : lastMark? s ts = none := lastMark?_eq_none_iff.mpr fun u hu =>
          hm (by simp) u (List.mem_append_left _ hu)
        rwa [← map_mark_holdOf hc, Option.map_eq_none_iff] at hnone
      refine ⟨hsingle.tap hb hs, ?_⟩
      rw [inTurn_tap hsingle hb hs]
      simp [Step.tap, Mark.Timely]
    · have ho : s = m → c.ordinary ≠ some m := by
        rintro rfl
        refine (untapped_of_steps hc fun htap => ?_).ordinary
        have hmarks := hm (List.mem_append_left _ htap) t (by simp)
        simp [Step.marks, hs, hg] at hmarks
      refine ⟨hsingle.setModifier hb.filed hg ho, ?_⟩
      rw [inTurn_setModifier hb.filed, hs]
      by_cases hsm : s = m
      · simp [hsm, timely_iff hg hsingle (ho hsm)]
      · simp [hsm]

/-- The strokes on a symbol alternate if and only if the marks on it are timely. -/
theorem alternate_iff_marksTimely {split : Bool} {ts : List Step} {r : Halves}
    (h : Halves.ofSteps? split ts = .ok r) (hm : .tap m ∈ ts → ∀ t ∈ ts, t.marks m = false) :
    Alternate m (r.press ++ r.release) ↔ MarksTimely split ts m := by
  have hsettled := settled_halves h
  obtain ⟨b, hb, rfl⟩ := Halves.ofSteps?_ok_iff.mp h
  obtain ⟨hsingle, hturn⟩ := single_and_inTurn hb hm
  rw [alternate_iff, and_iff_left (settled_iff.mp hsettled m), halves_append,
    inTurn_finish hsingle (sound_of_steps hb), hturn]

/-- If no symbol is both tapped and marked, the strokes on all symbols alternate if and only if all
marks are timely. -/
theorem strokes_alternate_iff_marks_timely {split : Bool} {ts : List Step} {r : Halves}
    (h : Halves.ofSteps? split ts = .ok r)
    (hm : ∀ m, .tap m ∈ ts → ∀ t ∈ ts, t.marks m = false) :
    (∀ m, Alternate m (r.press ++ r.release)) ↔ ∀ m, MarksTimely split ts m :=
  forall_congr' fun m => alternate_iff_marksTimely h (hm m)

/-- A modifier is marked down while it waits behind the boundary, and held once it was let go. -/
def remarked : List Step :=
  [.down ⟨1⟩, .tap ⟨2⟩, .boundary, .down ⟨1⟩, .tap ⟨3⟩, .up ⟨1⟩, .hold ⟨1⟩]

def remarkedHalves : Halves where
  press := [.press ⟨1⟩, .press ⟨2⟩]
  release := [.release ⟨2⟩, .release ⟨1⟩, .press ⟨1⟩, .press ⟨3⟩, .release ⟨1⟩, .press ⟨1⟩,
    .release ⟨3⟩, .release ⟨1⟩]

/-- A modifier is let go while it waits behind the boundary. -/
def upWhilePending : List Step := [.down ⟨1⟩, .boundary, .up ⟨1⟩]

theorem marks_timely_of_remarked :
    (Halves.ofSteps? true remarked = .ok remarkedHalves ∧
      (∀ m, .tap m ∈ remarked → ∀ t ∈ remarked, t.marks m = false) ∧
      ∀ m, MarksTimely true remarked m) ∧
    Halves.ofSteps? true upWhilePending = .ok ⟨[.press ⟨1⟩], [.release ⟨1⟩, .release ⟨1⟩]⟩ ∧
      (∀ m, .tap m ∈ upWhilePending → ∀ t ∈ upWhilePending, t.marks m = false) ∧
      ¬∀ m, Alternate m ([.press ⟨1⟩] ++ [.release ⟨1⟩, .release ⟨1⟩]) := by
  constructor
  · have hok : Halves.ofSteps? true remarked = .ok remarkedHalves := by decide
    have hm : ∀ m, .tap m ∈ remarked → ∀ t ∈ remarked, t.marks m = false := by
      intro m htap
      obtain rfl | rfl : m = ⟨2⟩ ∨ m = ⟨3⟩ := by
        simpa [remarked, Step.tap, Step.down, Step.up, Step.hold, Step.boundary] using htap
      · decide
      · decide
    refine ⟨hok, hm, (strokes_alternate_iff_marks_timely hok hm).mp fun m => ?_⟩
    by_cases hmem : m ∈ [(⟨1⟩ : Symbol), ⟨2⟩, ⟨3⟩]
    · revert m
      decide
    · have hsymbols : ∀ s ∈ remarkedHalves.press ++ remarkedHalves.release,
          s.symbol ∈ [(⟨1⟩ : Symbol), ⟨2⟩, ⟨3⟩] := by decide
      exact alternate_of_silent fun s hs he => hmem (he ▸ hsymbols s hs)
  · have hok : Halves.ofSteps? true upWhilePending =
        .ok ⟨[.press ⟨1⟩], [.release ⟨1⟩, .release ⟨1⟩]⟩ := by decide
    have hm : ∀ m, .tap m ∈ upWhilePending → ∀ t ∈ upWhilePending, t.marks m = false := by
      intro m htap
      simp [upWhilePending, Step.tap, Step.down, Step.up, Step.boundary] at htap
    refine ⟨hok, hm, (strokes_alternate_iff_marks_timely hok hm).not.mpr fun htimely => ?_⟩
    rcases htimely ⟨1⟩ [.down ⟨1⟩, .boundary] (.up ⟨1⟩) [] _ rfl rfl rfl with h | h <;> cases h

end Build

end JogShuttle
