import JogShuttle.Proofs.Sequence.Modes

/-!
# The order of the last releases

At its end a build lets go of the tapped symbol and of the modifiers that are down or held, and of
nothing else. A key lets go of the tapped symbol first, every other slot last. The modifiers follow
in the order in which they were first marked, for neither later marks nor boundaries move them; only
a key whose boundary never came lets go of those that are down before those that are held.
-/

set_option autoImplicit false

namespace JogShuttle

/-- The symbol that a step marks as a modifier. -/
def Step.marked? (t : Step) : Option Symbol :=
  match t.mark with
  | .down | .up | .hold => t.symbol
  | .tap | .release => none

/-- The symbols marked by some steps, in the order of their first marks. -/
def marked (ts : List Step) : List Symbol := (ts.filterMap Step.marked?).eraseDups

theorem marked_append_singleton (ts : List Step) (t : Step) :
    marked (ts ++ [t]) = match t.marked? with
      | none => marked ts
      | some s => if s ∈ marked ts then marked ts else marked ts ++ [s] := by
  have hfilter : marked (ts ++ [t]) = (ts.filterMap Step.marked? ++ t.marked?.toList).eraseDups := by
    rw [marked, List.filterMap_append]
    cases ht : t.marked? <;> simp [ht]
  rw [hfilter, List.eraseDups_append]
  cases t.marked? with
  | none => simp [List.removeAll, marked]
  | some s =>
    have hmem : s ∈ (ts.filterMap Step.marked?).eraseDups ↔ s ∈ ts.filterMap Step.marked? :=
      List.mem_eraseDups
    by_cases hs : s ∈ ts.filterMap Step.marked?
    · have hgone : (Option.some s).toList.removeAll (ts.filterMap Step.marked?) = [] :=
        List.filter_cons_of_neg (by simpa using hs)
      simp only [marked, hmem, if_pos hs, hgone, List.eraseDups_nil, List.append_nil]
    · have hkept : (Option.some s).toList.removeAll (ts.filterMap Step.marked?) = [s] :=
        List.filter_cons_of_pos (by simpa using hs)
      simp only [marked, hmem, if_neg hs, hkept, List.eraseDups_cons, List.filter_nil,
        List.eraseDups_nil]

theorem Step.marked?_of_effect? {t : Step} {p : Bool} {g : Hold}
    (h : t.mark.effect? = some (p, g)) : t.marked? = t.symbol := by
  obtain ⟨mark, symbol⟩ := t
  cases mark <;> cases h <;> rfl

namespace Build

variable {b b' : Build} {split : Bool} {ts : List Step} {r : Halves}

/-- The modifiers stand in the order of their first marks. -/
theorem keys_of_steps (h : Build.steps { split } ts = .ok b) : keys b.modifiers = marked ts := by
  refine steps_induction (P := fun ts c => keys c.modifiers = marked ts) rfl ?_ h
  intro ts c t d hc hd
  rw [marked_append_singleton]
  rcases step_cases hd with ⟨hk, _, rfl⟩ | ⟨s, rfl, rfl⟩ | ⟨s, p, g, hs, hg, rfl⟩
  · have hnone : t.marked? = none := by rw [Step.marked?, hk]
    rw [hnone, keys_cross, hc]
  · rw [keys_tap, hc]
    rfl
  · have hkeys : keys (c.setModifier ⟨s, p⟩ g).modifiers = keys (setHold s g c.modifiers) := rfl
    rw [Step.marked?_of_effect? hg, hs, hkeys, keys_setHold, hc]

/-- The second half is entered at the boundary. -/
theorem inRelease_iff (h : Build.steps { split } ts = .ok b) :
    b.inRelease = true ↔ ∃ t ∈ ts, t.mark = .release := by
  refine steps_induction
    (P := fun ts c => c.inRelease = true ↔ ∃ t ∈ ts, t.mark = .release) (by simp) ?_ h
  intro ts c t d hc hd
  have hexists : (∃ u ∈ ts ++ [t], u.mark = .release) ↔
      (∃ u ∈ ts, u.mark = .release) ∨ t.mark = .release := by
    simp [or_and_right, exists_or]
  rw [hexists, ← hc]
  by_cases ht : t.mark = .release
  · rcases step_cases hd with ⟨_, _, rfl⟩ | ⟨s, rfl, _⟩ | ⟨s, p, g, _, hg, _⟩
    · simp [cross, ht]
    · cases ht
    · rw [ht] at hg
      cases hg
  · rw [inRelease_of_step ht hd]
    simp [ht]

/-- The modifiers whose states satisfy a test, in the order in which the steps first mark them. -/
def markedWhere (b : Build) (ts : List Step) (p : Hold → Bool) : List Symbol :=
  (marked ts).filter fun m => (b.holdOf m).any p

theorem modifiersWhere_eq (h : Build.steps { split } ts = .ok b) (p : Hold → Bool) :
    b.modifiersWhere p = b.markedWhere ts p := by
  have hnodup := (sound_of_steps h).nodup
  rw [markedWhere, ← keys_of_steps h, keys, List.filter_map, modifiersWhere]
  congr 1
  refine List.filter_congr fun e he => ?_
  have hstate : b.holdOf e.1 = some e.2 := lookup_of_mem hnodup he
  rw [Function.comp_apply, hstate, Option.any_some]

theorem nodup_markedWhere (h : Build.steps { split } ts = .ok b) (p : Hold → Bool) :
    (b.markedWhere ts p).Nodup := by
  rw [markedWhere, ← keys_of_steps h]
  exact (sound_of_steps h).nodup.filter _

theorem mem_markedWhere (h : Build.steps { split } ts = .ok b) {p : Hold → Bool} {m : Symbol} :
    m ∈ b.markedWhere ts p ↔ ∃ g, b.holdOf m = some g ∧ p g = true := by
  rw [← modifiersWhere_eq h, mem_modifiersWhere (sound_of_steps h).nodup]

/-- What the end of a build lets go of, in order. -/
def closing (b : Build) (ts : List Step) : List Symbol :=
  if b.split then
    if ∃ t ∈ ts, t.mark = .release then
      b.ordinary.toList ++ b.markedWhere ts fun h => h == .down || h == .held
    else
      b.ordinary.toList ++ b.markedWhere ts (· == .down) ++ b.markedWhere ts (· == .held)
  else (b.markedWhere ts fun h => h == .down || h == .held) ++ b.ordinary.toList

/-- A key behind its boundary lets go of the tapped symbol first. -/
theorem sent_finish_of_crossed (hb : b.Filed) (hs : b.split = true) (hr : b.inRelease = true) :
    b.finish.sent = b.sent ++ b.ordinaryReleases ++
      (b.modifiersWhere fun h => h == .down || h == .held).map .release := by
  have hlast : b.releaseOrdinary.releaseModifiers.ordinaryReleases = [] := by
    simp [ordinaryReleases, releaseModifiers]
  have hsame : (b.releaseOrdinary.modifiersWhere fun h => h == .down || h == .held) =
      b.modifiersWhere fun h => h == .down || h == .held := by
    simp [modifiersWhere]
  have hfinish : b.finish = b.releaseOrdinary.releaseModifiers.releaseOrdinary := by
    simp [finish, hs, hr]
  rw [hfinish, sent_releaseOrdinary hb.releaseOrdinary.releaseModifiers, hlast, List.append_nil,
    sent_releaseModifiers hb.releaseOrdinary, hsame, sent_releaseOrdinary hb]

theorem sent_finish (h : Build.steps { split } ts = .ok b) :
    b.finish.sent = b.sent ++ (b.closing ts).map .release := by
  have hsound := sound_of_steps h
  unfold closing
  cases hs : b.split with
  | false =>
    rw [sent_finish_of_single hsound.filed hs, modifiersWhere_eq h, if_neg Bool.false_ne_true,
      List.map_append, List.append_assoc, ordinaryReleases]
  | true =>
    rw [if_pos rfl]
    cases hr : b.inRelease with
    | true =>
      rw [sent_finish_of_crossed hsound.filed hs hr, modifiersWhere_eq h,
        if_pos ((inRelease_iff h).mp hr), List.map_append, List.append_assoc, ordinaryReleases]
    | false =>
      have hnone : ¬∃ t ∈ ts, t.mark = .release := by simp [← inRelease_iff h, hr]
      rw [sent_finish_of_open hsound hs hr, modifiersWhere_eq h, modifiersWhere_eq h,
        if_neg hnone, List.map_append, List.map_append, ordinaryReleases]
      simp only [List.append_assoc]

/-- The end of a key adds nothing to the first half. -/
theorem press_finish_of_key (hb : b.Filed) (hs : b.split = true) :
    b.finish.halves.press = b.halves.press := by
  cases hr : b.inRelease with
  | true =>
    have hclosed : b.Closed b.pressed := ⟨hr, rfl⟩
    rw [halves, halves, hclosed.finish.pressed]
  | false =>
    rw [press_finish_of_open hb hs hr]
    simp [halves, sent, history, hb hr]

/-- The end of a build adds one release for each symbol that it lets go of: for a key, to the second
half, the tapped symbol and then the modifiers; for another slot the modifiers and then the tapped
symbol. Modifiers come in the order of their first marks, whatever became of them later; where no
boundary was crossed those that are down come before those that are held. -/
theorem releases_follow_first_marks (h : Halves.ofSteps? split ts = .ok r) :
    ∃ b, Build.steps { split } ts = .ok b ∧
      r = (if split then ⟨b.halves.press, b.halves.release ++ (b.closing ts).map .release⟩
        else ⟨b.halves.press ++ (b.closing ts).map .release, []⟩) ∧
      ∀ p, (b.markedWhere ts p).Nodup ∧
        ∀ m, m ∈ b.markedWhere ts p ↔ ∃ g, b.holdOf m = some g ∧ p g = true := by
  obtain ⟨b, hb, rfl⟩ := Halves.ofSteps?_ok_iff.mp h
  refine ⟨b, hb, ?_, fun p => ⟨nodup_markedWhere hb p, fun m => mem_markedWhere hb⟩⟩
  have hsplit := split_of_steps hb
  have hsent := sent_finish hb
  rw [← halves_append, ← halves_append] at hsent
  cases split with
  | true =>
    have hpress := press_finish_of_key (sound_of_steps hb).filed hsplit
    rw [hpress, List.append_assoc, List.append_right_inj] at hsent
    rw [if_pos rfl, ← hsent, ← hpress]
  | false =>
    have hsound := sound_of_steps hb
    have hnone : b.halves.release = [] := by
      simp [halves, hsound.filed (hsound.inRelease_eq_false hsplit)]
    rw [hnone, List.append_nil] at hsent
    rw [if_neg Bool.false_ne_true, ← hsent]
    exact halves_eq_of_single h

/-- Three modifiers are marked before the boundary and in another order behind it, with other
marks. -/
def remarkedBehind : List Step :=
  [.hold ⟨1⟩, .down ⟨2⟩, .up ⟨3⟩, .tap ⟨4⟩, .boundary, .down ⟨3⟩, .tap ⟨5⟩, .up ⟨2⟩, .hold ⟨2⟩,
    .down ⟨1⟩]

theorem releases_follow_first_marks_of_remarkedBehind :
    ∃ r b, Halves.ofSteps? true remarkedBehind = .ok r ∧
      Build.steps { split := true } remarkedBehind = .ok b ∧
      b.closing remarkedBehind = [⟨5⟩, ⟨1⟩, ⟨2⟩, ⟨3⟩] ∧ r.press = b.halves.press ∧
      r.release = b.halves.release ++
        [.release ⟨5⟩, .release ⟨1⟩, .release ⟨2⟩, .release ⟨3⟩] := by
  have hclosing : (Build.steps { split := true } remarkedBehind).toOption.map
      (·.closing remarkedBehind) = some [⟨5⟩, ⟨1⟩, ⟨2⟩, ⟨3⟩] := by decide
  obtain ⟨r, hr⟩ : ∃ r, Halves.ofSteps? true remarkedBehind = .ok r := ⟨_, rfl⟩
  obtain ⟨b, hb, hhalves, -⟩ := releases_follow_first_marks hr
  rw [hb] at hclosing
  have hlast : b.closing remarkedBehind = [⟨5⟩, ⟨1⟩, ⟨2⟩, ⟨3⟩] := Option.some.inj hclosing
  rw [if_pos rfl, hlast] at hhalves
  exact ⟨r, b, hr, hb, hlast, by rw [hhalves], by rw [hhalves]; rfl⟩

end Build

end JogShuttle
