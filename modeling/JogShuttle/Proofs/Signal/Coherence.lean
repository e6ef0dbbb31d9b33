import JogShuttle.Proofs.Signal.Run
import Mathlib.Data.List.Chain

/-!
# The state along a run

Dial and ring are known by four fields, which are set at different points of a sample, and once more
where the return of the ring is inferred within a sample of the dial. After every sample they fit
together all the same: positions and levels are in range, the ring's level and time are known
together, and its return is awaited just when it stands off its centre. The levels that come out of
a run change every time, and the last of them is the level that is known.
-/

set_option autoImplicit false

namespace JogShuttle

namespace Sample

/-- Samples from which nothing is learnt: those of keys, and levels that the ring does not have. -/
def Idle : Sample → Prop
  | key _ _ => True
  | shuttle level _ => ¬(-7 ≤ level ∧ level ≤ 7)
  | jog _ _ => False

theorem inRange_of_ring? {x : Sample} {level : Int} {time : Duration}
    (h : x.ring? = some (level, time)) : -7 ≤ level ∧ level ≤ 7 := by
  cases x with
  | key n pressed => cases h
  | shuttle n t =>
    rw [ring?] at h
    split at h
    · next hn =>
      cases h
      exact hn
    · cases h
  | jog n t => cases h

end Sample

/-- The level that a slot tells of. -/
def Slot.level? : Slot → Option Int
  | shuttle level => some level
  | _ => none

theorem Slot.level?_of_isKey {slot : Slot} (h : slot.isKey = true) : slot.level? = none := by
  cases slot <;> first | rfl | cases h

namespace Signal

variable {s : Signal} {timeout time : Duration} {isBound : Slot → Bool} {o : Outcome}
variable {x : Sample} {level : Int} {slots more : List Slot} {xs : List Input}

section State

/-- What the fields have to do with each other. -/
structure Coherent (s : Signal) : Prop where
  position : ∀ position, s.jogPosition = some position → 0 ≤ position ∧ position ≤ 255
  level : ∀ level, s.shuttleLevel = some level → -7 ≤ level ∧ level ≤ 7
  time : s.lastShuttle = none ↔ s.shuttleLevel = none
  center : s.needsCenter = true ↔ ∃ level, s.shuttleLevel = some level ∧ level ≠ 0

theorem coherent_start : Coherent {} where
  position := nofun
  level := nofun
  time := ⟨fun _ => rfl, fun _ => rfl⟩
  center := by simp

/-- A report of the ring sets everything that is known of it. -/
theorem Coherent.ringAt (h : s.Coherent) (hlevel : -7 ≤ level ∧ level ≤ 7) (time : Duration) :
    (s.ringAt level time).Coherent where
  position := h.position
  level := by
    rintro _ ⟨⟩
    exact hlevel
  time := by simp [Signal.ringAt]
  center := by simp [Signal.ringAt]

theorem Coherent.dialAt (h : s.Coherent) (value : Int) :
    Coherent { s with jogPosition := some (Dial.wrap value) } where
  position := by
    rintro _ ⟨⟩
    obtain ⟨hlow, hhigh⟩ := Dial.wrap_bounds value
    exact ⟨hlow, Int.le_of_lt_add_one hhigh⟩
  level := h.level
  time := h.time
  center := h.center

theorem Coherent.sample (h : s.Coherent) (ho : s.sample timeout isBound x = .ok o) :
    o.signal.Coherent := by
  rcases sample_cases ho with ⟨_, _, hs, _⟩ | ⟨level, time, hx, hs, _⟩ |
    ⟨value, time, _, _, hs, _⟩ | ⟨value, time, _, _, hs, _⟩
  · rwa [hs]
  · rw [hs]
    exact h.ringAt (Sample.inRange_of_ring? hx) time
  · -- the return of the ring counts as a report of its centre
    rw [hs]
    exact (h.ringAt (by decide) time).dialAt value
  · rw [hs]
    exact h.dialAt value

theorem coherent_run (h : run timeout {} xs = .ok o) : o.signal.Coherent := by
  refine run_induction (P := fun _ o => o.signal.Coherent) coherent_start ?_ h
  intro xs o x q hs hq
  change q.signal.Coherent
  exact hs.sample hq

theorem exists_sample_of_idle (s : Signal) (timeout : Duration) (isBound : Slot → Bool)
    (hx : x.Idle) : ∃ o, s.sample timeout isBound x = .ok o ∧ o.signal = s := by
  cases x with
  | key n pressed => exact ⟨_, rfl, key_signal n pressed⟩
  | shuttle level time => exact ⟨_, rfl, (shuttle_of_not_inRange s time isBound hx).1⟩
  | jog value time => exact hx.elim

end State

section Levels

/-- The levels that some slots tell of, in order. -/
def levels (slots : List Slot) : List Int := slots.filterMap Slot.level?

theorem levels_append : levels (slots ++ more) = levels slots ++ levels more :=
  List.filterMap_append

theorem levels_eq_nil (h : ∀ slot ∈ slots, slot.level? = none) : levels slots = [] :=
  List.filterMap_eq_nil_iff.mpr h

theorem levels_turnTo (s : Signal) (position : Int) : levels (s.turnTo position) = [] := by
  refine levels_eq_nil ?_
  intro slot hslot
  obtain ⟨d, rfl⟩ := mem_turnTo hslot
  rfl

theorem levels_levelSlots (old new : Int) (isBound : Slot → Bool) :
    levels (levelSlots old new isBound) = [new] := by
  refine congrArg (new :: ·) (levels_eq_nil ?_)
  intro slot hslot
  split at hslot
  · rw [List.eq_of_mem_replicate hslot]
    rfl
  · cases hslot

theorem levels_ringSlots (s : Signal) (level : Int) (isBound : Slot → Bool) :
    levels (s.ringSlots level isBound) = if s.shuttleLevel = some level then [] else [level] := by
  unfold ringSlots
  split
  · rfl
  · exact levels_levelSlots s.level level isBound

/-- A level that stays is not told of, and a new one is told of once. -/
def Tells (old new : Option Int) (ls : List Int) : Prop :=
  (ls = [] ∧ new = old) ∨ ∃ level, ls = [level] ∧ new = some level ∧ old ≠ some level

theorem tells_ringSlots (s : Signal) (level : Int) (isBound : Slot → Bool) :
    Tells s.shuttleLevel (some level) (levels (s.ringSlots level isBound)) := by
  rw [levels_ringSlots]
  split
  · next h => exact Or.inl ⟨rfl, h.symm⟩
  · next h => exact Or.inr ⟨level, rfl, rfl, h⟩

theorem tells_sample (h : s.sample timeout isBound x = .ok o) :
    Tells s.shuttleLevel o.signal.shuttleLevel (levels o.slots) := by
  rcases sample_cases h with ⟨_, _, hs, hkeys⟩ | ⟨level, time, _, hs, hslots⟩ |
    ⟨value, time, _, _, hs, hslots⟩ | ⟨value, time, _, _, hs, hslots⟩
  · rw [hs]
    exact Or.inl ⟨levels_eq_nil fun slot hslot => Slot.level?_of_isKey (hkeys slot hslot), rfl⟩
  · rw [hs, hslots]
    exact tells_ringSlots s level isBound
  · rw [hs, hslots, levels_append, levels_turnTo, List.append_nil]
    exact tells_ringSlots s 0 isBound
  · rw [hs, hslots, levels_turnTo]
    exact Or.inl ⟨rfl, rfl⟩

/-- The levels told of change every time and end with the one that is known. -/
def InStep (slots : List Slot) (known : Option Int) : Prop :=
  (levels slots).IsChain (· ≠ ·) ∧ (levels slots).getLast? = known

theorem InStep.append {old new : Option Int} (h : InStep slots old)
    (hmore : Tells old new (levels more)) : InStep (slots ++ more) new := by
  obtain ⟨hchain, hlast⟩ := h
  unfold InStep
  rw [levels_append]
  rcases hmore with ⟨hnone, rfl⟩ | ⟨level, hlevel, rfl, hnew⟩
  · rw [hnone, List.append_nil]
    exact ⟨hchain, hlast⟩
  · rw [hlevel]
    refine ⟨List.isChain_append.mpr ⟨hchain, List.isChain_singleton level, ?_⟩, by simp⟩
    rintro before hbefore _ ⟨⟩ rfl
    exact hnew (hlast.symm.trans hbefore)

theorem inStep_run (h : run timeout {} xs = .ok o) : InStep o.slots o.signal.shuttleLevel := by
  refine run_induction (P := fun _ o => InStep o.slots o.signal.shuttleLevel)
    ⟨List.isChain_nil, rfl⟩ ?_ h
  intro xs o x q hslots hq
  change InStep (o.slots ++ q.slots) q.signal.shuttleLevel
  exact hslots.append (tells_sample hq)

end Levels

/-- After any number of samples the state is coherent, and the levels that have come out change
every time and end with the one that is known. A sample of a key, or of a level that the ring does
not have, leaves the state as it is. -/
theorem runs_keep_state_coherent (timeout : Duration) (xs : List Input) (ht : Timely xs) (n : Nat) :
    ∃ o, run timeout {} (xs.take n) = .ok o ∧ o.signal.Coherent ∧
      (levels o.slots).IsChain (· ≠ ·) ∧ (levels o.slots).getLast? = o.signal.shuttleLevel ∧
      ∀ x, xs[n]? = some x → x.sample.Idle →
        ∃ p, run timeout {} (xs.take (n + 1)) = .ok p ∧ p.signal = o.signal := by
  have htake : Timely (xs.take n ++ xs.drop n) := by rwa [List.take_append_drop]
  obtain ⟨o, ho⟩ := exists_run timeout htake.left
  obtain ⟨hchain, hlast⟩ := inStep_run ho
  refine ⟨o, ho, coherent_run ho, hchain, hlast, ?_⟩
  intro x hx hidle
  obtain ⟨q, hq, hsignal⟩ := exists_sample_of_idle o.signal timeout x.isBound hidle
  have hnext : xs.take (n + 1) = xs.take n ++ [x] := by
    rw [List.take_add_one, hx]
    rfl
  rw [hnext]
  exact ⟨o.followedBy q, run_concat_ok_iff.mpr ⟨o, q, ho, hq, rfl⟩, hsignal⟩

/-- The dial goes below zero, the ring goes right, repeats its level, is inferred to be back, reports
its centre all the same, goes left to the end, and reports a level beyond it. -/
def wanderingRun : List Input :=
  [⟨.jog (-3) (millis 0), fun _ => true⟩,
   ⟨.shuttle 3 (millis 1), fun _ => true⟩,
   ⟨.shuttle 3 (millis 2), fun _ => false⟩,
   ⟨.key 4 true, fun _ => true⟩,
   ⟨.jog 509 (millis 9), fun _ => true⟩,
   ⟨.shuttle 0 (millis 10), fun _ => true⟩,
   ⟨.shuttle (-7) (millis 11), fun _ => true⟩,
   ⟨.shuttle (-8) (millis 12), fun _ => true⟩]

theorem runs_keep_state_coherent_while_wandering :
    Timely wanderingRun ∧
    ∃ o p, run defaultTimeout {} (wanderingRun.take 7) = .ok o ∧
      levels o.slots = [3, 0, -7] ∧ o.signal = ⟨some 253, some (-7), some (millis 11), true⟩ ∧
      o.signal.Coherent ∧ (levels o.slots).getLast? = o.signal.shuttleLevel ∧
      run defaultTimeout {} (wanderingRun.take 8) = .ok p ∧ p.signal = o.signal := by
  have ht : Timely wanderingRun := by decide
  obtain ⟨o, ho, hcoherent, _, hlast, hidle⟩ :=
    runs_keep_state_coherent defaultTimeout wanderingRun ht 7
  obtain ⟨p, hp, hsame⟩ := hidle _ rfl (by simp [Sample.Idle])
  have hstate : (run defaultTimeout {} (wanderingRun.take 7)).toOption.any
      (fun o => levels o.slots = [3, 0, -7] ∧
        o.signal = ⟨some 253, some (-7), some (millis 11), true⟩) = true := by decide
  rw [ho] at hstate
  obtain ⟨hlevels, hsignal⟩ := of_decide_eq_true hstate
  exact ⟨ht, o, p, ho, hlevels, hsignal, hcoherent, hlast, hp, hsame⟩

end Signal

end JogShuttle
