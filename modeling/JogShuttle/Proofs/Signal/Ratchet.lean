import JogShuttle.Proofs.Signal.Coherence

/-!
# The ratchet of the ring

Where ring steps in both directions are bound, a change of level comes out as one step for each
unit. Steps to the right less steps to the left then always give the level that the ring is known to
stand at, also when its return to the centre was not reported but inferred.
-/

set_option autoImplicit false

namespace JogShuttle

namespace Signal

variable {s : Signal} {timeout : Duration} {isBound : Slot → Bool} {o : Outcome}
variable {xs : List Input} {slots more : List Slot}

/-- Ring steps to the right less ring steps to the left. -/
def netSteps (slots : List Slot) : Int :=
  (slots.count (.increment .right) : Int) - slots.count (.increment .left)

theorem netSteps_append : netSteps (slots ++ more) = netSteps slots + netSteps more := by
  simp only [netSteps, List.count_append, Int.natCast_add]
  omega

theorem netSteps_of_no_step (h : ∀ slot ∈ slots, ∀ d, slot ≠ .increment d) :
    netSteps slots = 0 := by
  have hcount : ∀ d, slots.count (.increment d) = 0 :=
    fun d => List.count_eq_zero.mpr fun hd => h _ hd d rfl
  simp [netSteps, hcount]

theorem netSteps_turnTo (position : Int) : netSteps (s.turnTo position) = 0 := by
  refine netSteps_of_no_step ?_
  intro slot hs d hd
  obtain ⟨d', hjog⟩ := mem_turnTo hs
  rw [hd] at hjog
  cases hjog

/-- A change of level takes as many steps as there are units between the levels. -/
theorem netSteps_levelSlots (hb : ∀ d, isBound (.increment d) = true) (old new : Int) :
    netSteps (levelSlots old new isBound) = new - old := by
  unfold levelSlots netSteps Direction.ofStep
  simp only [hb, if_true, List.count_cons, List.count_replicate]
  generalize hcount : (new - old).natAbs = count
  by_cases hn : new - old < 0
  · simp [hn]
    omega
  · simp [hn]
    omega

theorem netSteps_ringSlots (hb : ∀ d, isBound (.increment d) = true) (level : Int) :
    netSteps (s.ringSlots level isBound) = level - s.level := by
  unfold ringSlots
  split
  · rename_i hl
    rw [Signal.level, hl]
    simp [netSteps]
  · exact netSteps_levelSlots hb _ _

/-- A sample moves the steps taken on by as much as the level. -/
theorem netSteps_sample (hb : ∀ d, isBound (.increment d) = true) {x : Sample}
    (h : s.sample timeout isBound x = .ok o) : netSteps o.slots = o.signal.level - s.level := by
  rcases sample_cases h with ⟨_, _, hs, hkeys⟩ | ⟨level, time, _, hs, hslots⟩ |
    ⟨value, time, _, _, hs, hslots⟩ | ⟨value, time, _, _, hs, hslots⟩
  · rw [hs, Int.sub_self]
    refine netSteps_of_no_step ?_
    rintro slot hslot d rfl
    cases hkeys _ hslot
  · rw [hs, hslots, netSteps_ringSlots hb]
    rfl
  · rw [hs, hslots, netSteps_append, netSteps_ringSlots hb, netSteps_turnTo, Int.add_zero]
    rfl
  · rw [hs, hslots, netSteps_turnTo, Signal.level, Signal.level, Int.sub_self]

theorem netSteps_run (h : run timeout {} xs = .ok o) :
    (∀ x ∈ xs, ∀ d, x.isBound (.increment d) = true) → netSteps o.slots = o.signal.level := by
  refine run_induction (P := fun xs o => (∀ x ∈ xs, ∀ d, x.isBound (.increment d) = true) →
    netSteps o.slots = o.signal.level) ?_ ?_ h
  · intro _
    rfl
  · intro xs o x q ih hq hb
    have ho := ih fun y hy => hb y (List.mem_append_left _ hy)
    have hx := netSteps_sample (hb x (by simp)) hq
    change netSteps (o.slots ++ q.slots) = q.signal.level
    rw [netSteps_append]
    omega

/-- The level is unknown as long as the ring has reported none. -/
theorem shuttleLevel_eq_none_iff (h : run timeout {} xs = .ok o) :
    o.signal.shuttleLevel = none ↔ ∀ x ∈ xs, x.sample.ring? = none := by
  induction xs using List.reverseRecOn generalizing o with
  | nil =>
    cases h
    simp
  | append_singleton xs x ih =>
    obtain ⟨p, q, hp, hq, rfl⟩ := run_concat_ok_iff.mp h
    change q.signal.shuttleLevel = none ↔ _
    have hall : (∀ y ∈ xs ++ [x], y.sample.ring? = none) ↔
        p.signal.shuttleLevel = none ∧ x.sample.ring? = none := by
      rw [ih hp, List.forall_mem_append]
      simp
    rw [hall]
    rcases sample_cases hq with ⟨hx, _, hs, _⟩ | ⟨level, time, hx, hs, _⟩ |
      ⟨value, time, hx, hd, hs, _⟩ | ⟨value, time, hx, _, hs, _⟩
    · simp [hs, hx]
    · simp [hs, hx, ringAt]
    · -- a return is due only where the level is known
      obtain ⟨level, hl, _⟩ := (coherent_run hp).center.mp hd.1
      simp [hs, hl, ringAt]
    · simp [hs, hx, Sample.ring?]

/-- After any number of samples the steps that have come out sum to the level that the ring is
known to stand at: centred before it has reported any, and centred again where its return has been
inferred. -/
theorem ring_steps_sum_to_level (timeout : Duration) (xs : List Input) (ht : Timely xs)
    (hb : ∀ x ∈ xs, x.isBound (.increment .left) = true ∧ x.isBound (.increment .right) = true)
    (n : Nat) :
    ∃ o, run timeout {} (xs.take n) = .ok o ∧
      (o.slots.count (.increment .right) : Int) - o.slots.count (.increment .left) =
        o.signal.level ∧
      (o.signal.shuttleLevel = none ↔ ∀ x ∈ xs.take n, x.sample.ring? = none) := by
  have htake : Timely (xs.take n ++ xs.drop n) := by rwa [List.take_append_drop]
  obtain ⟨o, ho⟩ := exists_run timeout htake.left
  refine ⟨o, ho, netSteps_run ho ?_, shuttleLevel_eq_none_iff ho⟩
  intro x hx d
  have hx' := hb x (List.mem_of_mem_take hx)
  cases d with
  | left => exact hx'.1
  | right => exact hx'.2

/-- The ring goes right, repeats its level and reports one that it does not have; the second turn of
the dial is late enough to tell that it is back. -/
def returningRun : List Input :=
  [⟨.shuttle 3 (millis 0), fun _ => true⟩,
   ⟨.shuttle 3 (millis 1), fun _ => true⟩,
   ⟨.shuttle 9 (millis 2), fun _ => true⟩,
   ⟨.jog 10 (millis 5), fun _ => true⟩,
   ⟨.jog 12 (millis 6), fun _ => true⟩,
   ⟨.shuttle (-2) (millis 7), fun _ => true⟩]

theorem ring_steps_sum_to_level_across_return :
    Timely returningRun ∧
    (∀ x ∈ returningRun,
      x.isBound (.increment .left) = true ∧ x.isBound (.increment .right) = true) ∧
    ∃ o, run defaultTimeout {} (returningRun.take 5) = .ok o ∧
      .shuttle 0 ∈ o.slots ∧ o.signal.shuttleLevel = some 0 ∧
      (o.slots.count (.increment .right) : Int) - o.slots.count (.increment .left) =
        o.signal.level := by
  have ht : Timely returningRun := by decide
  have hb : ∀ x ∈ returningRun,
      x.isBound (.increment .left) = true ∧ x.isBound (.increment .right) = true := by
    simp [returningRun]
  obtain ⟨o, ho, hsum, _⟩ := ring_steps_sum_to_level defaultTimeout returningRun ht hb 5
  have hreturn : (run defaultTimeout {} (returningRun.take 5)).toOption.any
      (fun o => .shuttle 0 ∈ o.slots ∧ o.signal.shuttleLevel = some 0) = true := by decide
  rw [ho] at hreturn
  obtain ⟨hcentre, hlevel⟩ := of_decide_eq_true hreturn
  exact ⟨ht, hb, o, ho, hcentre, hlevel, hsum⟩

end Signal

end JogShuttle
