import JogShuttle.Proofs.Signal.Run
import JogShuttle.Signal.Meaning

/-!
# What the rules feed back

The rules decide whether a change of level comes out as ring steps. That is all they decide: the
state behind a sample, the other slots and whether the sample can be taken at all are the same under
any rules, and the steps of a sample are one for each unit of the change, or none.
-/

set_option autoImplicit false

namespace JogShuttle

namespace Slot

def isStep : Slot → Bool
  | increment _ => true
  | _ => false

theorem isStep_eq_false_of_isKey {slot : Slot} (h : slot.isKey = true) : slot.isStep = false := by
  cases slot <;> first | rfl | cases h

end Slot

namespace Signal

variable {s : Signal} {timeout : Duration} {isBound : Slot → Bool} {o : Outcome}
variable {slots more : List Slot}

def steps (slots : List Slot) : List Slot := slots.filter Slot.isStep

/-- Some slots without the ring steps. -/
def others (slots : List Slot) : List Slot := slots.filter (!·.isStep)

/-- An outcome without its ring steps. -/
def Outcome.unstepped (o : Outcome) : Outcome := { o with slots := others o.slots }

theorem steps_append : steps (slots ++ more) = steps slots ++ steps more :=
  List.filter_append ..

theorem others_append : others (slots ++ more) = others slots ++ others more :=
  List.filter_append ..

theorem steps_eq_nil (h : ∀ slot ∈ slots, slot.isStep = false) : steps slots = [] := by
  rw [steps, List.filter_eq_nil_iff]
  intro slot hs
  simp [h slot hs]

theorem steps_turnTo (s : Signal) (position : Int) : steps (s.turnTo position) = [] := by
  refine steps_eq_nil ?_
  intro slot hs
  obtain ⟨d, rfl⟩ := mem_turnTo hs
  rfl

/-- The ring steps that stand for a change of level, where they are bound. -/
def stepsOf (change : Int) (isBound : Slot → Bool) : List Slot :=
  let step := Slot.increment (.ofStep change)
  if isBound step then List.replicate change.natAbs step else []

theorem stepsOf_zero (isBound : Slot → Bool) : stepsOf 0 isBound = [] := by
  simp [stepsOf]

theorem isStep_of_mem_stepsOf {change : Int} {slot : Slot} (h : slot ∈ stepsOf change isBound) :
    slot.isStep = true := by
  unfold stepsOf at h
  simp only at h
  split at h
  · rw [List.eq_of_mem_replicate h]
    rfl
  · cases h

theorem steps_levelSlots (old new : Int) (isBound : Slot → Bool) :
    steps (levelSlots old new isBound) = stepsOf (new - old) isBound := by
  change steps (.shuttle new :: stepsOf (new - old) isBound) = _
  rw [steps, List.filter_cons_of_neg (by simp [Slot.isStep]), List.filter_eq_self]
  exact fun slot hs => isStep_of_mem_stepsOf hs

theorem others_levelSlots (old new : Int) (isBound : Slot → Bool) :
    others (levelSlots old new isBound) = [.shuttle new] := by
  change others (.shuttle new :: stepsOf (new - old) isBound) = _
  rw [others, List.filter_cons_of_pos rfl, List.filter_eq_nil_iff.mpr]
  intro slot hs
  simp [isStep_of_mem_stepsOf hs]

theorem steps_ringSlots (s : Signal) (level : Int) (isBound : Slot → Bool) :
    steps (s.ringSlots level isBound) = stepsOf (level - s.level) isBound := by
  unfold ringSlots
  split
  · rename_i hl
    rw [Signal.level, hl, Option.getD_some, Int.sub_self, stepsOf_zero]
    rfl
  · exact steps_levelSlots _ _ _

/-- The ring steps of a sample stand for the whole change of level, or there are none. -/
theorem steps_sample {x : Sample} (h : s.sample timeout isBound x = .ok o) :
    steps o.slots = stepsOf (o.signal.level - s.level) isBound := by
  rcases sample_cases h with ⟨_, _, hs, hkeys⟩ | ⟨level, time, _, hs, hslots⟩ |
    ⟨value, time, _, _, hs, hslots⟩ | ⟨value, time, _, _, hs, hslots⟩
  · rw [hs, Int.sub_self, stepsOf_zero]
    exact steps_eq_nil fun slot hslot => Slot.isStep_eq_false_of_isKey (hkeys slot hslot)
  · rw [hs, hslots, steps_ringSlots]
    rfl
  · rw [hs, hslots, steps_append, steps_ringSlots, steps_turnTo, List.append_nil]
    rfl
  · have hlevel : o.signal.level = s.level := by
      rw [hs]
      rfl
    rw [hslots, steps_turnTo, hlevel, Int.sub_self, stepsOf_zero]

theorem unstepped_shuttle (s : Signal) (new : Int) (time : Duration)
    (isBound isBound' : Slot → Bool) :
    (s.shuttle new time isBound).unstepped = (s.shuttle new time isBound').unstepped := by
  unfold shuttle
  split
  · simp only
    split
    · rfl
    · simp only [Outcome.unstepped, others_levelSlots]
  · rfl

/-- Without its ring steps, what a sample comes to is the same under any rules. -/
theorem unstepped_sample (s : Signal) (timeout : Duration) (isBound isBound' : Slot → Bool)
    (x : Sample) : (s.sample timeout isBound x).map Outcome.unstepped =
      (s.sample timeout isBound' x).map Outcome.unstepped := by
  cases x with
  | key n pressed => rfl
  | shuttle level time => exact congrArg Except.ok (unstepped_shuttle s level time isBound isBound')
  | jog value time =>
    have hzero := unstepped_shuttle s 0 time isBound isBound'
    simp only [Outcome.unstepped, Outcome.mk.injEq] at hzero
    obtain ⟨hsignal, hslots, hlogs⟩ := hzero
    -- whether the return of the ring is due is not asked of the rules
    simp only [sample, jog, recenter, bind, Except.bind]
    cases s.centered timeout time with
    | error e => rfl
    | ok due =>
      cases due with
      | false => rfl
      | true =>
        simp only [if_true, pure, Except.pure, Except.map, Outcome.unstepped, others_append,
          hsignal, hslots, hlogs]

theorem steps_event {e : Event} (h : s.event timeout isBound e = .ok o) :
    steps o.slots = stepsOf (o.signal.level - s.level) isBound := by
  unfold event at h
  split at h
  · cases h
    rw [Int.sub_self, stepsOf_zero]
    rfl
  · exact steps_sample h
  · cases h
    rw [Int.sub_self, stepsOf_zero]
    rfl

theorem unstepped_event (s : Signal) (timeout : Duration) (isBound isBound' : Slot → Bool)
    (e : Event) : (s.event timeout isBound e).map Outcome.unstepped =
      (s.event timeout isBound' e).map Outcome.unstepped := by
  unfold event
  split
  · rfl
  · exact unstepped_sample _ _ _ _ _
  · rfl

end Signal

end JogShuttle
