import JogShuttle.Signal.Interpreter
import Mathlib.Data.List.Induction

/-!
# Runs of samples

A run takes samples one after another, each under the slots that are bound at that moment. What one
sample can do is said once, in `sample_cases`; what every sample keeps is kept by a run. A run from
the start never fails if later times less earlier ones are durations.
-/

set_option autoImplicit false

namespace JogShuttle

namespace Sample

/-- When a sample was taken; samples of keys do not say. -/
def time? : Sample → Option Duration
  | key _ _ => none
  | shuttle _ time => some time
  | jog _ time => some time

/-- The level that the ring reports and when it does. A level out of range is no report. -/
def ring? : Sample → Option (Int × Duration)
  | shuttle level time =>
    if -(outerLevel : Int) ≤ level ∧ level ≤ outerLevel then some (level, time) else none
  | _ => none

theorem time?_of_ring? {x : Sample} {level : Int} {time : Duration}
    (h : x.ring? = some (level, time)) : x.time? = some time := by
  cases x with
  | key n pressed => cases h
  | shuttle n t =>
    rw [ring?] at h
    split at h
    · cases h
      rfl
    · cases h
  | jog n t => cases h

end Sample

namespace Signal

variable {s : Signal} {timeout time : Duration} {isBound : Slot → Bool} {o : Outcome}

/-- The state behind a report of the ring. -/
def ringAt (s : Signal) (level : Int) (time : Duration) : Signal :=
  { s with shuttleLevel := some level, lastShuttle := some time, needsCenter := decide (level ≠ 0) }

/-- The slots of a report of the ring: none if the level is the one reported before. -/
def ringSlots (s : Signal) (level : Int) (isBound : Slot → Bool) : List Slot :=
  if s.shuttleLevel = some level then [] else levelSlots s.level level isBound

/-- The ring has not come back to its centre yet, and the time is late enough to tell that it has. -/
def Due (s : Signal) (timeout time : Duration) : Prop :=
  s.needsCenter = true ∧
    ∃ last, s.lastShuttle = some last ∧ timeout.micros ≤ time.micros - last.micros

theorem shuttle_of_inRange (s : Signal) (time : Duration) (isBound : Slot → Bool) {level : Int}
    (h : -(outerLevel : Int) ≤ level ∧ level ≤ outerLevel) :
    s.shuttle level time isBound =
      { signal := s.ringAt level time, slots := s.ringSlots level isBound } := by
  rw [shuttle, if_pos h]
  unfold ringAt ringSlots
  by_cases hl : s.shuttleLevel = some level
  · simp [hl]
  · simp [hl]

theorem shuttle_of_not_inRange (s : Signal) (time : Duration) (isBound : Slot → Bool) {level : Int}
    (h : ¬(-(outerLevel : Int) ≤ level ∧ level ≤ outerLevel)) :
    (s.shuttle level time isBound).signal = s ∧ (s.shuttle level time isBound).slots = [] := by
  rw [shuttle, if_neg h]
  exact ⟨rfl, rfl⟩

theorem key_signal (n : Int) (pressed : Bool) : (s.key n pressed).signal = s := by
  unfold key
  split <;> rfl

/-- A key stands for slots of keys only. -/
theorem key_slots {n : Int} {pressed : Bool} {slot : Slot} (h : slot ∈ (s.key n pressed).slots) :
    slot.isKey = true := by
  unfold key at h
  split at h
  · cases pressed <;> rw [List.mem_singleton.mp h] <;> rfl
  · cases h

theorem mem_walk {d : Direction} {slot : Slot} {position : Int} {n : Nat}
    (h : slot ∈ Dial.walk d position n) : slot = .jog d := by
  induction n generalizing position with
  | zero => cases h
  | succ n ih =>
    rw [Dial.walk] at h
    split at h
    · exact ih h
    · rcases List.mem_cons.mp h with h | h
      · exact h
      · exact ih h

/-- A turn of the dial stands for its detents only. -/
theorem mem_turnTo {slot : Slot} {position : Int} (h : slot ∈ s.turnTo position) :
    ∃ d, slot = .jog d := by
  unfold turnTo at h
  split at h
  · cases h
  · exact ⟨_, mem_walk h⟩

theorem centered_ok_iff {due : Bool} : s.centered timeout time = .ok due ↔
    (∀ last, s.needsCenter = true → s.lastShuttle = some last →
      Duration.InRange (time.micros - last.micros)) ∧ (due = true ↔ s.Due timeout time) := by
  obtain ⟨position, level, last?, needs⟩ := s
  cases needs with
  | false => simp [centered, Due, eq_comm]
  | true =>
    cases last? with
    | none => simp [centered, Due, eq_comm]
    | some last =>
      simp only [centered, Due, Duration.sub, bind, Except.bind]
      cases he : Duration.ofMicros (time.micros - last.micros) with
      | error e =>
        have hn : ¬Duration.InRange (time.micros - last.micros) := by
          rw [← Duration.ofMicros_isOk_iff]
          rintro ⟨d, hd⟩
          rw [he] at hd
          cases hd
        simp [hn]
      | ok d =>
        have hd := Duration.ofMicros_eq_ok_iff.mp he
        have hr : Duration.InRange (time.micros - last.micros) := hd ▸ d.inRange
        simp only [hd, pure, Except.pure, Except.ok.injEq, Option.some.injEq, forall_const,
          forall_eq', hr, true_and, exists_eq_left']
        cases due <;> simp

/-- The time that a dial sample is compared with lies a duration apart. -/
def Comparable (s : Signal) (time : Duration) : Prop :=
  ∀ last, s.needsCenter = true → s.lastShuttle = some last →
    Duration.InRange (time.micros - last.micros)

section Dial

variable {value : Int}

theorem jog_of_due (hc : s.Comparable time) (hd : s.Due timeout time) :
    s.jog timeout value time isBound = .ok
      { signal := { s.ringAt 0 time with jogPosition := some (Dial.wrap value) }
        slots := s.ringSlots 0 isBound ++ s.turnTo (Dial.wrap value) } := by
  have hcentered : s.centered timeout time = .ok true :=
    centered_ok_iff.mpr ⟨hc, iff_of_true rfl hd⟩
  have hcentre : -(outerLevel : Int) ≤ 0 ∧ (0 : Int) ≤ outerLevel := by decide
  have hzero := shuttle_of_inRange s time isBound hcentre
  simp only [jog, recenter, hcentered, hzero, bind, Except.bind, pure, Except.pure, if_pos]
  rfl

theorem jog_of_not_due (hc : s.Comparable time) (hd : ¬s.Due timeout time) :
    s.jog timeout value time isBound = .ok
      { signal := { s with jogPosition := some (Dial.wrap value) }
        slots := s.turnTo (Dial.wrap value) } := by
  have hcentered : s.centered timeout time = .ok false :=
    centered_ok_iff.mpr ⟨hc, iff_of_false Bool.false_ne_true hd⟩
  simp only [jog, recenter, hcentered, bind, Except.bind, pure, Except.pure,
    Bool.false_eq_true, if_false, List.nil_append]

theorem comparable_of_jog (h : s.jog timeout value time isBound = .ok o) : s.Comparable time := by
  cases hcentered : s.centered timeout time with
  | ok due => exact (centered_ok_iff.mp hcentered).1
  | error e =>
    simp only [jog, recenter, hcentered, bind, Except.bind] at h
    cases h

end Dial

/-- What a sample can do. -/
theorem sample_cases {x : Sample} (h : s.sample timeout isBound x = .ok o) :
    -- a key, or a level out of range: nothing is learnt, and only slots of keys come out
    (x.ring? = none ∧ (∀ value time, x ≠ .jog value time) ∧ o.signal = s ∧
      ∀ slot ∈ o.slots, slot.isKey = true) ∨
    (∃ level time, x.ring? = some (level, time) ∧ o.signal = s.ringAt level time ∧
      o.slots = s.ringSlots level isBound) ∨
    -- the dial when the return of the ring is due, and when it is not
    (∃ value time, x = .jog value time ∧ s.Due timeout time ∧
      o.signal = { s.ringAt 0 time with jogPosition := some (Dial.wrap value) } ∧
      o.slots = s.ringSlots 0 isBound ++ s.turnTo (Dial.wrap value)) ∨
    ∃ value time, x = .jog value time ∧ ¬s.Due timeout time ∧
      o.signal = { s with jogPosition := some (Dial.wrap value) } ∧
      o.slots = s.turnTo (Dial.wrap value) := by
  cases x with
  | key n pressed =>
    cases h
    refine Or.inl ⟨rfl, ?_, key_signal n pressed, fun slot hs => key_slots hs⟩
    intro value time hx
    cases hx
  | shuttle level time =>
    cases h
    by_cases hl : -(outerLevel : Int) ≤ level ∧ level ≤ outerLevel
    · have hs := shuttle_of_inRange s time isBound hl
      refine Or.inr (Or.inl ⟨level, time, ?_, by rw [hs], by rw [hs]⟩)
      rw [Sample.ring?, if_pos hl]
    · obtain ⟨hsignal, hslots⟩ := shuttle_of_not_inRange s time isBound hl
      refine Or.inl ⟨?_, ?_, hsignal, ?_⟩
      · rw [Sample.ring?, if_neg hl]
      · intro value time hx
        cases hx
      · rw [hslots]
        simp
  | jog value time =>
    change s.jog timeout value time isBound = .ok o at h
    have hc := comparable_of_jog h
    by_cases hd : s.Due timeout time
    · rw [jog_of_due hc hd] at h
      cases h
      exact Or.inr (Or.inr (Or.inl ⟨value, time, rfl, hd, rfl, rfl⟩))
    · rw [jog_of_not_due hc hd] at h
      cases h
      exact Or.inr (Or.inr (Or.inr ⟨value, time, rfl, hd, rfl, rfl⟩))

/-- A sample is taken unless the time of a dial sample cannot be compared. -/
theorem exists_sample {x : Sample} (h : ∀ time, x.time? = some time → s.Comparable time) :
    ∃ o, s.sample timeout isBound x = .ok o := by
  cases x with
  | key n pressed => exact ⟨_, rfl⟩
  | shuttle level time => exact ⟨_, rfl⟩
  | jog value time =>
    have hc := h time rfl
    by_cases hd : s.Due timeout time
    · exact ⟨_, jog_of_due hc hd⟩
    · exact ⟨_, jog_of_not_due hc hd⟩

/-- A sample with the slots that are bound when it is taken. -/
structure Input where
  sample : Sample
  isBound : Slot → Bool

/-- An outcome with what comes of the samples behind it. -/
def Outcome.followedBy (o p : Outcome) : Outcome :=
  { p with slots := o.slots ++ p.slots, logs := o.logs ++ p.logs }

/-- Takes samples one after another. -/
def run (timeout : Duration) (s : Signal) : List Input → Except Duration.OutOfRange Outcome
  | [] => .ok { signal := s }
  | x :: xs => do
    let o ← s.sample timeout x.isBound x.sample
    return o.followedBy (← run timeout o.signal xs)

variable {x : Input} {xs ys : List Input} {p : Outcome}

theorem run_cons_ok_iff : run timeout s (x :: xs) = .ok p ↔
    ∃ o q, s.sample timeout x.isBound x.sample = .ok o ∧ run timeout o.signal xs = .ok q ∧
      p = o.followedBy q := by
  rw [run]
  cases s.sample timeout x.isBound x.sample with
  | error e => simp [bind, Except.bind]
  | ok o =>
    cases h : run timeout o.signal xs with
    | error e => simp [bind, Except.bind, h]
    | ok q => simp [bind, Except.bind, pure, Except.pure, h, eq_comm]

theorem run_append_ok_iff : run timeout s (xs ++ ys) = .ok p ↔
    ∃ o q, run timeout s xs = .ok o ∧ run timeout o.signal ys = .ok q ∧ p = o.followedBy q := by
  induction xs generalizing s p with
  | nil => simp [run, Outcome.followedBy]
  | cons x xs ih =>
    simp only [List.cons_append, run_cons_ok_iff, ih]
    constructor
    · rintro ⟨o, _, ho, ⟨q, r, hq, hr, rfl⟩, rfl⟩
      exact ⟨_, r, ⟨o, q, ho, hq, rfl⟩, hr, by simp [Outcome.followedBy]⟩
    · rintro ⟨_, r, ⟨o, q, ho, hq, rfl⟩, hr, rfl⟩
      exact ⟨o, _, ho, ⟨q, r, hq, hr, rfl⟩, by simp [Outcome.followedBy]⟩

theorem run_concat_ok_iff : run timeout s (xs ++ [x]) = .ok p ↔
    ∃ o q, run timeout s xs = .ok o ∧ o.signal.sample timeout x.isBound x.sample = .ok q ∧
      p = o.followedBy q := by
  simp only [run_append_ok_iff, run_cons_ok_iff]
  constructor
  · rintro ⟨o, _, ho, ⟨q, _, hq, hr, rfl⟩, rfl⟩
    cases hr
    exact ⟨o, q, ho, hq, by simp [Outcome.followedBy]⟩
  · rintro ⟨o, q, ho, hq, rfl⟩
    exact ⟨o, q, ho, ⟨q, { signal := q.signal }, hq, rfl, by simp [Outcome.followedBy]⟩, rfl⟩

/-- A relation between the samples taken and what came of them holds of every run from the start if
it holds before the first sample and each sample keeps it. -/
theorem run_induction {P : List Input → Outcome → Prop} (hstart : P [] { signal := {} })
    (hsample : ∀ {xs o x q}, P xs o →
      o.signal.sample timeout x.isBound x.sample = .ok q → P (xs ++ [x]) (o.followedBy q)) :
    ∀ {xs o}, run timeout {} xs = .ok o → P xs o := by
  intro xs
  induction xs using List.reverseRecOn with
  | nil =>
    intro o h
    cases h
    exact hstart
  | append_singleton xs x ih =>
    intro p h
    obtain ⟨o, q, ho, hq, rfl⟩ := run_concat_ok_iff.mp h
    exact hsample (ih ho) hq

/-- The times that some samples carry. -/
def times (xs : List Input) : List Duration := xs.filterMap (·.sample.time?)

/-- Each time less any earlier one is a duration. -/
def Timely (xs : List Input) : Prop :=
  (times xs).Pairwise fun earlier later => Duration.InRange (later.micros - earlier.micros)

instance (xs : List Input) : Decidable (Timely xs) :=
  inferInstanceAs (Decidable (List.Pairwise _ _))

theorem mem_times_append : time ∈ times (xs ++ ys) ↔ time ∈ times xs ∨ time ∈ times ys := by
  rw [times, List.filterMap_append, List.mem_append]
  rfl

theorem times_singleton : time ∈ times [x] ↔ x.sample.time? = some time := by
  simp [times]

theorem Timely.left (h : Timely (xs ++ ys)) : Timely xs := by
  unfold Timely times at h
  rw [List.filterMap_append] at h
  exact (List.pairwise_append.mp h).1

theorem Timely.inRange (h : Timely (xs ++ ys)) {earlier later : Duration}
    (he : earlier ∈ times xs) (hl : later ∈ times ys) :
    Duration.InRange (later.micros - earlier.micros) := by
  unfold Timely times at h
  rw [List.filterMap_append] at h
  exact (List.pairwise_append.mp h).2.2 earlier he later hl

/-- The time that the ring is known by is that of a sample. -/
theorem lastShuttle_mem_times (h : run timeout {} xs = .ok o) :
    ∀ last, o.signal.lastShuttle = some last → last ∈ times xs := by
  refine run_induction (P := fun xs o => ∀ last, o.signal.lastShuttle = some last →
    last ∈ times xs) ?_ ?_ h
  · intro last hlast
    cases hlast
  · intro xs o x q ih hq last hlast
    change q.signal.lastShuttle = some last at hlast
    rw [mem_times_append, times_singleton]
    rcases sample_cases hq with ⟨_, _, hs, _⟩ | ⟨level, time, hx, hs, _⟩ |
      ⟨value, time, hx, _, hs, _⟩ | ⟨value, time, hx, _, hs, _⟩
    · rw [hs] at hlast
      exact Or.inl (ih last hlast)
    · rw [hs] at hlast
      obtain rfl : time = last := Option.some.inj hlast
      exact Or.inr (Sample.time?_of_ring? hx)
    · rw [hs] at hlast
      obtain rfl : time = last := Option.some.inj hlast
      rw [hx]
      exact Or.inr rfl
    · rw [hs] at hlast
      exact Or.inl (ih last hlast)

/-- After a run whose times are comparable the next sample is taken too. -/
theorem exists_sample_of_run (ht : Timely (xs ++ [x])) (h : run timeout {} xs = .ok o) :
    ∃ q, o.signal.sample timeout x.isBound x.sample = .ok q := by
  refine exists_sample ?_
  intro time hx last _ hlast
  exact ht.inRange (lastShuttle_mem_times h last hlast) (times_singleton.mpr hx)

/-- A run whose times are comparable does not fail. -/
theorem exists_run (timeout : Duration) (ht : Timely xs) : ∃ o, run timeout {} xs = .ok o := by
  induction xs using List.reverseRecOn with
  | nil => exact ⟨_, rfl⟩
  | append_singleton xs x ih =>
    obtain ⟨o, ho⟩ := ih ht.left
    obtain ⟨q, hq⟩ := exists_sample_of_run ht ho
    exact ⟨_, run_concat_ok_iff.mpr ⟨o, q, ho, hq, rfl⟩⟩

theorem inRange_millis (n : UInt8) : Duration.InRange (1000 * n.toNat) := by
  have hn := n.toNat_lt
  simp only [Duration.InRange, Duration.dayLimit, Duration.microsPerDay, Duration.microsPerSecond]
  omega

/-- A time of some milliseconds. -/
def millis (n : UInt8) : Duration := ⟨1000 * n.toNat, inRange_millis n⟩

end Signal

end JogShuttle
