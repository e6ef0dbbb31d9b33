import JogShuttle.Proofs.Signal.Feedback
import JogShuttle.Signal.Meaning

/-!
# Times that cannot be compared

A sample of the dial is compared with the last report of the ring while the return of the ring is
still to come. If the one time less the other is no duration, the sample fails, and nothing else can
go wrong with an event. So events fail at the first sample of the dial whose time clashes with what
the samples before it have left, and what is bound makes no difference.
-/

set_option autoImplicit false

namespace JogShuttle

/-- The sample that an event of keys, dial or ring carries, if it carries one. -/
def Event.sample? (e : Event) : Option Sample :=
  if e.isInput then
    match e.meaning with
    | .sample x => some x
    | _ => none
  else none

namespace Signal

variable {s : Signal} {timeout time : Duration} {isBound : Slot → Bool} {x : Sample}
variable {e : Event} {es : List Event} {err : Duration.OutOfRange} {o : Outcome}

/-- Samples that are taken while nothing is bound. -/
def unbound (xs : List Sample) : List Input := xs.map fun x => ⟨x, fun _ => false⟩

/-- The time of a dial sample less that of the ring's last report is needed and is no duration. -/
def Clash (s : Signal) (time : Duration) (err : Duration.OutOfRange) : Prop :=
  s.needsCenter = true ∧ ∃ last, s.lastShuttle = some last ∧ time.sub last = .error err

/-- The time of some event clashes with what the events before it have left. -/
def Clashes (timeout : Duration) (s : Signal) (es : List Event) (err : Duration.OutOfRange) :
    Prop :=
  ∃ earlier value time later o,
    es.filterMap Event.sample? = earlier ++ .jog value time :: later ∧
      run timeout s (unbound earlier) = .ok o ∧ o.signal.Clash time err

section Samples

theorem sample_eq_error_iff : s.sample timeout isBound x = .error err ↔
    ∃ value time, x = .jog value time ∧ s.Clash time err := by
  cases x with
  | key n pressed => simp [sample]
  | shuttle level time => simp [sample]
  | jog value time =>
    obtain ⟨position, level, last?, needs⟩ := s
    cases needs with
    | false => simp [sample, jog, recenter, centered, Clash, bind, Except.bind, pure, Except.pure]
    | true =>
      cases last? with
      | none => simp [sample, jog, recenter, centered, Clash, bind, Except.bind, pure, Except.pure]
      | some last =>
        cases hsub : time.sub last with
        | error e => simp [sample, jog, recenter, centered, Clash, hsub, bind, Except.bind]
        | ok elapsed =>
          by_cases hdue : timeout.micros ≤ elapsed.micros <;>
            simp [sample, jog, recenter, centered, Clash, hsub, hdue, bind, Except.bind, pure,
              Except.pure]

theorem run_cons_error_iff {y : Input} {xs : List Input} :
    run timeout s (y :: xs) = .error err ↔ s.sample timeout y.isBound y.sample = .error err ∨
      ∃ o, s.sample timeout y.isBound y.sample = .ok o ∧ run timeout o.signal xs = .error err := by
  rw [run]
  cases s.sample timeout y.isBound y.sample with
  | error e => simp [bind, Except.bind]
  | ok o =>
    cases h : run timeout o.signal xs with
    | error e => simp [bind, Except.bind, h]
    | ok q => simp [bind, Except.bind, pure, Except.pure, h]

/-- A run fails at the first clash. -/
theorem run_unbound_eq_error_iff {xs : List Sample} :
    run timeout s (unbound xs) = .error err ↔
      ∃ earlier value time later o, xs = earlier ++ .jog value time :: later ∧
        run timeout s (unbound earlier) = .ok o ∧ o.signal.Clash time err := by
  induction xs generalizing s with
  | nil => simp [unbound, run]
  | cons x xs ih =>
    rw [unbound, List.map_cons, run_cons_error_iff, sample_eq_error_iff]
    constructor
    · rintro (⟨value, time, rfl, hclash⟩ | ⟨o, ho, hrun⟩)
      · exact ⟨[], value, time, xs, _, rfl, rfl, hclash⟩
      · obtain ⟨earlier, value, time, later, p, rfl, hp, hclash⟩ := ih.mp hrun
        refine ⟨x :: earlier, value, time, later, o.followedBy p, rfl, ?_, hclash⟩
        exact run_cons_ok_iff.mpr ⟨o, p, ho, hp, rfl⟩
    · rintro ⟨earlier, value, time, later, p, hxs, hp, hclash⟩
      cases earlier with
      | nil =>
        obtain ⟨rfl, rfl⟩ := List.cons.inj hxs
        cases hp
        exact .inl ⟨value, time, rfl, hclash⟩
      | cons y earlier =>
        obtain ⟨rfl, rfl⟩ := List.cons.inj hxs
        obtain ⟨o, q, ho, hq, rfl⟩ := run_cons_ok_iff.mp hp
        exact .inr ⟨o, ho, ih.mpr ⟨earlier, value, time, later, q, rfl, hq, hclash⟩⟩

end Samples

section Events

theorem event_of_sample? (h : e.sample? = some x) :
    s.event timeout isBound e = s.sample timeout isBound x := by
  unfold Event.sample? at h
  split at h
  · split at h
    · rename_i hm
      cases h
      rw [event, hm]
    · cases h
  · cases h

/-- An event that carries no sample teaches nothing. -/
theorem event_of_sample?_none (hinput : e.isInput = true) (h : e.sample? = none) :
    ∃ o, s.event timeout isBound e = .ok o ∧ o.signal = s := by
  rw [Event.sample?, if_pos hinput] at h
  unfold event
  cases hm : e.meaning with
  | nothing => exact ⟨_, rfl, rfl⟩
  | sample x =>
    rw [hm] at h
    cases h
  | unknown => exact ⟨_, rfl, rfl⟩

/-- What is learnt from an event does not depend on what is bound. -/
theorem signal_event (s : Signal) (timeout : Duration) (isBound isBound' : Slot → Bool)
    (e : Event) : (s.event timeout isBound e).map Outcome.signal =
      (s.event timeout isBound' e).map Outcome.signal := by
  have hmap : ∀ r : Except Duration.OutOfRange Outcome,
      (r.map Outcome.unstepped).map Outcome.signal = r.map Outcome.signal := by
    rintro (e | o) <;> rfl
  rw [← hmap, unstepped_event s timeout isBound isBound', hmap]

theorem exists_unbound_of_ok (h : s.event timeout isBound e = .ok o) :
    ∃ p, s.event timeout (fun _ => false) e = .ok p ∧ p.signal = o.signal := by
  have hsame := signal_event s timeout (fun _ => false) isBound e
  rw [h] at hsame
  cases hp : s.event timeout (fun _ => false) e with
  | error e =>
    rw [hp] at hsame
    cases hsame
  | ok p =>
    rw [hp] at hsame
    exact ⟨p, rfl, Except.ok.inj hsame⟩

theorem clashes_iff : Clashes timeout s es err ↔
    run timeout s (unbound (es.filterMap Event.sample?)) = .error err :=
  run_unbound_eq_error_iff.symm

theorem not_clashes_nil : ¬Clashes timeout s [] err := by
  rw [clashes_iff]
  exact nofun

theorem clashes_cons_of_not_isInput (h : e.isInput = false) :
    Clashes timeout s (e :: es) err ↔ Clashes timeout s es err := by
  have hsample : e.sample? = none := by simp [Event.sample?, h]
  rw [clashes_iff, clashes_iff, List.filterMap_cons_none hsample]

theorem clashes_cons_of_error (hinput : e.isInput = true)
    (h : s.event timeout isBound e = .error err) : Clashes timeout s (e :: es) err := by
  cases hx : e.sample? with
  | none =>
    obtain ⟨o, ho, -⟩ := event_of_sample?_none hinput hx
    rw [ho] at h
    cases h
  | some x =>
    rw [event_of_sample? hx, sample_eq_error_iff] at h
    obtain ⟨value, time, rfl, hclash⟩ := h
    exact ⟨[], value, time, _, _, List.filterMap_cons_some hx, rfl, hclash⟩

theorem clashes_cons_of_ok (hinput : e.isInput = true)
    (h : s.event timeout isBound e = .ok o) :
    Clashes timeout s (e :: es) err ↔ Clashes timeout o.signal es err := by
  obtain ⟨p, hp, hsignal⟩ := exists_unbound_of_ok h
  rw [clashes_iff, clashes_iff, ← hsignal]
  cases hx : e.sample? with
  | none =>
    obtain ⟨q, hq, hsame⟩ := event_of_sample?_none hinput hx
    rw [hp] at hq
    cases hq
    rw [List.filterMap_cons_none hx, hsame]
  | some x =>
    rw [event_of_sample? hx] at hp
    rw [List.filterMap_cons_some hx, unbound, List.map_cons, run_cons_error_iff]
    simp [hp, unbound]

end Events

end Signal

end JogShuttle
