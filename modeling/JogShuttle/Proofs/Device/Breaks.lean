import JogShuttle.Proofs.Device.Listening

/-!
# What breaks a listener off

A listener whose first attempt opens the device waits out every loss. What breaks it off for good is
an error that is no loss: reading comes to a time that no duration holds, or to an overflow while it
skips. Here overflows are taken into account; what one reading leaves behind a pause is read by the
next, so the error of an attempt is the first one of reading its queue to the end.
-/

set_option autoImplicit false

namespace JogShuttle

/-- The error that an attempt ends with, if it ends, wherever its readings overflow. -/
def Session.firstError? (path : String) (s : Session) : Option DeviceError :=
  (s.opening.error? path).or (Queued.errors path [] s.queue).head?

namespace Listener

variable {path : String} {time : Instant} {delay : Duration} {q : List Queued} {s : Session}
variable {ss : List Session} {started : Bool} {e : DeviceError}

/-- The error that reading on comes to, once a reading has stopped. -/
def errorAfter (path : String) (time : Instant) (d : Drain) : Option DeviceError :=
  if d.halt = .paused then (pump path time.afterPoll d.rest).result.2 else d.halt.error? path

theorem error_pump (path : String) (time : Instant) (q : List Queued) :
    (pump path time q).result.2 = errorAfter path time (Queued.drain q) := by
  rw [pump_drain, errorAfter]
  split <;> rfl

/-- Reading stops at an item for a pause or by an error. -/
theorem halt_cases (path : String) {before : List Queued} {x : Queued} {halt : Halt}
    (h : Queued.haltAt? before x = some halt) :
    halt = .paused ∨ halt ≠ .paused ∧ ∃ e, halt.error? path = some e := by
  cases x with
  | event e => cases h
  | mistimed last e =>
    obtain ⟨-, rfl⟩ : ¬Queued.Skipped before ∧ Halt.mistimed e = halt := by
      simpa [Queued.haltAt?] using h
    exact .inr ⟨by simp, _, rfl⟩
  | pause =>
    cases h
    exact .inl rfl
  | overflow =>
    obtain ⟨-, rfl⟩ : Queued.Skipped before ∧ Halt.overflowed = halt := by
      simpa [Queued.haltAt?] using h
    exact .inr ⟨by simp, _, rfl⟩
  | failure e =>
    cases h
    exact .inr ⟨by simp, _, rfl⟩

/-- By induction on the queue: either the same reading goes on behind an item, or the next reading
starts there. -/
theorem errorAfter_drainFrom (before : List Queued) (time : Instant) :
    errorAfter path time (Queued.drainFrom (decide (Queued.Skipped before)) q) =
      (Queued.errors path before q).head? := by
  induction q generalizing before time with
  | nil => rfl
  | cons x q ih =>
    cases h : Queued.haltAt? before x with
    | none =>
      rw [Queued.drainFrom_of_haltAt?_none h, Queued.errors, h]
      exact ih (before ++ [x]) time
    | some halt =>
      rw [Queued.drainFrom_of_haltAt? h, Queued.errors, h]
      rcases halt_cases path h with rfl | ⟨hp, e, he⟩
      · -- a reading that starts does not skip
        have hnext := ih (before ++ [x]) time.afterPoll
        rw [decide_eq_false (Queued.not_skipped_of_haltAt? h)] at hnext
        exact (error_pump path time.afterPoll q).trans hnext
      · simp [errorAfter, hp, he]

theorem error_pump_eq_head? (path : String) (time : Instant) (q : List Queued) :
    (pump path time q).result.2 = (Queued.errors path [] q).head? :=
  (error_pump path time q).trans (errorAfter_drainFrom [] time)

/-- An attempt ends with an error that is no loss, and all attempts before it are lost. -/
inductive Breaks (path : String) : List Session → DeviceError → Prop where
  | now {s : Session} {ss : List Session} {e : DeviceError} (h : s.firstError? path = some e)
      (hl : e.isLoss = false) : Breaks path (s :: ss) e
  | later {s : Session} {ss : List Session} {l e : DeviceError} (h : s.firstError? path = some l)
      (hl : l.isLoss = true) (hb : Breaks path ss e) : Breaks path (s :: ss) e

/-- A listener that has been able to start is broken off. -/
structure BreaksOff (path : String) (ss : List Session) (e : DeviceError) : Prop where
  ready : ∀ s ∈ ss.head?, s.opening = .ready
  breaks : Breaks path ss e

theorem Breaks.not_isLoss (h : Breaks path ss e) : e.isLoss = false := by
  induction h with
  | now h hl => exact hl
  | later h hl hb ih => exact ih

theorem breaks_cons_of_none (h : s.firstError? path = none) : ¬Breaks path (s :: ss) e := by
  rintro (⟨h', -⟩ | ⟨h', -, -⟩)
  · rw [h] at h'
    cases h'
  · rw [h] at h'
    cases h'

theorem breaks_cons_of_isLoss {l : DeviceError} (h : s.firstError? path = some l)
    (hl : l.isLoss = true) (hb : Breaks path (s :: ss) e) : Breaks path ss e := by
  rcases hb with ⟨h', hl'⟩ | ⟨h', -, hb⟩
  · rw [h] at h'
    cases h'
    rw [hl] at hl'
    cases hl'
  · exact hb

theorem result_run_of_not_ready (h : ¬∀ s ∈ ss.head?, s.opening = .ready) :
    ∃ e, e.isLoss = true ∧ (run path delay ss).result = .failed e := by
  obtain ⟨s, hs, hopening⟩ : ∃ s ∈ ss.head?, s.opening ≠ .ready := by simpa using h
  obtain ⟨rest, rfl⟩ := List.head?_eq_some_iff.mp hs
  cases ho : s.opening.error? path with
  | none => exact absurd (Opening.error?_eq_none_iff.mp ho) hopening
  | some e =>
    refine ⟨e, Opening.isLoss_of_error? ho, ?_⟩
    rw [run_of_first_failed ho]

section Run

variable (hd : 0 ≤ delay.micros)
include hd

/-- Once a listener has started, every attempt that is lost is followed by the next. -/
theorem result_runFrom_cons (path : String) (time : Instant) (ss : List Session)
    (hs : started = true ∨ s.opening = .ready) :
    ∃ now, (runFrom path delay started time (s :: ss)).result =
      match s.firstError? path with
      | none => .stopped
      | some e => if e.isLoss then (runFrom path delay true now ss).result else .failed e := by
  have hwait : ¬delay.micros < 0 := Int.not_lt.mpr hd
  cases ho : s.opening.error? path with
  | some e =>
    have hstarted : started = true := hs.resolve_right fun h => by
      rw [Opening.error?_eq_none_iff.mpr h] at ho
      cases ho
    refine ⟨time.after delay.micros, ?_⟩
    simp [runFrom, Session.firstError?, ho, hstarted, hwait, Opening.isLoss_of_error? ho,
      Course.before]
  | none =>
    refine ⟨(pump path time s.queue).result.1.after delay.micros, ?_⟩
    simp only [runFrom, Session.firstError?, ho, Option.none_or, ← error_pump_eq_head? path time]
    rcases (pump path time s.queue).result with ⟨now, _ | e⟩
    · rfl
    · cases hl : e.isLoss <;> simp [hl, hwait, Course.before]

/-- A listener that has started, or starts with its first attempt, is broken off or goes on until it
is stopped. -/
theorem result_runFrom (path : String) (time : Instant)
    (hs : started = true ∨ ∀ s ∈ ss.head?, s.opening = .ready) :
    ((runFrom path delay started time ss).result = .stopped ∧ ¬∃ e, Breaks path ss e) ∨
      ∃ e, Breaks path ss e ∧ (runFrom path delay started time ss).result = .failed e := by
  induction ss generalizing started time with
  | nil => exact .inl ⟨rfl, nofun⟩
  | cons s ss ih =>
    have hstart : started = true ∨ s.opening = .ready := hs.imp_right fun h => h s rfl
    obtain ⟨now, hrun⟩ := result_runFrom_cons hd path time ss hstart
    rw [hrun]
    cases h : s.firstError? path with
    | none =>
      left
      refine ⟨rfl, ?_⟩
      rintro ⟨e, hb⟩
      exact breaks_cons_of_none h hb
    | some e =>
      cases hl : e.isLoss with
      | false =>
        right
        exact ⟨e, .now h hl, by simp [hl]⟩
      | true =>
        simp only [hl, if_true]
        rcases ih now (.inl rfl) with ⟨hstopped, hnone⟩ | ⟨f, hb, hfailed⟩
        · left
          refine ⟨hstopped, ?_⟩
          rintro ⟨f, hb⟩
          exact hnone ⟨f, breaks_cons_of_isLoss h hl hb⟩
        · right
          exact ⟨f, .later h hl hb, hfailed⟩

/-- A listener breaks off if there is an error that it breaks off with. If not, it goes on until it
is stopped, or ends with the loss for which it could not start. -/
theorem result_run (path : String) (ss : List Session) :
    ((¬∃ e, BreaksOff path ss e) ∧ ((run path delay ss).result = .stopped ∨
        ∃ e, e.isLoss = true ∧ (run path delay ss).result = .failed e)) ∨
      ∃ e, BreaksOff path ss e ∧ (run path delay ss).result = .failed e := by
  by_cases hready : ∀ s ∈ ss.head?, s.opening = .ready
  · rcases result_runFrom hd path .start (.inr hready) with ⟨hstopped, hnone⟩ | ⟨e, hb, hfailed⟩
    · left
      refine ⟨?_, .inl hstopped⟩
      rintro ⟨e, h⟩
      exact hnone ⟨e, h.breaks⟩
    · right
      exact ⟨e, ⟨hready, hb⟩, hfailed⟩
  · left
    refine ⟨?_, .inr (result_run_of_not_ready hready)⟩
    rintro ⟨e, h⟩
    exact hready h.ready

end Run

end Listener

end JogShuttle
