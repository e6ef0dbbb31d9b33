import JogShuttle.Device.Listener
import JogShuttle.Proofs.Device.Rereading

/-!
# Listening through losses

A listener that has been able to open its device once outlasts every loss: what the attempts yield
before they are lost is handed on in order, each event once, and while the listener waits for a new
attempt the device is closed. Only the first attempt may fail for good. This is so as long as no
reading overflows, so every reading can be followed item by item.
-/

set_option autoImplicit false

namespace JogShuttle

namespace Queued

/-- The error that a reading meets at an item, if no packet has lost events. -/
def breakAt? (path : String) : Queued → Option DeviceError
  | mistimed _ e => some (.time e)
  | failure e => some (.ofSystem path e)
  | _ => none

/-- Whether reading ends for good at an item. -/
def isBreak : Queued → Bool
  | mistimed _ _ => true
  | failure _ => true
  | _ => false

/-- The events in front of the first item at which reading ends for good. -/
def yielded (q : List Queued) : List Event := (q.takeWhile (!·.isBreak)).filterMap event?

end Queued

namespace Session

/-- The events that an attempt yields before it fails. -/
def yielded (s : Session) : List Event :=
  if s.opening = .ready then Queued.yielded s.queue else []

/-- The error that an attempt ends with, if it ends. -/
def error? (path : String) (s : Session) : Option DeviceError :=
  (s.opening.error? path).or (s.queue.findSome? (Queued.breakAt? path))

end Session

theorem Opening.error?_eq_none_iff {path : String} {o : Opening} :
    o.error? path = none ↔ o = .ready := by
  cases o <;> simp [Opening.error?]

theorem DeviceError.isLoss_ofSystem (path : String) (e : SystemError) :
    (ofSystem path e).isLoss = true := by
  unfold ofSystem
  split <;> rfl

/-- Whatever keeps a device from being opened is a loss. -/
theorem Opening.isLoss_of_error? {path : String} {o : Opening} {e : DeviceError}
    (h : o.error? path = some e) : e.isLoss = true := by
  cases o with
  | ready => cases h
  | unreachable e => cases h; rfl
  | taken => cases h; rfl
  | failed e => cases h; exact DeviceError.isLoss_ofSystem path e

namespace Listener

variable {path : String} {time : Instant} {delay : Duration} {q : List Queued}

/-- Whether the device is open behind a happening, given whether it was open before. -/
def turn (isOpen : Bool) : Happening → Bool
  | .opened => true
  | .closed => false
  | _ => isOpen

/-- Whether the device is open after some happenings. -/
def openAfter (isOpen : Bool) (hs : List Happening) : Bool := hs.foldl turn isOpen

/-- Whenever there is a wait for a new attempt the device is closed. -/
def WaitsClosed (isOpen : Bool) (hs : List Happening) : Prop :=
  ∀ before d after, hs = before ++ .waiting d :: after → openAfter isOpen before = false

theorem waitsClosed_nil (isOpen : Bool) : WaitsClosed isOpen [] := by
  intro before d after h
  simp at h

theorem waitsClosed_cons {isOpen : Bool} {h : Happening} {hs : List Happening} :
    WaitsClosed isOpen (h :: hs) ↔
      (∀ d, h = .waiting d → isOpen = false) ∧ WaitsClosed (turn isOpen h) hs := by
  constructor
  · intro hall
    refine ⟨fun d hd => hall [] d hs (by rw [hd]; rfl), fun before d after heq => ?_⟩
    exact hall (h :: before) d after (by rw [heq]; rfl)
  · rintro ⟨hfirst, hrest⟩ before d after heq
    cases before with
    | nil => exact hfirst d (List.cons.inj heq).1
    | cons k before =>
      obtain ⟨rfl, htail⟩ := List.cons.inj heq
      exact hrest before d after htail

theorem waitsClosed_events {isOpen : Bool} {es : List Event} {hs : List Happening} :
    WaitsClosed isOpen (es.map .event ++ hs) ↔ WaitsClosed isOpen hs := by
  induction es with
  | nil => rfl
  | cons e es ih =>
    rw [List.map_cons, List.cons_append, waitsClosed_cons]
    refine ⟨fun h => ih.mp h.2, fun h => ⟨fun d hd => ?_, ih.mpr h⟩⟩
    cases hd

section Pump

theorem pump_drain (q : List Queued) :
    pump path time q =
      if (Queued.drain q).halt = .paused then
        (pump path time.afterPoll (Queued.drain q).rest).before
          ((Queued.drain q).events.map .event)
      else ⟨(Queued.drain q).events.map .event, time, (Queued.drain q).halt.error? path⟩ := by
  rw [pump]
  split <;> simp [*]

theorem pump_event (e : Event) :
    pump path time (.event e :: q) = (pump path time q).before [.event e] := by
  have hdrain : Queued.drain (.event e :: q) = (Queued.drain q).cons e := rfl
  rw [pump_drain, pump_drain q, hdrain]
  by_cases hp : (Queued.drain q).halt = .paused
  · rw [if_pos hp, if_pos (show ((Queued.drain q).cons e).halt = .paused from hp)]
    rfl
  · rw [if_neg hp, if_neg (show ¬((Queued.drain q).cons e).halt = .paused from hp)]
    rfl

theorem pump_pause : pump path time (.pause :: q) = pump path time.afterPoll q := by
  rw [pump_drain]
  rfl

/-- Reading that stops at once, and not for a while only, has come to its end. -/
theorem pump_of_halt (halt : Halt) {rest : List Queued} (h : Queued.drain q = ⟨[], halt, rest⟩)
    (hp : halt ≠ .paused) : pump path time q = ⟨[], time, halt.error? path⟩ := by
  rw [pump_drain, h]
  simp [hp]

/-- Pauses only take time, and reading ends at the first break. -/
theorem pump_eq (path : String) (time : Instant) (hq : .overflow ∉ q) :
    (pump path time q).happenings = (Queued.yielded q).map .event ∧
      (pump path time q).result.2 = q.findSome? (Queued.breakAt? path) := by
  induction q generalizing time with
  | nil =>
    rw [pump_of_halt .exhausted rfl (by decide)]
    exact ⟨rfl, rfl⟩
  | cons x q ih =>
    obtain ⟨hx, hrest⟩ := not_or.mp (mt List.mem_cons.mpr hq)
    cases x with
    | event e =>
      obtain ⟨hhappenings, herror⟩ := ih time hrest
      rw [pump_event]
      exact ⟨congrArg (Happening.event e :: ·) hhappenings, herror⟩
    | mistimed last e =>
      rw [pump_of_halt (.mistimed e) rfl nofun]
      exact ⟨rfl, rfl⟩
    | pause =>
      rw [pump_pause]
      exact ih _ hrest
    | overflow => exact absurd rfl hx
    | failure e =>
      rw [pump_of_halt (.failed e) rfl nofun]
      exact ⟨rfl, rfl⟩

end Pump

/-- The attempts that a listener makes: behind one that is not lost there is none, and a listener
that cannot wait makes no second one. -/
def attended (path : String) (delay : Duration) : List Session → List Session
  | [] => []
  | s :: ss =>
    s :: if (s.error? path).any (·.isLoss) && decide (0 ≤ delay.micros) then attended path delay ss
      else []

section Run

variable {s : Session} {ss : List Session} {started : Bool}

theorem events_append (hs ks : List Happening) : events (hs ++ ks) = events hs ++ events ks :=
  List.filterMap_append

theorem events_map_event (es : List Event) : events (es.map .event) = es := by
  rw [events, List.filterMap_map]
  exact List.filterMap_some

/-- What happens in an attempt. -/
def work (path : String) (started : Bool) (time : Instant) (s : Session) : List Happening :=
  match s.opening.error? path with
  | some _ => [.opening time]
  | none =>
    [.opening time, .opened] ++ (if started then [] else [.started]) ++
      (Queued.yielded s.queue).map .event ++ [.closed]

/-- What follows an attempt that ends with an error or does not end. -/
def follow (delay : Duration) (error? : Option DeviceError) (next : Course Finish) :
    Course Finish :=
  match error? with
  | none => ⟨[], .stopped⟩
  | some e =>
    if !e.isLoss then ⟨[], .failed e⟩
    else if delay.micros < 0 then ⟨[.lost e], .badDelay⟩
    else next.before [.lost e, .waiting delay]

/-- Once a listener has started, every attempt is followed by what its error asks for. -/
theorem runFrom_cons (path : String) (delay : Duration) (time : Instant) (ss : List Session)
    (hs : started = true ∨ s.opening = .ready) (hq : .overflow ∉ s.queue) :
    ∃ now, runFrom path delay started time (s :: ss) =
      (follow delay (s.error? path) (runFrom path delay true now ss)).before
        (work path started time s) := by
  cases ho : s.opening.error? path with
  | some e =>
    have hopening : s.opening ≠ .ready := fun h => by
      rw [Opening.error?_eq_none_iff.mpr h] at ho
      cases ho
    have hstarted : started = true := hs.resolve_right hopening
    refine ⟨time.after delay.micros, ?_⟩
    simp only [runFrom, work, follow, Session.error?, ho, Option.some_or,
      Opening.isLoss_of_error? ho, hstarted]
    by_cases hd : delay.micros < 0
    · simp [hd, Course.before]
    · simp [hd, Course.before]
  | none =>
    obtain ⟨hpump, herror⟩ := pump_eq path time hq
    refine ⟨(pump path time s.queue).result.1.after delay.micros, ?_⟩
    simp only [runFrom, work, follow, Session.error?, ho, Option.none_or, ← hpump, ← herror]
    rcases (pump path time s.queue).result with ⟨now, _ | e⟩
    · simp [Course.before]
    · cases hl : e.isLoss with
      | false => simp [Course.before, hl]
      | true =>
        by_cases hd : delay.micros < 0
        · simp [Course.before, hl, hd]
        · simp [Course.before, hl, hd]

/-- What holds before the first attempt, and of an attempt if it holds of those behind it, holds of
every listener that has started or starts with its first attempt. -/
theorem runFrom_induction {P : List Session → Course Finish → Prop} (hnil : P [] ⟨[], .stopped⟩)
    (hcons : ∀ {started time s ss c}, (started = true ∨ s.opening = .ready) → P ss c →
      P (s :: ss) ((follow delay (s.error? path) c).before (work path started time s)))
    (hs : started = true ∨ ∀ s, ss.head? = some s → s.opening = .ready)
    (hq : ∀ s ∈ ss, .overflow ∉ s.queue) : P ss (runFrom path delay started time ss) := by
  induction ss generalizing started time with
  | nil => exact hnil
  | cons s ss ih =>
    obtain ⟨hq, hrest⟩ := List.forall_mem_cons.mp hq
    have hstart : started = true ∨ s.opening = .ready := hs.imp_right fun h => h s rfl
    obtain ⟨now, hrun⟩ := runFrom_cons path delay time ss hstart hq
    rw [hrun]
    exact hcons hstart (ih (.inl rfl) hrest)

theorem events_work (hs : started = true ∨ s.opening = .ready) :
    events (work path started time s) = s.yielded := by
  unfold work Session.yielded
  cases ho : s.opening.error? path with
  | some e =>
    have hopening : s.opening ≠ .ready := fun h => by
      rw [Opening.error?_eq_none_iff.mpr h] at ho
      cases ho
    rw [if_neg hopening]
    rfl
  | none =>
    rw [if_pos (Opening.error?_eq_none_iff.mp ho), events_append, events_append, events_map_event]
    cases started
    · exact List.append_nil _
    · exact List.append_nil _

theorem events_follow {error? : Option DeviceError} {next : Course Finish} :
    events (follow delay error? next).happenings =
      if error?.any (·.isLoss) && decide (0 ≤ delay.micros) then events next.happenings else [] := by
  unfold follow
  cases error? with
  | none => rfl
  | some e =>
    cases hl : e.isLoss with
    | false => simp [hl, events]
    | true =>
      by_cases hd : delay.micros < 0
      · simp [hl, hd, Int.not_le.mpr hd, events]
      · simp [hl, hd, Int.not_lt.mp hd, Course.before, events]

/-- What the attempts yield is handed on. -/
theorem events_runFrom (hs : started = true ∨ ∀ s, ss.head? = some s → s.opening = .ready)
    (hq : ∀ s ∈ ss, .overflow ∉ s.queue) :
    events (runFrom path delay started time ss).happenings =
      (attended path delay ss).flatMap Session.yielded := by
  refine runFrom_induction
    (P := fun ss c => events c.happenings = (attended path delay ss).flatMap Session.yielded)
    rfl ?_ hs hq
  intro started time s ss c hstart ih
  rw [Course.before, events_append, events_work hstart, events_follow, ih, attended,
    List.flatMap_cons]
  congr 1
  split <;> rfl

/-- An attempt leaves the device closed. -/
theorem waitsClosed_work_append {hs : List Happening} :
    WaitsClosed false (work path started time s ++ hs) ↔ WaitsClosed false hs := by
  unfold work
  cases s.opening.error? path with
  | some e => simp [waitsClosed_cons, turn]
  | none => cases started <;> simp [waitsClosed_cons, waitsClosed_events, turn]

theorem waitsClosed_follow {error? : Option DeviceError} {next : Course Finish}
    (h : WaitsClosed false next.happenings) :
    WaitsClosed false (follow delay error? next).happenings := by
  unfold follow
  split
  · exact waitsClosed_nil false
  · split
    · exact waitsClosed_nil false
    · split
      · simp [waitsClosed_cons, waitsClosed_nil, turn]
      · simpa [Course.before, waitsClosed_cons, turn] using h

theorem waitsClosed_runFrom (hs : started = true ∨ ∀ s, ss.head? = some s → s.opening = .ready)
    (hq : ∀ s ∈ ss, .overflow ∉ s.queue) :
    WaitsClosed false (runFrom path delay started time ss).happenings :=
  runFrom_induction (P := fun _ c => WaitsClosed false c.happenings) (waitsClosed_nil false)
    (fun _ ih => waitsClosed_work_append.mpr (waitsClosed_follow ih)) hs hq

/-- An attempt that ends without a loss ends at an event without a proper time. -/
theorem exists_time_of_error? {e : DeviceError} (h : s.error? path = some e)
    (hl : e.isLoss = false) : ∃ t, e = .time t := by
  rcases Option.or_eq_some_iff.mp h with ho | ⟨-, hb⟩
  · rw [Opening.isLoss_of_error? ho] at hl
    cases hl
  · obtain ⟨x, -, hx⟩ := List.exists_of_findSome?_eq_some hb
    cases x with
    | mistimed last t =>
      cases hx
      exact ⟨t, rfl⟩
    | failure f =>
      cases hx
      rw [DeviceError.isLoss_ofSystem] at hl
      cases hl
    | _ => cases hx

/-- A listener ends for no loss: it is stopped, it cannot wait, or an event has no proper time. -/
def Outlasts (path : String) (delay : Duration) (sessions : List Session) (result : Finish) :
    Prop :=
  result = .stopped ∨ result = .badDelay ∧ delay.micros < 0 ∨
    ∃ s ∈ sessions, ∃ t, s.error? path = some (.time t) ∧ result = .failed (.time t)

theorem outlasts_follow {next : Course Finish} (h : Outlasts path delay ss next.result) :
    Outlasts path delay (s :: ss) (follow delay (s.error? path) next).result := by
  cases he : s.error? path with
  | none => exact .inl rfl
  | some e =>
    cases hl : e.isLoss with
    | false =>
      obtain ⟨t, rfl⟩ := exists_time_of_error? he hl
      exact .inr (.inr ⟨s, List.mem_cons_self, t, he, rfl⟩)
    | true =>
      by_cases hd : delay.micros < 0
      · exact .inr (.inl ⟨by simp [follow, hl, hd], hd⟩)
      · have hnext : (follow delay (some e) next).result = next.result := by
          simp [follow, hl, hd, Course.before]
        rw [hnext]
        refine h.imp_right fun h => h.imp_right ?_
        rintro ⟨r, hr, ht⟩
        exact ⟨r, List.mem_cons_of_mem s hr, ht⟩

theorem outlasts_runFrom (hs : started = true ∨ ∀ s, ss.head? = some s → s.opening = .ready)
    (hq : ∀ s ∈ ss, .overflow ∉ s.queue) :
    Outlasts path delay ss (runFrom path delay started time ss).result :=
  runFrom_induction (P := fun ss c => Outlasts path delay ss c.result) (.inl rfl)
    (fun _ ih => outlasts_follow ih) hs hq

theorem run_of_first_failed {e : DeviceError} (h : s.opening.error? path = some e) :
    run path delay (s :: ss) = ⟨[.opening .start], .failed e⟩ := by
  simp [run, runFrom, h]

end Run

/-- If the first attempt to open the device fails, that is the end, and nothing is handed on. Else no
loss ends the listener, and what the attempts yield before they fail is handed on in order, each
event once. In both cases the device is closed whenever there is a wait for a new attempt. -/
theorem listener_outlasts_losses (path : String) (delay : Duration) {sessions : List Session}
    (hq : ∀ s ∈ sessions, .overflow ∉ s.queue) :
    let c := run path delay sessions
    (∀ s e, sessions.head? = some s → s.opening.error? path = some e →
      c.result = .failed e ∧ events c.happenings = []) ∧
    ((∀ s, sessions.head? = some s → s.opening = .ready) →
      Outlasts path delay sessions c.result ∧
      events c.happenings = (attended path delay sessions).flatMap Session.yielded) ∧
    WaitsClosed false c.happenings := by
  refine ⟨fun s e hhead he => ?_, fun hready => ?_, ?_⟩
  · obtain ⟨ss, rfl⟩ := List.head?_eq_some_iff.mp hhead
    rw [run_of_first_failed he]
    exact ⟨rfl, rfl⟩
  · exact ⟨outlasts_runFrom (.inr hready) hq, events_runFrom (.inr hready) hq⟩
  · cases sessions with
    | nil => exact waitsClosed_nil false
    | cons s ss =>
      cases ho : s.opening.error? path with
      | some e =>
        rw [run_of_first_failed ho]
        simp [waitsClosed_cons, waitsClosed_nil]
      | none =>
        refine waitsClosed_runFrom (.inr ?_) hq
        rintro r ⟨⟩
        exact Opening.error?_eq_none_iff.mp ho

/-- A device that goes away, cannot be opened in three ways, fails once more, and then stays. -/
def unsteadyDevice : List Session :=
  [{ queue := [.ofReport 1 256 1 0, .pause, .ofReport 1 256 0 5,
      .failure ⟨19, "No such device", none⟩] },
   { opening := .unreachable (.missing "/dev/input/event5") },
   { opening := .taken },
   { opening := .failed ⟨19, "No such device", none⟩ },
   { queue := [.failure ⟨5, "Input/output error", none⟩, .ofReport 2 7 9 9] },
   { queue := [.pause, .ofReport 2 7 1 9] }]

theorem listener_outlasts_losses_of_unsteadyDevice :
    (∀ s ∈ unsteadyDevice, .overflow ∉ s.queue) ∧
      (∀ s, unsteadyDevice.head? = some s → s.opening = .ready) ∧
      events (run "/dev/input/event5" .second unsteadyDevice).happenings =
        [⟨1, 256, 1, ⟨0, by decide⟩⟩, ⟨1, 256, 0, ⟨5, by decide⟩⟩, ⟨2, 7, 1, ⟨9, by decide⟩⟩] ∧
      (run "/dev/input/event5" .second unsteadyDevice.tail).result =
        .failed (.system (.missing "/dev/input/event5")) := by
  have hq : ∀ s ∈ unsteadyDevice, .overflow ∉ s.queue := by decide
  have hready : ∀ s, unsteadyDevice.head? = some s → s.opening = .ready := by
    rintro s ⟨⟩
    rfl
  obtain ⟨-, hrun, -⟩ := listener_outlasts_losses "/dev/input/event5" .second hq
  obtain ⟨hfirst, -⟩ := listener_outlasts_losses "/dev/input/event5" .second
    fun s hs => hq s (List.mem_of_mem_tail hs)
  exact ⟨hq, hready, (hrun hready).2.trans (by decide), (hfirst _ _ rfl rfl).1⟩

end Listener

end JogShuttle
