import JogShuttle.Proofs.Controller.Tracing
import JogShuttle.Proofs.Rule.LastResort

/-!
# Calls of the sink

What the sink is called with over a run is put together from blocks, one for each slot that sends
something: its strokes in order and one flush. The blocks come in the order of the events and of the
slots of each event. All slots of an event are looked up in one table, the one that the refresh for
this event left, and for one window; so a ring step, which comes out only if it is bound there,
always sends something.
-/

set_option autoImplicit false

namespace JogShuttle

namespace Table

/-- What a slot sends in a window: the sequence of the section that governs it or else that of the
default section. -/
def sequence (t : Table) (title : String) (slot : Slot) : List Stroke :=
  ((((t.firstMatch? title).or (t.sectionAt t.default)).bind (·.binding slot)).or
    ((t.sectionAt t.default).bind (·.binding slot))).getD []

theorem resolve_sectionFor (t : Table) (title : String) (slot : Slot) :
    t.resolve (t.sectionFor title) slot = t.sequence title slot := by
  rw [resolve, Option.orElse_eq_orElse, Option.orElse_eq_or, sectionAt_sectionFor]
  rfl

theorem isBound_sectionFor (t : Table) (title : String) :
    t.isBound (t.sectionFor title) = fun slot => !(t.sequence title slot).isEmpty :=
  funext fun slot => by rw [isBound, resolve_sectionFor]

end Table

/-- The calls of a sequence: one for each stroke, and a flush behind them. -/
def block (strokes : List Stroke) : List Act :=
  if strokes.isEmpty then [] else strokes.map .stroke ++ [.flush]

def Handled.calls (h : Handled) : List Act := h.acts.filter Act.isCall

namespace Episode

/-- What a slot of the event sends. -/
def sequence (e : Episode) : Slot → List Stroke :=
  e.table.sequence (Controller.windowTitle e.arrival.window)

theorem isBound_governing (e : Episode) :
    e.table.isBound e.governing = fun slot => !(e.sequence slot).isEmpty :=
  Table.isBound_sectionFor _ _

/-- How an event was taken from the device to the sink. -/
structure Routed (s : Setup) (e : Episode) : Prop where
  rules : e.handled.controller.rules =
    if e.arrival.event.isInput then (e.before.rules.refresh s.source e.arrival.file).file
    else e.before.rules
  interpreted : e.arrival.event.isInput = true →
    ∃ logs, e.before.signal.event s.timeout (fun slot => !(e.sequence slot).isEmpty)
      e.arrival.event = .ok ⟨e.handled.controller.signal, e.slots, logs⟩
  framing : e.arrival.event.isInput = false → e.slots = []
  calls : e.handled.calls = e.slots.flatMap fun slot => block (e.sequence slot)
  steps : ∀ d, .increment d ∈ e.slots → e.sequence (.increment d) ≠ []

end Episode

namespace Signal

variable {isBound : Slot → Bool} {slots : List Slot}

/-- Ring steps that stand for a change of level are bound. -/
theorem isBound_of_mem_steps {change : Int} {d : Direction} (h : steps slots = stepsOf change isBound)
    (hd : .increment d ∈ slots) : isBound (.increment d) = true := by
  have hmem : .increment d ∈ stepsOf change isBound := h ▸ List.mem_filter.mpr ⟨hd, rfl⟩
  unfold stepsOf at hmem
  dsimp only at hmem
  split at hmem
  · next hbound => rwa [List.eq_of_mem_replicate hmem]
  · cases hmem

end Signal

namespace Controller

variable {c : Controller} {s : Setup} {a : Arrival} {as : List Arrival} {w : Focused} {e : Event}
variable {o : Signal.Outcome}

/-- The calls of the sink over some events. -/
def calls (c : Controller) (s : Setup) (as : List Arrival) : List Act :=
  (c.acts s as).filter Act.isCall

theorem calls_eq_flatMap (c : Controller) (s : Setup) (as : List Arrival) :
    c.calls s as = (c.episodes s as).flatMap (·.handled.calls) :=
  List.filter_flatMap

theorem arrival_episodes (c : Controller) (s : Setup) (as : List Arrival) :
    (c.episodes s as).map (·.arrival) = as := by
  induction as generalizing c with
  | nil => rfl
  | cons a as ih => exact congrArg (a :: ·) (ih _)

/-- The slots of an event go out one after another. -/
theorem calls_routeIn
    (h : c.signal.event s.timeout (c.rules.table.isBound (c.governing w)) e = .ok o) :
    (c.routeIn s w e).calls =
      o.slots.flatMap fun slot => block (c.rules.table.sequence (windowTitle w) slot) := by
  have hsend : ∀ names slot, (send names c.rules.table (c.governing w) slot).filter Act.isCall =
      block (c.rules.table.sequence (windowTitle w) slot) := by
    intro names slot
    rw [calls_send, governing, Table.resolve_sectionFor]
    rfl
  unfold routeIn Handled.calls
  simp only [governing] at h hsend ⊢
  rw [h]
  simp only [List.filter_append, calls_traceLookup, calls_logs, List.nil_append,
    List.filter_flatMap, hsend]

theorem Uneventful.calls {h : Handled} (hc : Uneventful c h) : h.calls = [] := by
  obtain ⟨logs, hlogs⟩ := hc.logged
  rw [Handled.calls, hlogs, calls_logs]

/-- A refresh calls nothing. -/
theorem calls_handle (hinput : a.event.isInput = true)
    (h : (c.handle s a.file a.window a.event).stop = none) :
    (c.handle s a.file a.window a.event).calls =
      ((c.refresh s a.file).controller.route s a.window a.event).calls := by
  have hrefresh : (c.refresh s a.file).acts.filter Act.isCall = [] := calls_logs _
  rw [handle_eq_route hinput h, Handled.calls, List.filter_append, hrefresh]
  rfl

theorem calls_of_outcome (h : (c.handle s a.file a.window a.event).stop = none)
    (ho : c.outcome s a = .ok o) :
    (c.handle s a.file a.window a.event).calls = o.slots.flatMap fun slot =>
      block ((c.handle s a.file a.window a.event).controller.rules.table.sequence
        (windowTitle a.window) slot) := by
  unfold outcome at ho
  by_cases hinput : a.event.isInput = true
  · rw [if_pos hinput] at ho
    obtain ⟨hroute, hcontroller, _⟩ := handle_of_isInput hinput h
    rw [calls_handle hinput h, hcontroller, rules_route]
    unfold route at *
    split at hroute
    · cases hroute
    · next hcross =>
      rw [if_neg hcross]
      exact calls_routeIn ho
  · rw [if_neg hinput] at ho
    cases ho
    rw [handle, if_neg hinput]
    exact (uneventful_skip c a.event).calls

theorem routed_of_unstopped (h : (c.handle s a.file a.window a.event).stop = none) :
    (Episode.mk c a (c.interpret s a) (c.handle s a.file a.window a.event)).Routed s := by
  obtain ⟨o, ho, hsignal, hsound⟩ := handle_of_unstopped h
  have hrules := rules_handle c s a.file a.window a.event
  rw [interpret_of_outcome ho]
  refine ⟨hrules, ?_, ?_, calls_of_outcome h ho, ?_⟩
  · intro hinput
    replace hinput : a.event.isInput = true := hinput
    rw [outcome, if_pos hinput] at ho
    rw [if_pos hinput] at hrules
    refine ⟨o.logs, ?_⟩
    rw [← Episode.isBound_governing]
    simp only [Episode.governing, Episode.table, governing, hrules, hsignal]
    exact ho
  · intro hinput
    replace hinput : a.event.isInput = false := hinput
    rw [outcome, hinput, if_neg Bool.false_ne_true] at ho
    cases ho
    rfl
  · -- the interpreter and the lookup go by the same table and window
    intro d hd
    have hbound := Signal.isBound_of_mem_steps hsound.steps hd
    rw [Episode.isBound_governing] at hbound
    simpa using hbound

theorem routed_of_episodes (h : c.Unstopped s as) : ∀ e ∈ c.episodes s as, e.Routed s := by
  induction as generalizing c with
  | nil => exact List.forall_mem_nil _
  | cons a as ih =>
    obtain ⟨hstop, hrest⟩ := List.forall_mem_cons.mp h
    exact List.forall_mem_cons.mpr ⟨routed_of_unstopped hstop, ih hrest⟩

/-- Over events that nothing stops, the calls of the sink are the blocks of the slots that the events
stand for, in their order: every stroke of a slot's sequence and then one flush, and nothing for a
slot without a sequence. Every event is interpreted and looked up under the rules that its refresh
left, and for its own window; its ring steps never come without a block. -/
theorem calls_are_blocks_of_slots (c : Controller) (s : Setup) (as : List Arrival)
    (h : c.Unstopped s as) :
    c.calls s as =
        (c.episodes s as).flatMap (fun e => e.slots.flatMap fun slot => block (e.sequence slot)) ∧
      (c.episodes s as).map (·.arrival) = as ∧ ∀ e ∈ c.episodes s as, e.Routed s := by
  have hrouted := routed_of_episodes h
  refine ⟨?_, arrival_episodes c s as, hrouted⟩
  rw [calls_eq_flatMap]
  exact List.flatMap_congr fun e he => (hrouted e he).calls

/-- A key and the ring under rules for one window, then the ring and the dial under newer rules in a
window without a title. -/
def routedArrivals : List Arrival :=
  let rules := plainRules "[A] foo\nK1 Alt_L/D \"q\"\nIR \"x\"\n[]\nK1 \"z\"\nS2 \"y\"\n" 1
  let newer := plainRules "[]\nIL \"v\"\nJR \"w\"\n" 2
  [⟨rules, { title := some "foo" }, ⟨1, 256, 1, Signal.millis 0⟩⟩,
   ⟨rules, { title := some "foo" }, ⟨2, 8, 2, Signal.millis 1⟩⟩,
   ⟨newer, { title := some "foo" }, ⟨0, 0, 0, Signal.millis 1⟩⟩,
   ⟨newer, {}, ⟨2, 8, 1, Signal.millis 2⟩⟩,
   ⟨.missing "rules", {}, ⟨2, 7, 10, Signal.millis 3⟩⟩,
   ⟨newer, {}, ⟨2, 7, 11, Signal.millis 9⟩⟩]

theorem calls_are_blocks_of_slots_across_reload :
    (initial quietSetup).Unstopped quietSetup routedArrivals ∧
    ((initial quietSetup).episodes quietSetup routedArrivals).map (·.slots) =
      [[.keyDown 1], [.shuttle 2, .increment .right, .increment .right], [],
       [.shuttle 1, .increment .left], [], [.shuttle 0, .increment .left, .jog .right]] ∧
    (initial quietSetup).calls quietSetup routedArrivals =
      ((initial quietSetup).episodes quietSetup routedArrivals).flatMap
        (fun e => e.slots.flatMap fun slot => block (e.sequence slot)) ∧
    (initial quietSetup).calls quietSetup routedArrivals =
      [.press ⟨0xffe9⟩, .press ⟨0x71⟩].map .stroke ++ .flush ::
        [0x79, 0x78, 0x78, 0x76, 0x76, 0x77].flatMap fun keysym =>
          [.stroke (.press ⟨keysym⟩), .stroke (.release ⟨keysym⟩), .flush] := by
  have h : (initial quietSetup).Unstopped quietSetup routedArrivals := by decide +kernel
  obtain ⟨hcalls, -, -⟩ := calls_are_blocks_of_slots (initial quietSetup) quietSetup routedArrivals h
  exact ⟨h, by decide +kernel, hcalls, by decide +kernel⟩

end Controller

end JogShuttle
