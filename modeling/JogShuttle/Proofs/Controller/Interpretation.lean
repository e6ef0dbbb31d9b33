import JogShuttle.Proofs.Controller.KeyStrokes
import JogShuttle.Proofs.Rule.Refresh
import JogShuttle.Proofs.Signal.Feedback

/-!
# Events under different rules

What events mean to the controller does not depend on the rule file, its reloads, the windows or the
tracing flags. Two runs over the same events go through the same states of the device, and the slots
of each event are the same but for the ring steps, which come out in full or not at all.
-/

set_option autoImplicit false

namespace JogShuttle

/-- An event with the rule file and the focused window as they are when it arrives. -/
structure Arrival where
  file : FileView
  window : Focused
  event : Event

/-- How one event was handled, and the slots that it stood for. -/
structure Episode where
  before : Controller
  arrival : Arrival
  slots : List Slot
  handled : Handled

namespace Controller

variable {c c₁ c₂ : Controller} {s s₁ s₂ : Setup} {a a₁ a₂ : Arrival} {as as₁ as₂ : List Arrival}

/-- What an event comes to for the state of the device, under the rules as they are after a refresh
and in the section of the window. -/
def outcome (c : Controller) (s : Setup) (a : Arrival) :
    Except Duration.OutOfRange Signal.Outcome :=
  if a.event.isInput then
    let c := (c.refresh s a.file).controller
    c.signal.event s.timeout (c.rules.table.isBound (c.governing a.window)) a.event
  else .ok { signal := c.signal }

def interpret (c : Controller) (s : Setup) (a : Arrival) : List Slot :=
  match c.outcome s a with
  | .ok o => o.slots
  | .error _ => []

def episodes (c : Controller) (s : Setup) : List Arrival → List Episode
  | [] => []
  | a :: as =>
    let h := c.handle s a.file a.window a.event
    ⟨c, a, c.interpret s a, h⟩ :: h.controller.episodes s as

/-- Nothing stops the handling of some events. -/
def Unstopped (c : Controller) (s : Setup) (as : List Arrival) : Prop :=
  ∀ e ∈ c.episodes s as, e.handled.stop = none

instance (c : Controller) (s : Setup) (as : List Arrival) : Decidable (c.Unstopped s as) :=
  inferInstanceAs (Decidable (∀ e ∈ c.episodes s as, e.handled.stop = none))

end Controller

namespace Episode

/-- The table in effect when the event was handled. -/
def table (e : Episode) : Table := e.handled.controller.rules.table

/-- The section that governed the window. -/
def governing (e : Episode) : Option Nat := e.handled.controller.governing e.arrival.window

def change (e : Episode) : Int := e.handled.controller.signal.level - e.before.signal.level

/-- What came of the slots of an event: the strokes that they send, and of ring steps either one for
each unit of the change of level or none. -/
structure Sound (e : Episode) : Prop where
  sent : e.handled.strokes = e.slots.flatMap (e.table.resolve e.governing)
  steps : Signal.steps e.slots = Signal.stepsOf e.change (e.table.isBound e.governing)

/-- Two events left the same state behind and stood for the same slots except ring steps. -/
structure Agree (e₁ e₂ : Episode) : Prop where
  signal : e₁.handled.controller.signal = e₂.handled.controller.signal
  others : Signal.others e₁.slots = Signal.others e₂.slots

end Episode

namespace Controller

variable {c c₁ c₂ : Controller} {s s₁ s₂ : Setup} {a a₁ a₂ : Arrival} {as as₁ as₂ : List Arrival}
variable {w : Focused} {e : Event}

theorem strokes_sends (names : KeysymTable) (t : Table) (i : Option Nat) (slots : List Slot) :
    (slots.flatMap (send names t i)).filterMap Act.stroke? = slots.flatMap (t.resolve i) := by
  rw [List.filterMap_flatMap]
  exact congrArg (List.flatMap · slots) (funext (strokes_send names t i))

theorem routeIn_of_ok {o : Signal.Outcome}
    (h : c.signal.event s.timeout (c.rules.table.isBound (c.governing w)) e = .ok o) :
    (c.routeIn s w e).controller.signal = o.signal ∧
      (c.routeIn s w e).strokes = o.slots.flatMap (c.rules.table.resolve (c.governing w)) := by
  unfold routeIn
  simp only [governing] at h ⊢
  rw [h]
  refine ⟨rfl, ?_⟩
  rw [Handled.strokes, List.filterMap_append, List.filterMap_append, strokes_traceLookup,
    strokes_logs, strokes_sends]
  rfl

theorem stop_routeIn_of_ok {o : Signal.Outcome}
    (h : c.signal.event s.timeout (c.rules.table.isBound (c.governing w)) e = .ok o) :
    (c.routeIn s w e).stop = none := by
  unfold routeIn
  simp only [governing] at h ⊢
  rw [h]

theorem stop_routeIn_of_error {err : Duration.OutOfRange}
    (h : c.signal.event s.timeout (c.rules.table.isBound (c.governing w)) e = .error err) :
    (c.routeIn s w e).stop = some (.time err) := by
  unfold routeIn
  simp only [governing] at h ⊢
  rw [h]

theorem route_of_unstopped (h : (c.route s w e).stop = none) :
    ∃ o, c.signal.event s.timeout (c.rules.table.isBound (c.governing w)) e = .ok o ∧
      (c.route s w e).controller.signal = o.signal ∧
      (c.route s w e).strokes = o.slots.flatMap (c.rules.table.resolve (c.governing w)) := by
  unfold route at *
  split at h
  · cases h
  · rename_i hw
    rw [if_neg hw]
    cases ho : c.signal.event s.timeout (c.rules.table.isBound (c.governing w)) e with
    | error err =>
      rw [stop_routeIn_of_error ho] at h
      cases h
    | ok o => exact ⟨o, rfl, routeIn_of_ok ho⟩

/-- Nothing but log records came of an event, and nothing was learnt from it. -/
structure Uneventful (c : Controller) (h : Handled) : Prop where
  logged : ∃ logs : List Record, h.acts = logs.map Act.log
  signal : h.controller.signal = c.signal

theorem Uneventful.strokes {h : Handled} (hc : Uneventful c h) : h.strokes = [] := by
  obtain ⟨logs, hlogs⟩ := hc.logged
  rw [Handled.strokes, hlogs, strokes_logs]

theorem uneventful_skip (c : Controller) (e : Event) : Uneventful c (c.skip e) := by
  refine ⟨?_, rfl⟩
  unfold skip
  dsimp only
  split
  · exact ⟨[], rfl⟩
  · exact ⟨[_], rfl⟩

/-- An event of keys, dial or ring is routed under the rules as they are after a refresh. -/
theorem handle_eq_route (hinput : a.event.isInput = true)
    (h : (c.handle s a.file a.window a.event).stop = none) :
    c.handle s a.file a.window a.event =
      { (c.refresh s a.file).controller.route s a.window a.event with
        acts := (c.refresh s a.file).acts ++
          ((c.refresh s a.file).controller.route s a.window a.event).acts } := by
  have hstop : (c.refresh s a.file).stop = none := by
    cases hstop : (c.refresh s a.file).stop with
    | none => rfl
    | some stop =>
      simp only [handle, if_pos hinput, hstop] at h
      cases h
  simp only [handle, if_pos hinput, hstop]

theorem handle_of_isInput (hinput : a.event.isInput = true)
    (h : (c.handle s a.file a.window a.event).stop = none) :
    ((c.refresh s a.file).controller.route s a.window a.event).stop = none ∧
      (c.handle s a.file a.window a.event).controller =
        ((c.refresh s a.file).controller.route s a.window a.event).controller ∧
      (c.handle s a.file a.window a.event).strokes =
        ((c.refresh s a.file).controller.route s a.window a.event).strokes := by
  have hroute := handle_eq_route hinput h
  rw [hroute] at h ⊢
  refine ⟨h, rfl, ?_⟩
  -- a refresh sends nothing
  have hlogs : (c.refresh s a.file).acts.filterMap Act.stroke? = [] := strokes_logs _
  rw [Handled.strokes, List.filterMap_append, hlogs]
  rfl

theorem handle_of_unstopped (h : (c.handle s a.file a.window a.event).stop = none) :
    ∃ o, c.outcome s a = .ok o ∧
      (c.handle s a.file a.window a.event).controller.signal = o.signal ∧
      (Episode.mk c a o.slots (c.handle s a.file a.window a.event)).Sound := by
  unfold outcome
  by_cases hinput : a.event.isInput = true
  · obtain ⟨hroute, hcontroller, hstrokes⟩ := handle_of_isInput hinput h
    obtain ⟨o, ho, hsignal, hsent⟩ := route_of_unstopped hroute
    have hrules := rules_route (c.refresh s a.file).controller s a.window a.event
    rw [if_pos hinput]
    refine ⟨o, ho, by rw [hcontroller, hsignal], ?_, ?_⟩
    · simp only [Episode.table, Episode.governing, governing, hcontroller, hrules] at hsent ⊢
      rw [hstrokes, hsent]
    · simp only [Episode.table, Episode.governing, Episode.change, governing, hcontroller, hrules,
        hsignal] at ho ⊢
      exact Signal.steps_event ho
  · rw [if_neg hinput]
    have hskip : c.handle s a.file a.window a.event = c.skip a.event := if_neg hinput
    rw [hskip]
    refine ⟨_, rfl, rfl, (uneventful_skip c a.event).strokes, ?_⟩
    have hchange : c.signal.level - c.signal.level = 0 := Int.sub_self _
    simp only [Episode.change, skip, hchange, Signal.stepsOf_zero]
    rfl

theorem interpret_of_outcome {o : Signal.Outcome} (h : c.outcome s a = .ok o) :
    c.interpret s a = o.slots := by
  rw [interpret, h]

/-- Events under different rules come to the same but for ring steps. -/
theorem unstepped_outcome (hsignal : c₁.signal = c₂.signal) (htimeout : s₁.timeout = s₂.timeout)
    (hevent : a₁.event = a₂.event) :
    (c₁.outcome s₁ a₁).map Signal.Outcome.unstepped =
      (c₂.outcome s₂ a₂).map Signal.Outcome.unstepped := by
  unfold outcome
  rw [hevent]
  split
  · -- a refresh leaves the state of the device alone
    change (c₁.signal.event s₁.timeout _ _).map _ = (c₂.signal.event s₂.timeout _ _).map _
    rw [hsignal, htimeout]
    exact Signal.unstepped_event _ _ _ _ _
  · rw [hsignal]

theorem agree_of_unstopped (hsignal : c₁.signal = c₂.signal) (htimeout : s₁.timeout = s₂.timeout)
    (hevent : a₁.event = a₂.event)
    (h₁ : (c₁.handle s₁ a₁.file a₁.window a₁.event).stop = none)
    (h₂ : (c₂.handle s₂ a₂.file a₂.window a₂.event).stop = none) :
    (Episode.mk c₁ a₁ (c₁.interpret s₁ a₁) (c₁.handle s₁ a₁.file a₁.window a₁.event)).Agree
      (Episode.mk c₂ a₂ (c₂.interpret s₂ a₂) (c₂.handle s₂ a₂.file a₂.window a₂.event)) := by
  obtain ⟨o₁, ho₁, hs₁, _⟩ := handle_of_unstopped h₁
  obtain ⟨o₂, ho₂, hs₂, _⟩ := handle_of_unstopped h₂
  have hsame := unstepped_outcome hsignal htimeout hevent
  rw [ho₁, ho₂] at hsame
  have ho : o₁.unstepped = o₂.unstepped := Except.ok.inj hsame
  simp only [Signal.Outcome.unstepped, Signal.Outcome.mk.injEq] at ho
  refine ⟨?_, ?_⟩
  · rw [hs₁, hs₂, ho.1]
  · rw [interpret_of_outcome ho₁, interpret_of_outcome ho₂, ho.2.1]

theorem agree_of_episodes (hsignal : c₁.signal = c₂.signal) (htimeout : s₁.timeout = s₂.timeout)
    (hevents : as₁.map (·.event) = as₂.map (·.event)) (h₁ : c₁.Unstopped s₁ as₁)
    (h₂ : c₂.Unstopped s₂ as₂) :
    List.Forall₂ Episode.Agree (c₁.episodes s₁ as₁) (c₂.episodes s₂ as₂) := by
  -- both runs go on from the same state of the device
  induction as₁ generalizing c₁ c₂ as₂ with
  | nil =>
    cases as₂ with
    | nil => exact List.Forall₂.nil
    | cons a₂ as₂ => cases hevents
  | cons a₁ as₁ ih =>
    cases as₂ with
    | nil => cases hevents
    | cons a₂ as₂ =>
      obtain ⟨hevent, hevents⟩ := List.cons.inj hevents
      obtain ⟨hstop₁, hrest₁⟩ := List.forall_mem_cons.mp h₁
      obtain ⟨hstop₂, hrest₂⟩ := List.forall_mem_cons.mp h₂
      have hagree := agree_of_unstopped hsignal htimeout hevent hstop₁ hstop₂
      exact List.Forall₂.cons hagree (ih hagree.signal hevents hrest₁ hrest₂)

theorem sound_of_episodes (h : c.Unstopped s as) : ∀ e ∈ c.episodes s as, e.Sound := by
  induction as generalizing c with
  | nil => exact List.forall_mem_nil _
  | cons a as ih =>
    obtain ⟨hstop, hrest⟩ := List.forall_mem_cons.mp h
    obtain ⟨o, ho, _, hsound⟩ := handle_of_unstopped hstop
    rw [← interpret_of_outcome ho] at hsound
    exact List.forall_mem_cons.mpr ⟨hsound, ih hrest⟩

/-- Two runs over the same events from the same state of the device, each under rules, windows and
tracing flags of its own, leave the same state behind after every event. The slots of an event are
the same but for ring steps, of which each run has one for each unit of the change of level if they
are bound there and none if they are not. -/
theorem state_independent_of_rules (c₁ c₂ : Controller) (s₁ s₂ : Setup) (as₁ as₂ : List Arrival)
    (hsignal : c₁.signal = c₂.signal) (htimeout : s₁.timeout = s₂.timeout)
    (hevents : as₁.map (·.event) = as₂.map (·.event)) (h₁ : c₁.Unstopped s₁ as₁)
    (h₂ : c₂.Unstopped s₂ as₂) :
    List.Forall₂ Episode.Agree (c₁.episodes s₁ as₁) (c₂.episodes s₂ as₂) ∧
    (∀ e ∈ c₁.episodes s₁ as₁, e.Sound) ∧ ∀ e ∈ c₂.episodes s₂ as₂, e.Sound :=
  ⟨agree_of_episodes hsignal htimeout hevents h₁ h₂, sound_of_episodes h₁, sound_of_episodes h₂⟩

def plainRules (text : String) (time : Int) : FileView :=
  ⟨.ok time, .ok (text.toList.map fun c => c.toNat.toUInt8)⟩

/-- The ring goes right and the dial tells of its return. -/
def returnEvents : List Event :=
  [⟨2, 8, 3, Signal.millis 0⟩, ⟨0, 0, 0, Signal.millis 0⟩, ⟨2, 7, 10, Signal.millis 2⟩,
   ⟨2, 7, 12, Signal.millis 9⟩]

/-- Ring steps are bound at first, and no longer when the ring returns. -/
def reloadedArrivals : List Arrival :=
  (returnEvents.zip
    [plainRules "[]\nIR \"x\"\nIL \"y\"\n" 1, plainRules "" 2, plainRules "" 1,
     plainRules "[A] foo\nJR \"z\"\n" 3]).map
    fun (e, f) => ⟨f, { title := some "foo" }, e⟩

def barrenArrivals : List Arrival := returnEvents.map fun e => ⟨.missing "rules", {}, e⟩

def quietSetup : Setup where
  source := RuleFile.standardSource

def tracingSetup : Setup where
  source := { vocabulary := .standard, path := "rules", debug := ⟨true, true, true⟩ }

theorem state_independent_of_rules_reloaded :
    (initial tracingSetup).Unstopped tracingSetup reloadedArrivals ∧
    (initial quietSetup).Unstopped quietSetup barrenArrivals ∧
    List.Forall₂ Episode.Agree
      ((initial tracingSetup).episodes tracingSetup reloadedArrivals)
      ((initial quietSetup).episodes quietSetup barrenArrivals) ∧
    ((initial tracingSetup).episodes tracingSetup reloadedArrivals).map (·.slots) =
      [[.shuttle 3, .increment .right, .increment .right, .increment .right], [], [],
       [.shuttle 0, .jog .right, .jog .right]] := by
  have h₁ : (initial tracingSetup).Unstopped tracingSetup reloadedArrivals := by decide +kernel
  have h₂ : (initial quietSetup).Unstopped quietSetup barrenArrivals := by decide +kernel
  obtain ⟨hagree, _⟩ := state_independent_of_rules (initial tracingSetup) (initial quietSetup)
    tracingSetup quietSetup reloadedArrivals barrenArrivals rfl rfl rfl h₁ h₂
  exact ⟨h₁, h₂, hagree, by decide +kernel⟩

end Controller

end JogShuttle
