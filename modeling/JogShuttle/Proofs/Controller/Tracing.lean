import JogShuttle.Proofs.Controller.Motion
import JogShuttle.Proofs.Rule.Tracing

/-!
# Tracing only observes

Tracing flags decide what is logged and nothing else. Runs that differ in the flags alone are the
same run once log records and flags are left out of view: they refresh, stop and send alike.
-/

set_option autoImplicit false

namespace JogShuttle

variable {debug debug₁ debug₂ : DebugFlags} {c : Controller} {s : Setup} {f : FileView}
variable {w : Focused} {e : Event} {as : List Arrival}

def Table.untraced (t : Table) : Table := { t with debug := {} }

def RuleFile.untraced (r : RuleFile) : RuleFile := { r with table := r.table.untraced }

/-- A refresh without its log. -/
def Refresh.untraced (r : Refresh) : Refresh := { file := r.file.untraced, fault := r.fault }

def Controller.untraced (c : Controller) : Controller := { c with rules := c.rules.untraced }

def RuleSource.traced (s : RuleSource) (debug : DebugFlags) : RuleSource :=
  { s with debug := debug }

def Setup.traced (s : Setup) (debug : DebugFlags) : Setup :=
  { s with source := s.source.traced debug }

/-- Whether an act is a call of the sink. -/
def Act.isCall : Act → Bool
  | .log _ => false
  | .stroke _ => true
  | .flush => true

/-- What is left of a handled event without log records and without flags: the calls of the sink,
what stopped it, the state of the device, the sections in effect with all that is remembered of the
rule file, and the last lookup. -/
def Handled.untraced (h : Handled) : Handled where
  controller := h.controller.untraced
  acts := h.acts.filter Act.isCall
  stop := h.stop

namespace RuleFile

variable {r : RuleFile} {source : RuleSource} {text : String}

/-- Building compares with building without flags: the same fault, or the same table but for its
flags. -/
theorem untraced_build (r : RuleFile) (source : RuleSource) (debug : DebugFlags) (text : String) :
    (r.build (source.traced debug) text).untraced =
      (r.untraced.build (source.traced {}) text).untraced := by
  have hsame := Rule.result_compile_debug source.vocabulary debug text
  cases h : (Rule.compile source.vocabulary {} text).result with
  | error fault =>
    rw [h] at hsame
    rw [build_of_error (s := source.traced debug) hsame,
      build_of_error (s := source.traced {}) h]
    rfl
  | ok t =>
    rw [h] at hsame
    rw [build_of_ok (s := source.traced debug) hsame, build_of_ok (s := source.traced {}) h]
    have hdiagnostics := (Rule.diagnostics_of_ok hsame).trans (Rule.diagnostics_of_ok h).symm
    simp only [Refresh.untraced, untraced, RuleSource.traced, hdiagnostics]
    rfl

theorem untraced_load (r : RuleFile) (source : RuleSource) (debug : DebugFlags) (time : Int)
    (f : FileView) :
    (r.load (source.traced debug) time f).untraced =
      (r.untraced.load (source.traced {}) time f).untraced := by
  unfold load
  cases f.read with
  | error err => rfl
  | ok text => exact untraced_build _ source debug text

theorem untraced_refresh (r : RuleFile) (source : RuleSource) (debug : DebugFlags) (f : FileView) :
    (r.refresh (source.traced debug) f).untraced =
      (r.untraced.refresh (source.traced {}) f).untraced := by
  unfold refresh
  cases f.modified with
  | error err => rfl
  | ok time =>
    -- whether the file is news does not depend on the table in effect
    change (if r.isNews (stamp time) then _ else _ : Refresh).untraced =
      (if r.isNews (stamp time) then _ else _ : Refresh).untraced
    split
    · exact untraced_load r source debug (stamp time) f
    · rfl

end RuleFile

namespace Controller

theorem calls_logs (logs : List Record) : (logs.map Act.log).filter Act.isCall = [] := by
  rw [List.filter_map]
  simp [Function.comp_def, Act.isCall]

theorem calls_traceLookup (c : Controller) (w : Focused) :
    (c.traceLookup w).filter Act.isCall = [] := by
  unfold traceLookup
  split <;> rfl

/-- The calls of a slot are the strokes that it resolves to, and a flush behind them. -/
theorem calls_send (names : KeysymTable) (t : Table) (i : Option Nat) (slot : Slot) :
    (send names t i slot).filter Act.isCall =
      if (t.resolve i slot).isEmpty then []
      else (t.resolve i slot).map Act.stroke ++ [Act.flush] := by
  have hstrokes : ∀ ss : List Stroke,
      (ss.map Act.stroke).filter Act.isCall = ss.map Act.stroke := by
    intro ss
    rw [List.filter_map]
    simp [Function.comp_def, Act.isCall]
  unfold send
  dsimp only
  split
  · rfl
  · rw [List.filter_append, List.filter_append, hstrokes]
    split <;> rfl

theorem calls_sends (names : KeysymTable) (t : Table) (i : Option Nat) (slots : List Slot) :
    (slots.flatMap (send names t i)).filter Act.isCall =
      (slots.flatMap (send names t.untraced i)).filter Act.isCall := by
  rw [List.filter_flatMap, List.filter_flatMap]
  refine congrArg (List.flatMap · slots) (funext fun slot => ?_)
  exact (calls_send names t i slot).trans (calls_send names t.untraced i slot).symm

theorem untraced_routeIn (c : Controller) (s : Setup) (debug : DebugFlags) (w : Focused)
    (e : Event) :
    (c.routeIn (s.traced debug) w e).untraced =
      (c.untraced.routeIn (s.traced {}) w e).untraced := by
  unfold routeIn
  dsimp only
  -- the sections that are searched are the same
  have hsame : c.untraced.signal.event (s.traced {}).timeout
      (c.untraced.rules.table.isBound (c.untraced.governing w)) e =
        c.signal.event (s.traced debug).timeout (c.rules.table.isBound (c.governing w)) e := rfl
  rw [hsame]
  cases c.signal.event (s.traced debug).timeout (c.rules.table.isBound (c.governing w)) e with
  | error err =>
    simp only [Handled.untraced, calls_traceLookup]
    rfl
  | ok o =>
    simp only [Handled.untraced, List.filter_append, calls_traceLookup, calls_logs]
    rw [calls_sends]
    rfl

theorem untraced_route (c : Controller) (s : Setup) (debug : DebugFlags) (w : Focused)
    (e : Event) :
    (c.route (s.traced debug) w e).untraced = (c.untraced.route (s.traced {}) w e).untraced := by
  unfold route
  change (if c.rules.table.crosses (windowTitle w) then _ else _ : Handled).untraced =
    (if c.rules.table.crosses (windowTitle w) then _ else _ : Handled).untraced
  split
  · rfl
  · exact untraced_routeIn c s debug w e

theorem untraced_refresh (c : Controller) (s : Setup) (debug : DebugFlags) (f : FileView) :
    (c.refresh (s.traced debug) f).untraced = (c.untraced.refresh (s.traced {}) f).untraced := by
  have h := RuleFile.untraced_refresh c.rules s.source debug f
  have hfile := congrArg Refresh.file h
  have hfault := congrArg Refresh.fault h
  unfold refresh
  simp only [Handled.untraced, calls_logs, untraced, Handled.mk.injEq, Controller.mk.injEq]
  exact ⟨⟨hfile, trivial, trivial⟩, trivial, congrArg (Option.map Stop.fault) hfault⟩

theorem untraced_skip (c : Controller) (e : Event) :
    (c.skip e).untraced = (c.untraced.skip e).untraced := by
  unfold skip
  split <;> rfl

/-- Handling an event compares with handling it without flags. -/
theorem untraced_handle (c : Controller) (s : Setup) (debug : DebugFlags) (f : FileView)
    (w : Focused) (e : Event) :
    (c.handle (s.traced debug) f w e).untraced =
      (c.untraced.handle (s.traced {}) f w e).untraced := by
  unfold handle
  split
  · have hrefresh := untraced_refresh c s debug f
    obtain ⟨hcontroller, hacts, hstop⟩ := Handled.mk.inj hrefresh
    dsimp only
    rw [← hstop]
    split
    · exact hrefresh
    · have hroute :
          ((c.refresh (s.traced debug) f).controller.route (s.traced debug) w e).untraced =
            ((c.untraced.refresh (s.traced {}) f).controller.route (s.traced {}) w e).untraced := by
        rw [untraced_route, hcontroller]
        exact (untraced_route _ s {} w e).symm
      obtain ⟨hcontroller, hcalls, hstop⟩ := Handled.mk.inj hroute
      simp only [Handled.untraced, List.filter_append, Handled.mk.injEq]
      exact ⟨hcontroller, congrArg₂ _ hacts hcalls, hstop⟩
  · exact untraced_skip c e

theorem untraced_episodes {c₁ c₂ : Controller} (h : c₁.untraced = c₂.untraced) (s : Setup)
    (debug₁ debug₂ : DebugFlags) (as : List Arrival) :
    (c₁.episodes (s.traced debug₁) as).map (·.handled.untraced) =
      (c₂.episodes (s.traced debug₂) as).map (·.handled.untraced) := by
  induction as generalizing c₁ c₂ with
  | nil => rfl
  | cons a as ih =>
    have hhandle :
        (c₁.handle (s.traced debug₁) a.file a.window a.event).untraced =
          (c₂.handle (s.traced debug₂) a.file a.window a.event).untraced := by
      rw [untraced_handle c₁, untraced_handle c₂, h]
    exact congrArg₂ List.cons hhandle (ih (congrArg Handled.controller hhandle))

end Controller

namespace Episode

/-- An event put the rules of a text into effect, with the flags that the reading started from and
those of the directives of this text. -/
structure Loads (e : Episode) (s : Setup) (text : String) : Prop where
  read : e.arrival.file.read = .ok text
  compiled : (Rule.compile s.source.vocabulary s.source.debug text).result = .ok e.table
  flags : e.table.debug = s.source.debug.union (Rule.directives (Rule.linesOf text))
  counted : e.handled.controller.rules.builds = e.before.rules.builds + 1

/-- An event left the table as it was. -/
def Keeps (e : Episode) : Prop :=
  e.table = e.before.rules.table ∧ e.handled.controller.rules.builds = e.before.rules.builds

end Episode

namespace Controller

theorem keeps_or_loads (c : Controller) (s : Setup) (a : Arrival) (slots : List Slot) :
    (Episode.mk c a slots (c.handle s a.file a.window a.event)).Keeps ∨
      ∃ text, (Episode.mk c a slots (c.handle s a.file a.window a.event)).Loads s text := by
  have hrules := rules_handle c s a.file a.window a.event
  by_cases hinput : a.event.isInput = true
  · rw [if_pos hinput] at hrules
    rcases RuleFile.refresh_cases c.rules s.source a.file with
      ⟨htable, _, hbuilds⟩ | ⟨text, hread, hcompiled, _, hbuilds⟩
    · left
      exact ⟨(congrArg RuleFile.table hrules).trans htable,
        (congrArg RuleFile.builds hrules).trans hbuilds⟩
    · right
      rw [← hrules] at hcompiled hbuilds
      exact ⟨text, hread, hcompiled, Rule.debug_compile hcompiled, hbuilds⟩
  · left
    rw [if_neg hinput] at hrules
    exact ⟨congrArg RuleFile.table hrules, congrArg RuleFile.builds hrules⟩

theorem keeps_or_loads_of_mem {x : Episode} (h : x ∈ c.episodes s as) :
    x.Keeps ∨ ∃ text, x.Loads s text := by
  induction as generalizing c with
  | nil => cases h
  | cons a as ih =>
    rcases List.mem_cons.mp h with rfl | h
    · exact keeps_or_loads c s a _
    · exact ih h

/-- A run over some events with the given flags, from any state of the device. -/
def tracedRun (s : Setup) (debug : DebugFlags) (signal : Signal) (as : List Arrival) :
    List Episode :=
  { initial (s.traced debug) with signal }.episodes (s.traced debug) as

/-- Runs that differ in the tracing flags that they start from call the sink alike, are in the same
state after every event, stop at the same events in the same way, and have the same sections and
diagnostics loaded. A table is replaced only by one compiled from the text of the file, whose flags
are those that the run started from and those of the directives anywhere in that text. -/
theorem tracing_only_observes (s : Setup) (debug₁ debug₂ : DebugFlags) (signal : Signal)
    (as : List Arrival) :
    (tracedRun s debug₁ signal as).map (·.handled.untraced) =
        (tracedRun s debug₂ signal as).map (·.handled.untraced) ∧
      ∀ x ∈ tracedRun s debug₁ signal as, x.Keeps ∨ ∃ text, x.Loads (s.traced debug₁) text := by
  have hinitial : ({ initial (s.traced debug₁) with signal } : Controller).untraced =
      ({ initial (s.traced debug₂) with signal } : Controller).untraced := rfl
  exact ⟨untraced_episodes hinitial s debug₁ debug₂ as, fun _ hx => keeps_or_loads_of_mem hx⟩

/-- Directives before the first section and under a header that opens none, then rules without any
directive. -/
def directedArrivals : List Arrival :=
  [⟨plainRules "DEBUG_KEYS\n[]\nK1 \"x\"\n[B] (\nDEBUG_REGEX\n" 1, {},
      ⟨1, 256, 1, Signal.millis 0⟩⟩,
    ⟨plainRules "[]\nK1 \"z\"\n" 2, {}, ⟨1, 256, 1, Signal.millis 4⟩⟩]

/-- What the directives switch on is not carried over, and what the run started from is. -/
theorem tracing_only_observes_of_directives :
    (tracedRun quietSetup {} {} directedArrivals).map (·.table.debug) =
        [⟨true, false, true⟩, {}] ∧
      (tracedRun quietSetup ⟨false, true, false⟩ {} directedArrivals).map (·.table.debug) =
        [⟨true, true, true⟩, ⟨false, true, false⟩] ∧
      (tracedRun quietSetup {} {} directedArrivals).map (·.handled.untraced) =
        (tracedRun quietSetup ⟨false, true, false⟩ {} directedArrivals).map (·.handled.untraced) :=
  ⟨by decide +kernel, by decide +kernel,
    (tracing_only_observes quietSetup {} ⟨false, true, false⟩ {} directedArrivals).1⟩

end Controller

end JogShuttle
