import JogShuttle.Program.Daemon
import JogShuttle.Proofs.Controller.Interpretation
import JogShuttle.Proofs.Device.Breaks
import JogShuttle.Proofs.Display.Memory
import JogShuttle.Proofs.Program.Check
import JogShuttle.Proofs.Rule.Unchanged
import JogShuttle.Proofs.Signal.Clash

/-!
# How the daemon ends

Failures of the settings, the device and the display end the daemon with a status and a message. Not
so for some others, which get out as errors that nothing handles: a home directory that is not known
where the rules are looked for in it, a path that cannot be asked for or a relative path of the
device, a rule file whose text stops the reading of rules, a title that the search for a section goes
wrong on, times that cannot be compared, and an error of the device that is no loss. There is no way
but these, and each of them prevents a status.

The rules are up to date from the first refresh on, and every look at the focus finds the same
window, so events go on under one table and one title. What comes of them is shown for one event and
then for all that the listener hands on.
-/

set_option autoImplicit false

namespace JogShuttle

namespace Settings

variable {homes : Homes} {env : Environment} {c : Choices} {s : Settings}

/-- Neither the command line nor the environment says where the rules are, and no home directory is
known where they could be, or only one that begins with a tilde itself. -/
structure Homeless (homes : Homes) (env : Environment) (c : Choices) : Prop where
  config : c.config = none
  file : value? env configFileVariable = none
  home : value? env homeVariable = none
  own : ∀ dir ∈ homes.own, dir.toList.head? = some '~'

theorem defaultConfigPath_eq_none_iff : defaultConfigPath homes env = none ↔
    value? env configFileVariable = none ∧ value? env homeVariable = none ∧
      ∀ dir ∈ homes.own, dir.toList.head? = some '~' := by
  rw [← Path.ownHome?_eq_none_iff]
  unfold defaultConfigPath
  cases value? env configFileVariable <;> cases value? env homeVariable <;> simp

theorem homeless_iff :
    Homeless homes env c ↔ c.config.or (defaultConfigPath homes env) = none := by
  rw [Option.or_eq_none_iff, defaultConfigPath_eq_none_iff]
  exact ⟨fun h => ⟨h.config, h.file, h.home, h.own⟩, fun ⟨hc, hf, hh, ho⟩ => ⟨hc, hf, hh, ho⟩⟩

theorem ok_of_mapError {α β γ : Type} {f : α → β} {r : Except α γ} {a : γ}
    (h : r.mapError f = .ok a) : r = .ok a := by
  cases r with
  | error e => cases h
  | ok b =>
    cases h
    rfl

theorem reopenDelay_ofFields {fields : List (String × Raw)} (h : ofFields homes fields = .ok s) :
    checkDuration "reopen_delay" defaultReopenDelay (fields.lookup "reopen_delay") =
      .ok s.reopenDelay := by
  unfold ofFields at h
  dsimp only at h
  split at h
  · rename_i hdelay
    cases h
    exact hdelay
  · cases h

/-- What choices come to: the home directory is missed before anything else, then the letters are
read, then the fields are checked. -/
theorem ofChoices_cases (homes : Homes) (env : Environment) (c : Choices) :
    (Homeless homes env c ∧ ofChoices homes env c = .error .homeless) ∨
      ¬Homeless homes env c ∧
        ((∃ unknown, ofChoices homes env c = .error (.letters unknown)) ∨
          ∃ fields, fields.lookup "reopen_delay" = some (.text "1s") ∧
            ofChoices homes env c = (ofFields homes fields).mapError .issues) := by
  rw [homeless_iff]
  unfold ofChoices
  cases c.config.or (defaultConfigPath homes env) with
  | none => exact .inl ⟨rfl, rfl⟩
  | some config =>
    refine .inr ⟨nofun, ?_⟩
    cases DebugFlags.ofLetters c.debug with
    | error unknown => exact .inl ⟨unknown, rfl⟩
    | ok debug => exact .inr ⟨_, rfl, rfl⟩

/-- A command line does not say how long to wait for a lost device. -/
theorem reopenDelay_ofChoices (h : ofChoices homes env c = .ok s) : s.reopenDelay = .second := by
  rcases ofChoices_cases homes env c with ⟨-, he⟩ | ⟨-, ⟨unknown, he⟩ | ⟨fields, hlookup, he⟩⟩
  · cases he.symm.trans h
  · cases he.symm.trans h
  · have hdelay := reopenDelay_ofFields (ok_of_mapError (he.symm.trans h))
    rw [hlookup] at hdelay
    have hsecond : checkDuration "reopen_delay" defaultReopenDelay (some (.text "1s")) =
        .ok .second := by decide +kernel
    exact Except.ok.inj (hdelay.symm.trans hsecond)

theorem ofChoices_eq_homeless_iff :
    ofChoices homes env c = .error .homeless ↔ Homeless homes env c := by
  rcases ofChoices_cases homes env c with
    ⟨hhome, he⟩ | ⟨hhome, ⟨unknown, he⟩ | ⟨fields, -, he⟩⟩
  · exact iff_of_true he hhome
  · refine iff_of_false (fun h => ?_) hhome
    cases he.symm.trans h
  · refine iff_of_false (fun h => ?_) hhome
    have hissues := he.symm.trans h
    cases hfields : ofFields homes fields with
    | error e =>
      rw [hfields] at hissues
      cases hissues
    | ok s =>
      rw [hfields] at hissues
      cases hissues

end Settings

namespace Daemon

variable {v : Vocabulary} {w : World} {d : Display} {setup : Setup} {f : FileView} {t : Table}
variable {σ : State} {device : String} {delay : Duration} {finish : Finish} {e : Event}
variable {hs : List Happening} {stop : Stop}

section React

/-- The title that sections are looked up by. -/
def title (d : Display) : String := Controller.windowTitle d.focusWalk.found

def isBoundAt (t : Table) (d : Display) : Slot → Bool := t.isBound (t.sectionFor (title d))

/-- What events leave as it is: the rules, once the file has been refreshed, and the window that a
look at the focus finds. -/
structure Steady (d : Display) (setup : Setup) (f : FileView) (t : Table) (σ : State) : Prop where
  settled : σ.controller.rules.Settled setup.source f
  table : σ.controller.rules.table = t
  focused : (σ.focus.look d).focus.focused = d.focusWalk.found

theorem react_of_isInput (h : Steady d setup f t σ) (hinput : e.isInput = true) :
    (react d setup f σ e).stop = (σ.controller.route setup d.focusWalk.found e).stop ∧
      (react d setup f σ e).state =
        ⟨(σ.controller.route setup d.focusWalk.found e).controller, (σ.focus.look d).focus⟩ := by
  have hrefresh : σ.controller.refresh setup f = { controller := σ.controller } := by
    unfold Controller.refresh
    rw [h.settled.refresh_eq]
    rfl
  simp only [react, if_pos hinput, hrefresh, h.focused, and_self]

theorem react_of_not_isInput (d : Display) (setup : Setup) (f : FileView) (σ : State)
    (hinput : e.isInput = false) :
    (react d setup f σ e).stop = none ∧ (react d setup f σ e).state = σ := by
  simp only [react, hinput, Bool.false_eq_true, if_false]
  exact ⟨rfl, rfl⟩

theorem steady_react (h : Steady d setup f t σ) (e : Event) :
    Steady d setup f t (react d setup f σ e).state := by
  cases hinput : e.isInput with
  | false => rwa [(react_of_not_isInput d setup f σ hinput).2]
  | true =>
    have hrules := Controller.rules_route σ.controller setup d.focusWalk.found e
    have hlook := Focus.look_of_same (Focus.last_look σ.focus d)
    rw [(react_of_isInput h hinput).2]
    refine ⟨?_, ?_, ?_⟩
    · rw [hrules]
      exact h.settled
    · rw [hrules]
      exact h.table
    · rw [hlook]
      exact h.focused

theorem stop_react_of_crosses (h : Steady d setup f t σ) (hinput : e.isInput = true)
    (hcross : t.crosses (title d) = true) : (react d setup f σ e).stop = some .crossed := by
  obtain ⟨-, rfl, -⟩ := id h
  rw [(react_of_isInput h hinput).1]
  exact congrArg Handled.stop (if_pos hcross)

/-- Where the search for the section goes well, an event is handled if its time can be compared. -/
theorem react_cases (h : Steady d setup f t σ) (hinput : e.isInput = true)
    (hcross : t.crosses (title d) = false) :
    (∃ o, σ.controller.signal.event setup.timeout (isBoundAt t d) e = .ok o ∧
      (react d setup f σ e).stop = none ∧
      (react d setup f σ e).state.controller.signal = o.signal) ∨
    ∃ err, σ.controller.signal.event setup.timeout (isBoundAt t d) e = .error err ∧
      (react d setup f σ e).stop = some (.time err) := by
  obtain ⟨hstop, hstate⟩ := react_of_isInput h hinput
  obtain ⟨-, rfl, -⟩ := id h
  have hroute : σ.controller.route setup d.focusWalk.found e =
      σ.controller.routeIn setup d.focusWalk.found e := by
    rw [Controller.route, if_neg]
    exact Bool.eq_false_iff.mp hcross
  rw [hstop, hstate, hroute]
  cases ho : σ.controller.signal.event setup.timeout (isBoundAt σ.controller.rules.table d) e with
  | error err => exact .inr ⟨err, rfl, Controller.stop_routeIn_of_error ho⟩
  | ok o => exact .inl ⟨o, rfl, Controller.stop_routeIn_of_ok ho, (Controller.routeIn_of_ok ho).1⟩

end React

section Events

variable {s : Signal} {es : List Event}

/-- What stops the handling of some events: the search for the section of the focused window, or a
time that cannot be compared. -/
inductive Stops (setup : Setup) (t : Table) (d : Display) (s : Signal) (es : List Event) :
    Stop → Prop where
  | crossed {e : Event} (he : e ∈ es) (hinput : e.isInput = true)
      (hcross : t.crosses (title d) = true) : Stops setup t d s es .crossed
  | time {err : Duration.OutOfRange} (hclash : Signal.Clashes setup.timeout s es err) :
      Stops setup t d s es (.time err)

theorem not_stops_nil : ¬Stops setup t d s [] stop := by
  rintro (⟨he, -, -⟩ | ⟨hclash⟩)
  · cases he
  · exact Signal.not_clashes_nil hclash

theorem stops_cons_of_not_isInput (hinput : e.isInput = false) :
    Stops setup t d s (e :: es) stop ↔ Stops setup t d s es stop := by
  constructor
  · rintro (⟨he, hi, hcross⟩ | ⟨hclash⟩)
    · rcases List.mem_cons.mp he with rfl | he
      · rw [hinput] at hi
        cases hi
      · exact .crossed he hi hcross
    · exact .time ((Signal.clashes_cons_of_not_isInput hinput).mp hclash)
  · rintro (⟨he, hi, hcross⟩ | ⟨hclash⟩)
    · exact .crossed (List.mem_cons_of_mem e he) hi hcross
    · exact .time ((Signal.clashes_cons_of_not_isInput hinput).mpr hclash)

theorem stops_cons_of_ok {o : Signal.Outcome} (hinput : e.isInput = true)
    (hcross : t.crosses (title d) = false)
    (ho : s.event setup.timeout (isBoundAt t d) e = .ok o) :
    Stops setup t d s (e :: es) stop ↔ Stops setup t d o.signal es stop := by
  have hnever : ¬t.crosses (title d) = true := Bool.eq_false_iff.mp hcross
  constructor
  · rintro (⟨-, -, hc⟩ | ⟨hclash⟩)
    · exact absurd hc hnever
    · exact .time ((Signal.clashes_cons_of_ok hinput ho).mp hclash)
  · rintro (⟨-, -, hc⟩ | ⟨hclash⟩)
    · exact absurd hc hnever
    · exact .time ((Signal.clashes_cons_of_ok hinput ho).mpr hclash)

end Events

section Follow

/-- An end is that of the listener itself, unless something stops the handling of an event. -/
def Ending.Follows (ending : Ending) (S : Stop → Prop) (finish : Finish) : Prop :=
  ((¬∃ stop, S stop) ∧ ending = ofFinish finish) ∨
    ∃ stop, S stop ∧ ending = .escaped (.stop stop)

theorem Ending.Follows.congr {ending : Ending} {S T : Stop → Prop} (h : ending.Follows S finish)
    (hST : ∀ stop, T stop ↔ S stop) : ending.Follows T finish := by
  have hsame : T = S := funext fun stop => propext (hST stop)
  rwa [hsame]

theorem ending_follow_event (e : Event) :
    (follow d setup f device delay finish σ (.event e :: hs)).ending =
      match (react d setup f σ e).stop with
      | some stop => .escaped (.stop stop)
      | none => (follow d setup f device delay finish (react d setup f σ e).state hs).ending := by
  rw [follow]
  cases (react d setup f σ e).stop <;> rfl

theorem follows_event (h : Steady d setup f t σ)
    (hnext : (follow d setup f device delay finish (react d setup f σ e).state hs).ending.Follows
      (Stops setup t d (react d setup f σ e).state.controller.signal (Listener.events hs)) finish) :
    (follow d setup f device delay finish σ (.event e :: hs)).ending.Follows
      (Stops setup t d σ.controller.signal (e :: Listener.events hs)) finish := by
  rw [ending_follow_event]
  cases hinput : e.isInput with
  | false =>
    obtain ⟨hstop, hstate⟩ := react_of_not_isInput d setup f σ hinput
    rw [hstate] at hnext
    rw [hstop, hstate]
    apply hnext.congr
    intro stop
    exact stops_cons_of_not_isInput hinput
  | true =>
    cases hcross : t.crosses (title d) with
    | true =>
      rw [stop_react_of_crosses h hinput hcross]
      exact .inr ⟨_, .crossed List.mem_cons_self hinput hcross, rfl⟩
    | false =>
      rcases react_cases h hinput hcross with ⟨o, ho, hstop, hsignal⟩ | ⟨err, herr, hstop⟩
      · rw [hsignal] at hnext
        rw [hstop]
        apply hnext.congr
        intro stop
        exact stops_cons_of_ok hinput hcross ho
      · rw [hstop]
        exact .inr ⟨_, .time (Signal.clashes_cons_of_error hinput herr), rfl⟩

theorem follows_follow (h : Steady d setup f t σ) :
    (follow d setup f device delay finish σ hs).ending.Follows
      (Stops setup t d σ.controller.signal (Listener.events hs)) finish := by
  -- on the happenings; every event leaves the state steady, so the next one finds the same rules
  induction hs generalizing σ with
  | nil =>
    left
    refine ⟨?_, rfl⟩
    rintro ⟨stop, hstop⟩
    exact not_stops_nil hstop
  | cons k hs ih =>
    cases k with
    | event e => exact follows_event h (ih (steady_react h e))
    -- nothing but an event makes a difference to the end
    | _ => exact ih h

end Follow

section Run

/-- A run ends with a status, and says last what the problem is unless that is zero. -/
def Run.EndsWithStatus (r : Run) : Prop :=
  r.ending = .status 0 ∨ r.ending = .status 1 ∧ ∃ m, r.acts.getLast? = some (.log (.error m))

/-- A run ends with a status, unless there is an error that it ends by. -/
def Run.EndsUnder (r : Run) (P : Escape → Prop) : Prop :=
  ((¬∃ e, P e) ∧ r.EndsWithStatus) ∨ ∃ e, P e ∧ r.ending = .escaped e

def Run.escaped? (r : Run) : Option String :=
  match r.ending with
  | .escaped e => some e.message
  | _ => none

variable {r : Run} {P : Escape → Prop}

theorem Run.EndsWithStatus.escaped?_eq_none (h : r.EndsWithStatus) : r.escaped? = none := by
  rcases h with h | ⟨h, -⟩
  · rw [Run.escaped?, h]
  · rw [Run.escaped?, h]

theorem Run.EndsWithStatus.before (h : r.EndsWithStatus) (acts : List DisplayAct) :
    (r.before acts).EndsWithStatus := by
  apply h.imp_right
  rintro ⟨hending, m, hlast⟩
  refine ⟨hending, m, ?_⟩
  rw [Run.before, List.getLast?_append, hlast]
  rfl

theorem Run.EndsUnder.before (h : r.EndsUnder P) (acts : List DisplayAct) :
    (r.before acts).EndsUnder P := by
  apply h.imp_left
  rintro ⟨hnone, hstatus⟩
  exact ⟨hnone, hstatus.before acts⟩

theorem Run.EndsUnder.congr {Q : Escape → Prop} (h : r.EndsUnder P) (hPQ : ∀ e, Q e ↔ P e) :
    r.EndsUnder Q := by
  have hsame : Q = P := funext fun e => propext (hPQ e)
  rwa [hsame]

theorem endsWithStatus_closing_of_loss {l : DeviceError} (hl : l.isLoss = true)
    (h : r.ending = ofFinish (.failed l)) : (closing (.failed l) r).EndsWithStatus := by
  have hstatus : r.ending = .status 1 := by rw [h, ofFinish, if_pos hl]
  refine .inr ⟨hstatus, l.message, ?_⟩
  simp [closing, hstatus, farewell, hl]

/-- A run that follows a listener ends by what stops an event or by what breaks the listener off. -/
theorem endsUnder_closing {S : Stop → Prop} {B : DeviceError → Prop}
    (hr : r.ending.Follows S finish) (hB : ∀ e, B e → e.isLoss = false)
    (hfinish : ((¬∃ e, B e) ∧ (finish = .stopped ∨ ∃ l, l.isLoss = true ∧ finish = .failed l)) ∨
      ∃ e, B e ∧ finish = .failed e) :
    (closing finish r).EndsUnder fun e =>
      (∃ stop, S stop ∧ e = .stop stop) ∨ ∃ l, B l ∧ e = .device l := by
  rcases hr with ⟨hgoes, hending⟩ | ⟨stop, hstop, hending⟩
  · rcases hfinish with ⟨hunbroken, hfinish⟩ | ⟨e, he, rfl⟩
    · left
      refine ⟨?_, ?_⟩
      · rintro ⟨e, ⟨stop, hstop, -⟩ | ⟨l, hl, -⟩⟩
        · exact hgoes ⟨stop, hstop⟩
        · exact hunbroken ⟨l, hl⟩
      · rcases hfinish with rfl | ⟨l, hl, rfl⟩
        · exact .inl hending
        · exact endsWithStatus_closing_of_loss hl hending
    · refine .inr ⟨_, .inr ⟨e, he, rfl⟩, ?_⟩
      simp [closing, hending, ofFinish, hB e he]
  · exact .inr ⟨_, .inl ⟨stop, hstop, rfl⟩, hending⟩

end Run

section Serve

variable {s : Settings} {path : Path}

/-- The first refresh stops if the file can be read and its text does not compile. -/
theorem fault_first_refresh_iff {source : RuleSource} {fault : Fault} :
    ((RuleFile.initial source).refresh source f).fault = some fault ↔
      ∃ time text, f.modified = .ok time ∧ f.read = .ok text ∧
        (Rule.compile source.vocabulary source.debug text).result = .error fault := by
  cases hm : f.modified with
  | error e => simp [RuleFile.refresh, RuleFile.fail, hm]
  | ok time =>
    cases hread : f.read with
    | error e =>
      -- the reason is reported, and the rules stay
      simp [RuleFile.refresh, RuleFile.load, RuleFile.fail, RuleFile.initial, RuleFile.isNews, hm,
        hread]
    | ok text =>
      rw [Check.first_refresh source hm hread]
      cases hc : (Rule.compile source.vocabulary source.debug text).result with
      | error e => simp [RuleFile.build_of_error hc, hc]
      | ok t => simp [RuleFile.build_of_ok hc, hc]

def loading (v : Vocabulary) (w : World) (s : Settings) : Refresh :=
  (RuleFile.initial (setupOf v s).source).refresh (setupOf v s).source (w.file s.configPath)

def handedOn (w : World) (s : Settings) (path : Path) : List Event :=
  Listener.events (Listener.run path.text s.reopenDelay (w.device path)).happenings

/-- The errors that nothing handles, when the rules of some settings serve a device at a display. -/
inductive Unhandled (v : Vocabulary) (w : World) (d : Display) (s : Settings) (path : Path) :
    Escape → Prop where
  | config (h : s.configPath.isProper = false) : Unhandled v w d s path .improperPath
  | rules {time : Int} {text : String} {fault : Fault}
      (hm : (w.file s.configPath).modified = .ok time)
      (hread : (w.file s.configPath).read = .ok text)
      (hc : (Rule.compile v s.debug text).result = .error fault) :
      Unhandled v w d s path (.stop (.fault fault))
  | relative (h : path.isAbsolute = false) : Unhandled v w d s path (.device .relativePath)
  | device (h : path.isProper = false) : Unhandled v w d s path (.device .improperPath)
  | event {stop : Stop}
      (h : Stops (setupOf v s) (loading v w s).file.table d {} (handedOn w s path) stop) :
      Unhandled v w d s path (.stop stop)
  | listener {e : DeviceError} (h : Listener.BreaksOff path.text (w.device path) e) :
      Unhandled v w d s path (.device e)

/-- Paths and rules are not to blame. -/
structure Sound (v : Vocabulary) (w : World) (s : Settings) (path : Path) : Prop where
  config : s.configPath.isProper = true
  rules : (loading v w s).fault = none
  absolute : path.isAbsolute = true
  proper : path.isProper = true

theorem Sound.unhandled_iff (h : Sound v w s path) {e : Escape} : Unhandled v w d s path e ↔
    (∃ stop, Stops (setupOf v s) (loading v w s).file.table d {} (handedOn w s path) stop ∧
      e = .stop stop) ∨
    ∃ l, Listener.BreaksOff path.text (w.device path) l ∧ e = .device l := by
  constructor
  · rintro (hc | ⟨hm, hread, hc⟩ | ha | hp | hstop | hb)
    · rw [h.config] at hc
      cases hc
    · have hfault : (loading v w s).fault = some _ :=
        fault_first_refresh_iff.mpr ⟨_, _, hm, hread, hc⟩
      rw [h.rules] at hfault
      cases hfault
    · rw [h.absolute] at ha
      cases ha
    · rw [h.proper] at hp
      cases hp
    · exact .inl ⟨_, hstop, rfl⟩
    · exact .inr ⟨_, hb, rfl⟩
  · rintro (⟨stop, hstop, rfl⟩ | ⟨l, hb, rfl⟩)
    · exact .event hstop
    · exact .listener hb

def loaded (v : Vocabulary) (w : World) (s : Settings) : Controller :=
  { rules := (loading v w s).file }

theorem steady_loaded :
    Steady d (setupOf v s) (w.file s.configPath) (loading v w s).file.table
      ⟨loaded v w s, {}⟩ := by
  refine ⟨RuleFile.settled_refresh _ _ _, rfl, ?_⟩
  have hmoved : ({} : Focus).last ≠ some d.focus := nofun
  rw [Focus.look_of_moved hmoved]

variable (hdelay : s.reopenDelay = .second)
include hdelay

theorem endsUnder_listen (hconfig : s.configPath.isProper = true)
    (hrules : (loading v w s).fault = none) :
    (listen w d (setupOf v s) s path (loaded v w s)).EndsUnder (Unhandled v w d s path) := by
  unfold listen
  cases habsolute : path.isAbsolute with
  | false => exact .inr ⟨_, .relative habsolute, rfl⟩
  | true =>
    cases hproper : path.isProper with
    | false => exact .inr ⟨_, .device hproper, rfl⟩
    | true =>
      have hsound : Sound v w s path := ⟨hconfig, hrules, habsolute, hproper⟩
      have hpositive : 0 ≤ s.reopenDelay.micros := by
        rw [hdelay]
        decide
      have hfinish := Listener.result_run hpositive path.text (w.device path)
      apply Run.EndsUnder.before
      refine Run.EndsUnder.congr (endsUnder_closing (follows_follow steady_loaded) ?_ hfinish) ?_
      · intro e he
        exact he.breaks.not_isLoss
      · intro e
        exact hsound.unhandled_iff

theorem endsUnder_serve : (serve v w d s path).EndsUnder (Unhandled v w d s path) := by
  unfold serve
  cases hconfig : s.configPath.isProper with
  | false => exact .inr ⟨_, .config hconfig, rfl⟩
  | true =>
    have hstop : ((Controller.initial (setupOf v s)).refresh (setupOf v s)
        (w.file s.configPath)).stop = (loading v w s).fault.map .fault := rfl
    simp only [hstop]
    apply Run.EndsUnder.before
    cases hrules : (loading v w s).fault with
    | some fault =>
      obtain ⟨time, text, hm, hread, hc⟩ := fault_first_refresh_iff.mp hrules
      exact .inr ⟨_, .rules hm hread hc, rfl⟩
    | none => exact endsUnder_listen hdelay hconfig hrules

end Serve

section Command

variable {c : Settings.Choices} {s : Settings} {path : Path}

/-- The display, the settings and the device that the program comes to serve. -/
structure Serves (w : World) (c : Settings.Choices) (d : Display) (s : Settings) (path : Path) :
    Prop where
  settings : Settings.ofChoices w.homes w.environment c = .ok s
  device : (s.devicePath <|> w.found) = some path
  display : w.display = .ok d

/-- The errors that nothing handles, when the program is started with some choices. -/
inductive Escapes (v : Vocabulary) (w : World) (c : Settings.Choices) : Escape → Prop where
  | homeless (h : Settings.Homeless w.homes w.environment c) : Escapes v w c .homeless
  | serving {d : Display} {s : Settings} {path : Path} {e : Escape} (h : Serves w c d s path)
      (he : Unhandled v w d s path e) : Escapes v w c e

theorem Serves.not_homeless (h : Serves w c d s path) :
    ¬Settings.Homeless w.homes w.environment c := by
  intro hhomeless
  cases (Settings.ofChoices_eq_homeless_iff.mpr hhomeless).symm.trans h.settings

theorem Serves.escapes_iff (h : Serves w c d s path) {e : Escape} :
    Escapes v w c e ↔ Unhandled v w d s path e := by
  constructor
  · rintro (hhomeless | ⟨h', he⟩)
    · exact absurd hhomeless h.not_homeless
    · obtain rfl := Except.ok.inj (h.settings.symm.trans h'.settings)
      obtain rfl := Option.some.inj (h.device.symm.trans h'.device)
      obtain rfl := Except.ok.inj (h.display.symm.trans h'.display)
      exact he
  · exact .serving h

theorem endsUnder_failing (message : String)
    (hhome : ¬Settings.Homeless w.homes w.environment c) (h : ∀ d s path, ¬Serves w c d s path) :
    (Run.failing message).EndsUnder (Escapes v w c) := by
  refine .inl ⟨?_, .inr ⟨rfl, message, rfl⟩⟩
  rintro ⟨e, hhomeless | ⟨hserves, -⟩⟩
  · exact hhome hhomeless
  · exact h _ _ _ hserves

theorem endsUnder_command {words : List String} (hwords : readChoices words = .ok c) :
    (command v w words).EndsUnder (Escapes v w c) := by
  unfold command
  simp only [hwords]
  by_cases hhome : Settings.Homeless w.homes w.environment c
  · simp only [Settings.ofChoices_eq_homeless_iff.mpr hhome]
    exact .inr ⟨_, .homeless hhome, rfl⟩
  cases hsettings : Settings.ofChoices w.homes w.environment c with
  | error e =>
    have hnone : ∀ d s path, ¬Serves w c d s path := by
      intro d s path h
      cases hsettings.symm.trans h.settings
    cases e with
    | homeless => exact absurd (Settings.ofChoices_eq_homeless_iff.mp hsettings) hhome
    | letters | issues => exact endsUnder_failing _ hhome hnone
  | ok s =>
    dsimp only
    cases hdevice : (s.devicePath <|> w.found) with
    | none =>
      apply endsUnder_failing _ hhome
      intro d s' path h
      obtain rfl := Except.ok.inj (hsettings.symm.trans h.settings)
      cases hdevice.symm.trans h.device
    | some path =>
      cases hdisplay : w.display with
      | error text =>
        apply endsUnder_failing _ hhome
        intro d s' path' h
        cases hdisplay.symm.trans h.display
      | ok d =>
        have hserves : Serves w c d s path := ⟨hsettings, hdevice, hdisplay⟩
        apply (endsUnder_serve (Settings.reopenDelay_ofChoices hsettings)).congr
        intro e
        exact hserves.escapes_iff

/-- A world with a display, the same rules everywhere and devices that stay silent. -/
def quietWorld (rules : String) : World where
  homes := ⟨some "/", fun _ => none⟩
  display := .ok {}
  file := fun _ => Controller.plainRules rules 1
  device := fun _ => []

/-- Neither does it without a home directory to look for the rules in. -/
example : (command .standard { quietWorld "[]\n" with homes := ⟨none, fun _ => none⟩ }
    ["/dev/event7"]).escaped? = some "Could not determine home directory." := by decide +kernel

/-- Nor under a pattern whose flags exclude each other. -/
example : (command .standard (quietWorld "[A] (?a)(?u)foo\n")
    ["-r", "rules", "/dev/event7"]).escaped? =
      some "ASCII and UNICODE flags are incompatible" := by decide +kernel

end Command

end Daemon

end JogShuttle
