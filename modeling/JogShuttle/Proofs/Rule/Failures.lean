import JogShuttle.Proofs.Rule.Refresh

/-!
# Failures of refreshes

A refresh keeps the rules in effect, or replaces all of them by those of the file's whole text. It
fails where the file cannot be looked at, or is the newest so far and cannot be read or decoded.
What a refresh remembers of failures is the message of the last one, up to the next build, so each
run of failures for one reason is reported once.
-/

set_option autoImplicit false

namespace JogShuttle.RuleFile

variable {s : RuleSource} {r : RuleFile} {f : FileView} {fs : List FileView}
variable {n : Int} {m m' : String}

/-- The rules in effect stay as they are. -/
structure Keeps (before after : RuleFile) : Prop where
  table : after.table = before.table
  diagnostics : after.diagnostics = before.diagnostics
  builds : after.builds = before.builds

/-- The rules of a text are put into effect, read on their own under the flags of the source. -/
structure Installs (s : RuleSource) (text : String) (before after : RuleFile) : Prop where
  table : (Rule.compile s.vocabulary s.debug text).result = .ok after.table
  diagnostics : after.diagnostics = (Rule.compile s.vocabulary s.debug text).diagnostics
  builds : after.builds = before.builds + 1

/-- A refresh that fails, with the message for it. A file that is not news is not read, so it only
fails where it cannot be looked at. -/
inductive Fails (s : RuleSource) (before : List FileView) (f : FileView) : String → Prop where
  | stat {e : SystemError} (hm : f.modified = .error e) :
      Fails s before f (s.path ++ ": " ++ e.message)
  | read {n : Int} {e : ReadError} (hn : f.stamp? = some n) (hnew : Newest before n)
      (hr : f.read = .error e) : Fails s before f (s.path ++ ": " ++ e.message)

/-- The message of the last failure, where there was no build after it. -/
def LastFailure (s : RuleSource) (fs : List FileView) (m : String) : Prop :=
  ∃ before g after, fs = before ++ g :: after ∧ Fails s before g m ∧
    ∀ between h rest, after = between ++ h :: rest →
      (∀ m', ¬Fails s (before ++ g :: between) h m') ∧ ¬Builds s (before ++ g :: between) h

def failureReport (m : String) : Record :=
  .warning ("Unable to read configuration, keeping previous rules: " ++ m)

theorem stamp?_of_error {e : SystemError} (h : f.modified = .error e) : f.stamp? = none := by
  simp [FileView.stamp?, h, Except.toOption]

theorem fails_of_stamp?_iff (hn : f.stamp? = some n) : Fails s fs f m ↔
    Newest fs n ∧ ∃ e, f.read = .error e ∧ s.path ++ ": " ++ e.message = m := by
  constructor
  · intro h
    cases h with
    | stat hm =>
      rw [stamp?_of_error hm] at hn
      cases hn
    | read hn' hnew hr =>
      rw [hn] at hn'
      cases hn'
      exact ⟨hnew, _, hr, rfl⟩
  · rintro ⟨hnew, e, hr, rfl⟩
    exact .read hn hnew hr

theorem Fails.unique (h : Fails s fs f m) (h' : Fails s fs f m') : m = m' := by
  cases h with
  | stat hm =>
    cases h' with
    | stat hm' =>
      rw [hm] at hm'
      cases hm'
      rfl
    | read hn _ _ =>
      rw [stamp?_of_error hm] at hn
      cases hn
  | read hn _ hr =>
    obtain ⟨-, e, hr', rfl⟩ := (fails_of_stamp?_iff hn).mp h'
    rw [hr] at hr'
    cases hr'
    rfl

theorem Fails.not_builds (h : Fails s fs f m) : ¬Builds s fs f := by
  rw [builds_iff]
  rintro ⟨⟨n, hn, -⟩, text, htext, -⟩
  cases h with
  | stat hm =>
    rw [stamp?_of_error hm] at hn
    cases hn
  | read _ _ hr =>
    rw [hr] at htext
    cases htext

section Outcomes

/-- How a refresh can go, after refreshes at which the file stood as given. -/
inductive Outcome (s : RuleSource) (fs : List FileView) (f : FileView) : Refresh → Prop where
  | failed {m : String} (seen : Option Int) (h : Fails s fs f m) :
      Outcome s fs f
        { file := { refreshed s fs with seen, lastError := some m }
          logs := if (refreshed s fs).lastError = some m then [] else [failureReport m] }
  | stale (hf : ∀ m, ¬Fails s fs f m) (hb : ¬Builds s fs f) :
      Outcome s fs f { file := refreshed s fs }
  | stopped {text : String} {e : Fault} (seen : Option Int) (hf : ∀ m, ¬Fails s fs f m)
      (hb : ¬Builds s fs f) (htext : f.read = .ok text)
      (hc : (Rule.compile s.vocabulary s.debug text).result = .error e) :
      Outcome s fs f
        { file := { refreshed s fs with seen }
          logs := (Rule.compile s.vocabulary s.debug text).notes.map Note.record
          fault := some e }
  | built {text : String} {t : Table} (seen : Option Int) (hf : ∀ m, ¬Fails s fs f m)
      (hb : Builds s fs f) (htext : f.read = .ok text)
      (hc : (Rule.compile s.vocabulary s.debug text).result = .ok t) :
      Outcome s fs f
        { file :=
            { table := t
              diagnostics := (Rule.compile s.vocabulary s.debug text).diagnostics
              builds := (refreshed s fs).builds + 1
              seen
              lastError := none }
          logs := (Rule.compile s.vocabulary s.debug text).notes.map Note.record }

theorem refresh_of_modified_error {e : SystemError} (h : f.modified = .error e) :
    r.refresh s f = r.fail s e.message := by
  unfold refresh
  simp only [h]

theorem outcome_refresh (s : RuleSource) (fs : List FileView) (f : FileView) :
    Outcome s fs f ((refreshed s fs).refresh s f) := by
  cases hm : f.modified with
  | error e =>
    rw [refresh_of_modified_error hm]
    exact .failed _ (.stat hm)
  | ok time =>
    have hn : f.stamp? = some (stamp time) := by simp [FileView.stamp?, hm, Except.toOption]
    rw [refresh_of_stamp? hn]
    by_cases hnew : Newest fs (stamp time)
    · rw [if_pos (isNews_refreshed.mpr hnew)]
      cases hr : f.read with
      | error e =>
        unfold load
        simp only [hr]
        exact .failed _ (.read hn hnew hr)
      | ok text =>
        rw [load_of_read hr]
        have hf : ∀ m, ¬Fails s fs f m := by simp [fails_of_stamp?_iff hn, hr]
        have hbuilds : Builds s fs f ↔
            ∃ t, (Rule.compile s.vocabulary s.debug text).result = .ok t := by
          simp [builds_iff, hn, hnew, FileView.Compiles, hr]
        cases hc : (Rule.compile s.vocabulary s.debug text).result with
        | error e =>
          rw [build_of_error hc]
          exact .stopped _ hf (by simp [hbuilds, hc]) hr hc
        | ok t =>
          rw [build_of_ok hc]
          exact .built _ hf (hbuilds.mpr ⟨t, hc⟩) hr hc
    · rw [if_neg (fun h => hnew (isNews_refreshed.mp h))]
      refine .stale ?_ ?_
      · simp [fails_of_stamp?_iff hn, hnew]
      · simp [builds_iff, hn, hnew]

end Outcomes

section LastFailure

theorem lastFailure_append : LastFailure s (fs ++ [f]) m ↔
    Fails s fs f m ∨ LastFailure s fs m ∧ (∀ m', ¬Fails s fs f m') ∧ ¬Builds s fs f := by
  constructor
  · rintro ⟨before, g, after, hfs, hg, hafter⟩
    -- the failure is `f` itself, or `f` is the last of what came after it
    rcases List.eq_nil_or_concat after with rfl | ⟨after, h, rfl⟩
    · obtain ⟨rfl, hlast⟩ := List.append_inj' hfs rfl
      cases hlast
      exact .inl hg
    · have hfs' : fs ++ [f] = (before ++ g :: after) ++ [h] := by simpa using hfs
      obtain ⟨rfl, hlast⟩ := List.append_inj' hfs' rfl
      cases hlast
      refine .inr ⟨⟨before, g, after, rfl, hg, fun between k rest hsplit => ?_⟩, ?_⟩
      · exact hafter between k (rest ++ [f]) (by simp [hsplit])
      · exact hafter after f [] (by simp)
  · rintro (hf | ⟨⟨before, g, after, rfl, hg, hafter⟩, hquiet⟩)
    · exact ⟨fs, f, [], rfl, hf, by simp⟩
    · refine ⟨before, g, after ++ [f], by simp, hg, fun between h rest hsplit => ?_⟩
      rcases List.eq_nil_or_concat rest with rfl | ⟨rest, k, rfl⟩
      · obtain ⟨rfl, hlast⟩ := List.append_inj' hsplit rfl
        cases hlast
        exact hquiet
      · have hsplit' : after ++ [f] = (between ++ h :: rest) ++ [k] := by simpa using hsplit
        exact hafter between h rest (List.append_inj' hsplit' rfl).1

/-- What is remembered of failures is the last one since the last build. -/
theorem lastError_refreshed : (refreshed s fs).lastError = some m ↔ LastFailure s fs m := by
  induction fs using List.reverseRecOn generalizing m with
  | nil => simp [refreshed, initial, LastFailure]
  | append_singleton fs f ih =>
    rw [refreshed_append, lastFailure_append, ← ih]
    have houtcome := outcome_refresh s fs f
    generalize (refreshed s fs).refresh s f = x at houtcome
    cases houtcome with
    | failed seen h =>
      -- the message is replaced, also by the same one
      simp only [Option.some.injEq]
      constructor
      · rintro rfl
        exact .inl h
      · rintro (h' | ⟨-, hf, -⟩)
        · exact h.unique h'
        · exact absurd h (hf _)
    | stale hf hb => simp [hf, hb]
    | stopped seen hf hb _ _ => simp [hf, hb]
    | built seen hf hb _ _ => simp [hf, hb]

end LastFailure

theorem filter_warning_notes {α : Type} (c : Reading α) :
    (c.notes.map Note.record).filter (·.level = .warning) =
      c.diagnostics.map fun d => .warning d.text := by
  unfold Reading.diagnostics
  induction c.notes with
  | nil => rfl
  | cons note notes ih =>
    cases note with
    | diagnostic d => simpa [Note.record, Record.warning] using ih
    | trace t => simpa [Note.record, Record.info] using ih

section Effects

theorem keeps_or_installs (s : RuleSource) (fs : List FileView) (f : FileView) :
    Keeps (refreshed s fs) (refreshed s (fs ++ [f])) ∨
      ∃ text, f.read = .ok text ∧ Installs s text (refreshed s fs) (refreshed s (fs ++ [f])) := by
  rw [refreshed_append]
  rcases refresh_cases (refreshed s fs) s f with
    ⟨htable, hdiagnostics, hbuilds⟩ | ⟨text, htext, htable, hdiagnostics, hbuilds⟩
  · exact .inl ⟨htable, hdiagnostics, hbuilds⟩
  · exact .inr ⟨text, htext, htable, hdiagnostics, hbuilds⟩

/-- The newest file so far is put into effect where it can be read and nothing stops its reading. -/
theorem installs_of_newest {text : String} (hn : f.stamp? = some n) (hnew : Newest fs n)
    (hr : f.read = .ok text) (hfault : ((refreshed s fs).refresh s f).fault = none) :
    Installs s text (refreshed s fs) (refreshed s (fs ++ [f])) := by
  rw [refreshed_append]
  rw [refresh_of_stamp? hn, if_pos (isNews_refreshed.mpr hnew), load_of_read hr] at hfault ⊢
  cases hc : (Rule.compile s.vocabulary s.debug text).result with
  | error e =>
    rw [build_of_error hc] at hfault
    cases hfault
  | ok t =>
    rw [build_of_ok hc]
    exact ⟨hc, rfl, rfl⟩

theorem keeps_of_not_builds (h : ¬Builds s fs f) :
    Keeps (refreshed s fs) (refreshed s (fs ++ [f])) := by
  rcases keeps_or_installs s fs f with hkeeps | ⟨text, -, hinstalls⟩
  · exact hkeeps
  · refine absurd ?_ h
    unfold Builds
    rw [hinstalls.builds]
    exact Nat.lt_succ_self _

theorem not_builds_of_unreadable
    (h : (∃ e, f.modified = .error e) ∨ ∃ e, f.read = .error e) : ¬Builds s fs f := by
  rcases h with ⟨e, hm⟩ | ⟨e, hr⟩
  · exact (Fails.stat hm).not_builds
  · simp [builds_iff, FileView.Compiles, hr]

theorem logs_of_fails (h : Fails s fs f m) :
    (¬LastFailure s fs m → ((refreshed s fs).refresh s f).logs = [failureReport m]) ∧
    (LastFailure s fs m → ((refreshed s fs).refresh s f).logs = []) := by
  rw [← lastError_refreshed]
  have houtcome := outcome_refresh s fs f
  generalize (refreshed s fs).refresh s f = x at houtcome
  cases houtcome with
  | failed seen h' =>
    cases h.unique h'
    exact ⟨fun hnew => if_neg hnew, fun hagain => if_pos hagain⟩
  | stale hf _ => exact absurd h (hf m)
  | stopped _ hf _ _ _ => exact absurd h (hf m)
  | built _ hf _ _ _ => exact absurd h (hf m)

theorem logs_of_not_fails (h : ∀ m, ¬Fails s fs f m)
    (hfault : ((refreshed s fs).refresh s f).fault = none) :
    (Builds s fs f → ((refreshed s fs).refresh s f).logs.filter (·.level = .warning) =
      (refreshed s (fs ++ [f])).diagnostics.map fun d => .warning d.text) ∧
    (¬Builds s fs f → ((refreshed s fs).refresh s f).logs = []) := by
  rw [refreshed_append]
  have houtcome := outcome_refresh s fs f
  generalize (refreshed s fs).refresh s f = x at houtcome hfault
  cases houtcome with
  | failed _ h' => exact absurd h' (h _)
  | stale _ hb => exact ⟨fun hbuilds => absurd hbuilds hb, fun _ => rfl⟩
  | stopped => cases hfault
  | built _ _ hb _ _ => exact ⟨fun _ => filter_warning_notes _, fun hkept => absurd hb hkept⟩

end Effects

/-- A refresh keeps the rules in effect or puts the whole text of the file in their place: it does so
with the newest file so far that can be read, and keeps them where the file cannot be looked at, read
or decoded. A failure is reported unless it is for the reason reported last. All other warnings are
the diagnostics of the rules put into effect. -/
theorem refreshes_keep_or_install (s : RuleSource) (fs : List FileView) (f : FileView) :
    (Keeps (refreshed s fs) (refreshed s (fs ++ [f])) ∨
      ∃ text, f.read = .ok text ∧ Installs s text (refreshed s fs) (refreshed s (fs ++ [f]))) ∧
    (∀ n text, f.stamp? = some n → Newest fs n → f.read = .ok text →
      ((refreshed s fs).refresh s f).fault = none →
      Installs s text (refreshed s fs) (refreshed s (fs ++ [f]))) ∧
    ((∃ e, f.modified = .error e) ∨ (∃ e, f.read = .error e) →
      Keeps (refreshed s fs) (refreshed s (fs ++ [f]))) ∧
    (∀ m, Fails s fs f m →
      (¬LastFailure s fs m → ((refreshed s fs).refresh s f).logs = [failureReport m]) ∧
      (LastFailure s fs m → ((refreshed s fs).refresh s f).logs = [])) ∧
    ((∀ m, ¬Fails s fs f m) → ((refreshed s fs).refresh s f).fault = none →
      (Builds s fs f → ((refreshed s fs).refresh s f).logs.filter (·.level = .warning) =
        (refreshed s (fs ++ [f])).diagnostics.map fun d => .warning d.text) ∧
      (¬Builds s fs f → ((refreshed s fs).refresh s f).logs = [])) := by
  refine ⟨keeps_or_installs s fs f, ?_, ?_, ?_, ?_⟩
  · exact fun n text hn hnew hr hfault => installs_of_newest hn hnew hr hfault
  · exact fun hunreadable => keeps_of_not_builds (not_builds_of_unreadable hunreadable)
  · exact fun m hm => logs_of_fails hm
  · exact fun hf hfault => logs_of_not_fails hf hfault

theorem message_missing : standardSource.path ++ ": " ++ (SystemError.missing "rules").message =
    "rules: [Errno 2] No such file or directory: 'rules'" := by
  decide +kernel

theorem message_unreadable :
    standardSource.path ++ ": " ++ (ReadError.system ⟨13, "Permission denied", none⟩).message =
      "rules: [Errno 13] Permission denied" := by
  decide +kernel

def missingHistory : List FileView := [readableRules 1, .missing "rules"]

/-- Rules that are missing are reported once, rules that can then be looked at but not read are
reported again, and rules that can be read again are put into effect without a report. -/
theorem refreshes_keep_or_install_around_failures :
    (LastFailure standardSource missingHistory
        "rules: [Errno 2] No such file or directory: 'rules'" ∧
      ((refreshed standardSource missingHistory).refresh standardSource
        (.missing "rules")).logs = []) ∧
    (Fails standardSource missingHistory (unreadableRules 2)
        "rules: [Errno 13] Permission denied" ∧
      ((refreshed standardSource missingHistory).refresh standardSource
        (unreadableRules 2)).logs = [failureReport "rules: [Errno 13] Permission denied"] ∧
      Keeps (refreshed standardSource missingHistory)
        (refreshed standardSource failingHistory)) ∧
    (Installs standardSource "[]\n" (refreshed standardSource failingHistory)
        (refreshed standardSource (failingHistory ++ [readableRules 3])) ∧
      ((refreshed standardSource failingHistory).refresh standardSource
        (readableRules 3)).logs.filter (·.level = .warning) = []) := by
  refine ⟨?_, ?_, ?_⟩
  · have hlast : LastFailure standardSource missingHistory
        "rules: [Errno 2] No such file or directory: 'rules'" :=
      lastError_refreshed.mp (by decide +kernel)
    have hmissing : Fails standardSource missingHistory (.missing "rules")
        "rules: [Errno 2] No such file or directory: 'rules'" := by
      rw [← message_missing]
      exact .stat rfl
    exact ⟨hlast, ((refreshes_keep_or_install _ _ _).2.2.2.1 _ hmissing).2 hlast⟩
  · have hunreadable : Fails standardSource missingHistory (unreadableRules 2)
        "rules: [Errno 13] Permission denied" := by
      rw [← message_unreadable]
      exact .read (n := 2) rfl (by decide) rfl
    have hother : ¬LastFailure standardSource missingHistory
        "rules: [Errno 13] Permission denied" :=
      fun h => absurd (lastError_refreshed.mpr h) (by decide +kernel)
    obtain ⟨-, -, hkeeps, hlogs, -⟩ := refreshes_keep_or_install standardSource
      missingHistory (unreadableRules 2)
    exact ⟨hunreadable, (hlogs _ hunreadable).1 hother, hkeeps (.inr ⟨_, rfl⟩)⟩
  · have hbuilds : Builds standardSource failingHistory (readableRules 3) := by
      unfold Builds
      decide +kernel
    have hfault : ((refreshed standardSource failingHistory).refresh standardSource
        (readableRules 3)).fault = none := by decide +kernel
    obtain ⟨-, hinstalls, -, -, hlogs⟩ := refreshes_keep_or_install standardSource failingHistory
      (readableRules 3)
    refine ⟨hinstalls 3 _ rfl (by decide) (read_readableRules 3) hfault, ?_⟩
    exact ((hlogs (fun m hm => hm.not_builds hbuilds) hfault).1 hbuilds).trans (by decide +kernel)

/-- Rules with a definition outside of all sections. -/
def strayRules : FileView := ⟨.ok 1, .ok [75, 49, 32, 34, 97, 34, 10]⟩

/-- Rules that are put into effect can have warnings of their own. -/
theorem warning_of_rules_put_into_effect :
    Builds standardSource [] strayRules ∧
    ((initial standardSource).refresh standardSource strayRules).fault = none ∧
    (∀ m, ¬Fails standardSource [] strayRules m) ∧
    ((initial standardSource).refresh standardSource strayRules).logs =
      [.warning "line 1: need to start a translation section before defining K1"] := by
  have hbuilds : Builds standardSource [] strayRules := by
    unfold Builds
    decide +kernel
  exact ⟨hbuilds, by decide +kernel, fun m hm => hm.not_builds hbuilds, by decide +kernel⟩

end JogShuttle.RuleFile
