import JogShuttle.Proofs.Rule.Reading
import JogShuttle.Rule.File
import Mathlib.Data.List.Induction

/-!
# Refreshes of the rules

Over any sequence of refreshes the time recorded of the rule file is the newest at which it could be
looked at, whether or not it could be read then. So a readable file is put into effect exactly if it
is newer than at every refresh before: newer than at every build, and newer than at every refresh
that looked at it and could not make a table of it.
-/

set_option autoImplicit false

namespace JogShuttle

/-- The time that is recorded of a file that can be looked at. -/
def FileView.stamp? (f : FileView) : Option Int := f.modified.toOption.map RuleFile.stamp

/-- A file that can be read and compiled. -/
def FileView.Compiles (s : RuleSource) (f : FileView) : Prop :=
  ∃ text, f.read = .ok text ∧ ∃ t, (Rule.compile s.vocabulary s.debug text).result = .ok t

namespace RuleFile

variable {s : RuleSource} {r : RuleFile} {f g : FileView} {fs before after : List FileView}
variable {time n : Int} {text : String}

/-- What is remembered after refreshes at which the file stood as given. -/
def refreshed (s : RuleSource) (fs : List FileView) : RuleFile :=
  fs.foldl (fun r f => (r.refresh s f).file) (initial s)

theorem refreshed_append (s : RuleSource) (fs : List FileView) (f : FileView) :
    refreshed s (fs ++ [f]) = ((refreshed s fs).refresh s f).file := by
  simp [refreshed]

/-- A time that is newer than all those of a file that could be looked at. -/
def Newest (fs : List FileView) (time : Int) : Prop := ∀ g ∈ fs, ∀ n ∈ g.stamp?, n < time

instance (fs : List FileView) (time : Int) : Decidable (Newest fs time) :=
  inferInstanceAs (Decidable (∀ g ∈ fs, ∀ n ∈ g.stamp?, n < time))

theorem newest_append :
    Newest (fs ++ [f]) time ↔ Newest fs time ∧ ∀ n ∈ f.stamp?, n < time := by
  simp [Newest, or_imp, forall_and]

section Refresh

theorem build_of_ok {t : Table} (h : (Rule.compile s.vocabulary s.debug text).result = .ok t) :
    r.build s text =
      { file := { r with
          table := t
          diagnostics := (Rule.compile s.vocabulary s.debug text).diagnostics
          builds := r.builds + 1
          lastError := none }
        logs := (Rule.compile s.vocabulary s.debug text).notes.map Note.record } := by
  unfold build
  simp only [h]

theorem build_of_error {e : Fault}
    (h : (Rule.compile s.vocabulary s.debug text).result = .error e) :
    r.build s text =
      { file := r
        logs := (Rule.compile s.vocabulary s.debug text).notes.map Note.record
        fault := some e } := by
  unfold build
  simp only [h]

theorem refresh_of_stamp?_none (h : f.stamp? = none) :
    ∃ reason, r.refresh s f = r.fail s reason := by
  unfold FileView.stamp? at h
  unfold refresh
  cases hm : f.modified with
  | error e => exact ⟨_, rfl⟩
  | ok time =>
    rw [hm] at h
    cases h

theorem refresh_of_stamp? (h : f.stamp? = some n) :
    r.refresh s f = if r.isNews n then r.load s n f else { file := r } := by
  unfold FileView.stamp? at h
  unfold refresh
  cases hm : f.modified with
  | error e =>
    rw [hm] at h
    cases h
  | ok time =>
    rw [hm] at h
    cases h
    rfl

theorem seen_fail (r : RuleFile) (s : RuleSource) (reason : String) :
    (r.fail s reason).file.seen = r.seen := rfl

theorem seen_build (r : RuleFile) (s : RuleSource) (text : String) :
    (r.build s text).file.seen = r.seen := by
  cases h : (Rule.compile s.vocabulary s.debug text).result with
  | error e => rw [build_of_error h]
  | ok t => rw [build_of_ok h]

theorem load_of_read (h : f.read = .ok text) :
    r.load s n f = build { r with seen := some n } s text := by
  unfold load
  simp only [h]

/-- Reading the file records its time, whatever comes of it. -/
theorem seen_load (r : RuleFile) (s : RuleSource) (n : Int) (f : FileView) :
    (r.load s n f).file.seen = some n := by
  cases h : f.read with
  | error e =>
    unfold load
    simp only [h, seen_fail]
  | ok text => rw [load_of_read h, seen_build]

/-- A refresh keeps the rules in effect, or puts those of the file's text in their place. -/
theorem refresh_cases (r : RuleFile) (s : RuleSource) (f : FileView) :
    ((r.refresh s f).file.table = r.table ∧ (r.refresh s f).file.diagnostics = r.diagnostics ∧
      (r.refresh s f).file.builds = r.builds) ∨
    ∃ text, f.read = .ok text ∧
      (Rule.compile s.vocabulary s.debug text).result = .ok (r.refresh s f).file.table ∧
      (r.refresh s f).file.diagnostics =
        (Rule.compile s.vocabulary s.debug text).diagnostics ∧
      (r.refresh s f).file.builds = r.builds + 1 := by
  cases h : f.stamp? with
  | none =>
    obtain ⟨reason, hfail⟩ := refresh_of_stamp?_none (r := r) (s := s) h
    rw [hfail]
    exact .inl ⟨rfl, rfl, rfl⟩
  | some n =>
    rw [refresh_of_stamp? h]
    split
    · cases hread : f.read with
      | error e =>
        left
        simp only [load, hread]
        exact ⟨rfl, rfl, rfl⟩
      | ok text =>
        rw [load_of_read hread]
        cases hc : (Rule.compile s.vocabulary s.debug text).result with
        | error e =>
          left
          rw [build_of_error hc]
          exact ⟨rfl, rfl, rfl⟩
        | ok t =>
          right
          rw [build_of_ok hc]
          exact ⟨text, rfl, hc, rfl, rfl⟩
    · exact .inl ⟨rfl, rfl, rfl⟩

theorem isNews_iff : r.isNews time = true ↔ ∀ seen ∈ r.seen, seen < time := by
  unfold isNews
  cases r.seen <;> simp

theorem isNews_refresh : (r.refresh s f).file.isNews time = true ↔
    r.isNews time = true ∧ ∀ n ∈ f.stamp?, n < time := by
  cases h : f.stamp? with
  | none =>
    obtain ⟨reason, hfail⟩ := refresh_of_stamp?_none (r := r) (s := s) h
    rw [hfail, isNews_iff, isNews_iff, seen_fail]
    simp
  | some n =>
    rw [refresh_of_stamp? h]
    split
    -- a file that is loaded leaves its own time, which everything recorded before is older than
    · rename_i hnews
      rw [isNews_iff] at hnews
      rw [isNews_iff, isNews_iff, seen_load]
      constructor
      · intro htime
        have hn := htime n rfl
        exact ⟨fun seen hseen => Int.lt_trans (hnews seen hseen) hn, htime⟩
      · exact fun htime => htime.2
    · rename_i hold
      rw [isNews_iff] at hold
      obtain ⟨seen, hseen, hle⟩ : ∃ seen ∈ r.seen, n ≤ seen := by
        simpa using hold
      rw [isNews_iff]
      constructor
      · intro htime
        refine ⟨htime, fun m hm => ?_⟩
        cases hm
        exact Int.lt_of_le_of_lt hle (htime seen hseen)
      · exact fun htime => htime.1

/-- What counts as news is decided by every time at which the file could be looked at. -/
theorem isNews_refreshed : (refreshed s fs).isNews time = true ↔ Newest fs time := by
  induction fs using List.reverseRecOn with
  | nil => simp [refreshed, initial, isNews, Newest]
  | append_singleton fs f ih => rw [refreshed_append, isNews_refresh, ih, newest_append]

end Refresh

section Builds

theorem builds_fail (r : RuleFile) (s : RuleSource) (reason : String) :
    (r.fail s reason).file.builds = r.builds := rfl

/-- A refresh at which the rules of the file are put into effect. -/
def Builds (s : RuleSource) (before : List FileView) (g : FileView) : Prop :=
  (refreshed s before).builds < (refreshed s (before ++ [g])).builds

theorem builds_load_iff : r.builds < (r.load s n f).file.builds ↔ f.Compiles s := by
  unfold load FileView.Compiles
  cases f.read with
  | error e => simp [builds_fail]
  | ok text =>
    simp only [Except.ok.injEq, exists_eq_left']
    cases h : (Rule.compile s.vocabulary s.debug text).result with
    | error e => simp [build_of_error h]
    | ok t => simp [build_of_ok h]

theorem builds_iff : Builds s before g ↔ (∃ n ∈ g.stamp?, Newest before n) ∧ g.Compiles s := by
  unfold Builds
  rw [refreshed_append]
  cases h : g.stamp? with
  | none =>
    obtain ⟨reason, hfail⟩ := refresh_of_stamp?_none (r := refreshed s before) (s := s) h
    rw [hfail, builds_fail]
    simp
  | some n =>
    rw [refresh_of_stamp? h]
    by_cases hnews : (refreshed s before).isNews n = true
    · rw [if_pos hnews, builds_load_iff]
      have hnewest := isNews_refreshed.mp hnews
      simp [hnewest]
    · rw [if_neg hnews]
      have hold : ¬Newest before n := fun h => hnews (isNews_refreshed.mpr h)
      simp [hold]

/-- A time that is newer than the file was at every build. -/
def NewerThanBuilds (s : RuleSource) (fs : List FileView) (time : Int) : Prop :=
  ∀ before g after, fs = before ++ g :: after → Builds s before g → ∀ n ∈ g.stamp?, n < time

/-- A time that is newer than the file ever was without making a table. -/
def NewerThanFailures (s : RuleSource) (fs : List FileView) (time : Int) : Prop :=
  ∀ g ∈ fs, ¬g.Compiles s → ∀ n ∈ g.stamp?, n < time

/-- Where a file could be looked at, it was the newest so far at some refresh and no older. -/
theorem exists_newest (hg : g ∈ fs) (hn : n ∈ g.stamp?) :
    ∃ before h after, fs = before ++ h :: after ∧ ∃ m ∈ h.stamp?, Newest before m ∧ n ≤ m := by
  induction fs using List.reverseRecOn generalizing g n with
  | nil => exact absurd hg List.not_mem_nil
  | append_singleton fs f ih =>
    have hearlier : ∀ {g n}, g ∈ fs → n ∈ g.stamp? → ∃ before h after,
        fs ++ [f] = before ++ h :: after ∧ ∃ m ∈ h.stamp?, Newest before m ∧ n ≤ m := by
      intro g n hg hn
      obtain ⟨before, h, after, rfl, hm⟩ := ih hg hn
      exact ⟨before, h, after ++ [f], by simp, hm⟩
    rcases List.mem_append.mp hg with hg | hg
    · exact hearlier hg hn
    · rw [List.mem_singleton.mp hg] at hn
      by_cases hnew : Newest fs n
      · exact ⟨fs, f, [], rfl, n, hn, hnew, Int.le_refl n⟩
      · -- something before was at least as new
        obtain ⟨g', hg', m, hm, hle⟩ : ∃ g' ∈ fs, ∃ m ∈ g'.stamp?, n ≤ m := by
          simpa [Newest] using hnew
        obtain ⟨before, h, after, hfs, k, hk, hnewest, hmk⟩ := hearlier hg' hm
        exact ⟨before, h, after, hfs, k, hk, hnewest, Int.le_trans hle hmk⟩

theorem newest_iff : Newest fs time ↔ NewerThanBuilds s fs time ∧ NewerThanFailures s fs time := by
  constructor
  · intro h
    refine ⟨?_, fun g hg _ => h g hg⟩
    rintro before g after rfl _
    exact h g (by simp)
  · rintro ⟨hbuilds, hfailures⟩ g hg n hn
    obtain ⟨before, h, after, hfs, m, hm, hnewest, hle⟩ := exists_newest hg hn
    refine Int.lt_of_le_of_lt hle ?_
    -- the file was tried at `h`, so it was put into effect then or could not be
    by_cases hc : h.Compiles s
    · exact hbuilds before h after hfs (builds_iff.mpr ⟨⟨m, hm, hnewest⟩, hc⟩) m hm
    · exact hfailures h (by simp [hfs]) hc m hm

end Builds

/-- A readable file is put into effect if it is newer than at every build and newer than at every
refresh that looked at it and could not make a table of it; otherwise nothing changes. Refreshes that
could not look at the file do not count. -/
theorem readable_file_loaded_unless_attempt_failed (s : RuleSource) (fs : List FileView)
    (f : FileView) (time : Int) (text : String) (htime : f.stamp? = some time)
    (htext : f.read = .ok text) :
    (NewerThanBuilds s fs time ∧ NewerThanFailures s fs time →
      (∀ t, (Rule.compile s.vocabulary s.debug text).result = .ok t →
        (refreshed s (fs ++ [f])).table = t ∧
        (refreshed s (fs ++ [f])).diagnostics =
          (Rule.compile s.vocabulary s.debug text).diagnostics ∧
        (refreshed s (fs ++ [f])).builds = (refreshed s fs).builds + 1 ∧
        ((refreshed s fs).refresh s f).fault = none) ∧
      (∀ e, (Rule.compile s.vocabulary s.debug text).result = .error e →
        ((refreshed s fs).refresh s f).fault = some e ∧
        (refreshed s (fs ++ [f])).table = (refreshed s fs).table)) ∧
    (¬(NewerThanBuilds s fs time ∧ NewerThanFailures s fs time) →
      (refreshed s fs).refresh s f = { file := refreshed s fs }) := by
  rw [← newest_iff, ← isNews_refreshed (s := s), refreshed_append, refresh_of_stamp? htime]
  refine ⟨?_, fun hold => by rw [if_neg hold]⟩
  intro hnews
  rw [if_pos hnews, load_of_read htext]
  refine ⟨fun t ht => ?_, fun e he => ?_⟩
  · rw [build_of_ok ht]
    exact ⟨rfl, rfl, rfl, rfl⟩
  · rw [build_of_error he]
    exact ⟨rfl, rfl⟩

/-- Rules of one section without a pattern, modified at the given time. -/
def readableRules (time : Int) : FileView := ⟨.ok time, .ok [91, 93, 10]⟩

theorem read_readableRules (time : Int) : (readableRules time).read = .ok "[]\n" := by
  have hdecode : Text.Utf8.decode [91, 93, 10] = .ok ['[', ']', '\n'] := by
    simp [Text.Utf8.decode, Text.Utf8.decodeFrom, Text.Utf8.piece, Text.Utf8.lead?,
      Text.Utf8.continueFrom]
  simp [FileView.read, readableRules, Except.mapError, bind, Except.bind, pure, Except.pure, hdecode,
    Text.unifyNewlines]

/-- Rules that may be looked at but not read. -/
def unreadableRules (time : Int) : FileView := ⟨.ok time, .error ⟨13, "Permission denied", none⟩⟩

def standardSource : RuleSource := ⟨.standard, "rules", {}⟩

theorem exists_table_of_readableRules :
    ∃ t, (Rule.compile .standard {} "[]\n").result = .ok t ∧ t.sections.map (·.name) = [""] := by
  obtain ⟨t, ht, hp⟩ := Reading.exists_of_any (r := Rule.compile .standard {} "[]\n")
    (p := fun t => t.sections.map (·.name) == [""]) (by decide +kernel)
  exact ⟨t, ht, by simpa using hp⟩

/-- Rules that were loaded once, then were missing, and then could not be read. -/
def failingHistory : List FileView := [readableRules 1, .missing "rules", unreadableRules 2]

theorem readable_file_loaded_after_failures :
    (readableRules 3).stamp? = some 3 ∧ (readableRules 3).read = .ok "[]\n" ∧
    (refreshed standardSource failingHistory).builds = 1 ∧
    ∃ t, (Rule.compile .standard {} "[]\n").result = .ok t ∧
      (refreshed standardSource (failingHistory ++ [readableRules 3])).table = t ∧
      (refreshed standardSource (failingHistory ++ [readableRules 3])).builds = 2 := by
  have hbuilds : (refreshed standardSource failingHistory).builds = 1 := by decide +kernel
  have hnewest : Newest failingHistory 3 := by decide
  obtain ⟨t, ht, _⟩ := exists_table_of_readableRules
  obtain ⟨hload, _⟩ := readable_file_loaded_unless_attempt_failed standardSource failingHistory
    (readableRules 3) 3 "[]\n" rfl (read_readableRules 3)
  obtain ⟨htable, _, hcount, _⟩ := (hload (newest_iff.mp hnewest)).1 t ht
  rw [hbuilds] at hcount
  exact ⟨rfl, read_readableRules 3, hbuilds, t, ht, htable, hcount⟩

/-- Rules that become readable without a new modification time are never put into effect. -/
theorem readable_file_not_loaded_after_failure :
    (refreshed standardSource [unreadableRules 1]).builds = 0 ∧
    (readableRules 1).read = .ok "[]\n" ∧
    ∃ t, (Rule.compile .standard {} "[]\n").result = .ok t ∧
      (refreshed standardSource [unreadableRules 1, readableRules 1]).table ≠ t := by
  obtain ⟨t, ht, hsections⟩ := exists_table_of_readableRules
  refine ⟨by decide +kernel, read_readableRules 1, t, ht, ?_⟩
  intro htable
  have hnone : (refreshed standardSource [unreadableRules 1, readableRules 1]).table.sections.length
      = 0 := by
    decide +kernel
  rw [htable] at hnone
  rw [List.length_eq_zero_iff.mp hnone] at hsections
  cases hsections

end RuleFile

end JogShuttle
