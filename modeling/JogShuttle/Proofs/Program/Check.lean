import JogShuttle.Program.Check
import JogShuttle.Proofs.Controller.Tracing

/-!
# What a check tells

A check compiles a rule file without tracing and prints every problem and every section. The first
refresh of the same file finds the same problems and puts the same sections into effect, whatever is
traced. Every section is listed with all slots that it binds, each once and in the order of listings.
-/

set_option autoImplicit false

namespace JogShuttle

section Listing

variable {s : Section} {slot : Slot} {ss : List Stroke}

theorem Section.mem_listing :
    (slot, ss) ∈ s.listing ↔ slot ∈ Slot.all ∧ s.binding slot = some ss := by
  simp [listing]

theorem Section.keys_listing (s : Section) :
    s.listing.map Prod.fst = Slot.all.filter fun slot => (s.binding slot).isSome := by
  unfold listing
  rw [List.map_filterMap, ← List.filterMap_eq_filter]
  refine List.filterMap_congr fun slot _ => ?_
  cases h : s.binding slot <;> simp [Option.guard, h]

/-- The listing of a section holds just its bindings, each once and in the order of slots, and
every slot in it sends something. -/
structure Section.ListedInFull (s : Section) : Prop where
  perm : s.listing.Perm s.bindings
  ordered : (s.listing.map Prod.fst).Sublist Slot.all
  nonempty : ∀ e ∈ s.listing, e.2 ≠ []

theorem Section.perm_listing (hs : s.Distinct)
    (hall : ∀ slot ss, s.binding slot = some ss → slot ∈ Slot.all) :
    s.listing.Perm s.bindings := by
  have hkeys : (s.listing.map Prod.fst).Nodup := by
    rw [keys_listing]
    exact Slot.all_nodup.filter _
  rw [List.perm_ext_iff_of_nodup hkeys.of_map (List.Nodup.of_map _ hs)]
  rintro ⟨slot, ss⟩
  rw [mem_listing]
  constructor
  · rintro ⟨-, h⟩
    exact mem_of_lookup h
  · intro h
    have hbinding : s.binding slot = some ss := lookup_of_mem hs h
    exact ⟨hall slot ss hbinding, hbinding⟩

/-- No slot is bound to nothing. -/
theorem Rule.SectionOf.ne_nil {v : Vocabulary} {b : Rule.Block} (h : Rule.SectionOf v b s)
    (hs : s.binding slot = some ss) : ss ≠ [] := by
  have hbound := h.bound slot
  rw [hs] at hbound
  obtain ⟨_, _, _, _, _, _, _, _, _, hne⟩ := hbound.exists_built
  exact hne

theorem Section.listedInFull_of_compile {v : Vocabulary} {debug : DebugFlags} {text : String}
    {t : Table} (h : (Rule.compile v debug text).result = .ok t) :
    ∀ s ∈ t.sections, s.ListedInFull := by
  intro s hs
  have htable := Rule.tableOf_compile h
  obtain ⟨b, -, -, hsection⟩ := htable.exists_block hs
  refine ⟨perm_listing (htable.distinct s hs) fun _ _ => hsection.mem_slots, ?_, ?_⟩
  · rw [keys_listing]
    exact List.filter_sublist
  · rintro ⟨slot, ss⟩ he
    exact hsection.ne_nil (mem_listing.mp he).2

end Listing

namespace Check

variable {source : RuleSource} {f : FileView} {text : String} {time : Int} {t : Table}

/-- A text that compiles does so without tracing, to the same table but for its flags. -/
theorem exists_untraced {v : Vocabulary} {debug : DebugFlags}
    (h : (Rule.compile v debug text).result = .ok t) :
    ∃ u, (Rule.compile v {} text).result = .ok u ∧ t = { u with debug := debug.union u.debug } := by
  rw [Rule.result_compile_debug] at h
  cases hu : (Rule.compile v {} text).result with
  | error e =>
    rw [hu] at h
    cases h
  | ok u =>
    rw [hu] at h
    exact ⟨u, rfl, (Except.ok.inj h).symm⟩

theorem run_of_ok {v : Vocabulary} (path : String) (quiet : Bool) (hread : f.read = .ok text)
    (ht : (Rule.compile v {} text).result = .ok t) :
    run v path quiet f = .ok (report v path quiet (Rule.compile v {} text) t) := by
  unfold run
  simp only [hread, ht]

/-- The first refresh loads a file that can be looked at, whatever its time. -/
theorem first_refresh (source : RuleSource) (htime : f.modified = .ok time)
    (hread : f.read = .ok text) :
    (RuleFile.initial source).refresh source f =
      RuleFile.build { RuleFile.initial source with seen := some (RuleFile.stamp time) } source
        text := by
  rw [RuleFile.refresh, htime]
  exact RuleFile.load_of_read hread

/-- A check of a file that can be read and compiled prints the diagnostics that the first refresh of
the file leaves, in order, and fails exactly if there are any. Unless it is quiet, it lists the
sections of the table that the refresh puts into effect, in order, each with all its bindings in the
order of slots and with nothing else. -/
theorem check_tells_first_refresh (source : RuleSource) (path : String) (quiet : Bool)
    (f : FileView) (time : Int) (htime : f.modified = .ok time) (hf : f.Compiles source) :
    ∃ told, run source.vocabulary path quiet f = .ok told ∧
      ((RuleFile.initial source).refresh source f).fault = none ∧
      ((RuleFile.initial source).refresh source f).file.builds = 1 ∧
      told.err = ((RuleFile.initial source).refresh source f).file.diagnostics.map
        (diagnosticLine path) ∧
      told.status =
        (if ((RuleFile.initial source).refresh source f).file.diagnostics = [] then 0 else 1) ∧
      told.out = (if quiet then [] else
        ((RuleFile.initial source).refresh source f).file.table.sections.flatMap fun s =>
          sectionHeading s :: s.listing.map (slotLine source.vocabulary.keysyms)) ∧
      ∀ s ∈ ((RuleFile.initial source).refresh source f).file.table.sections, s.ListedInFull := by
  obtain ⟨text, hread, t, ht⟩ := hf
  obtain ⟨u, hu, rfl⟩ := exists_untraced ht
  have hrefresh := (first_refresh source htime hread).trans (RuleFile.build_of_ok ht)
  have hdiagnostics := (Rule.diagnostics_of_ok ht).trans (Rule.diagnostics_of_ok hu).symm
  rw [hrefresh]
  refine ⟨_, run_of_ok path quiet hread hu, rfl, rfl, ?_, ?_, ?_, ?_⟩
  · exact congrArg (List.map (diagnosticLine path)) hdiagnostics.symm
  · rw [hdiagnostics]
    exact if_congr List.isEmpty_iff rfl rfl
  · rfl
  · exact fun s hs => Section.listedInFull_of_compile hu s hs

/-- Slots bound out of the order of listings, and one of them defined twice. -/
def disorderedText : String := "[A] foo\nS3 \"b\"\nK1 \"a\"\nK1 \"c\"\n[]\nDEBUG_KEYS\n"

def disorderedRules : FileView := Controller.plainRules disorderedText 7

theorem compiles_disorderedRules : disorderedRules.Compiles Controller.tracingSetup.source := by
  have hread : disorderedRules.read.toOption = some disorderedText := by decide +kernel
  obtain ⟨t, ht, -⟩ := Reading.exists_of_any
    (r := Rule.compile .standard ⟨true, true, true⟩ disorderedText) (p := fun _ => true)
    (by decide +kernel)
  cases h : disorderedRules.read with
  | error e =>
    rw [h] at hread
    cases hread
  | ok text =>
    rw [h] at hread
    cases hread
    exact ⟨disorderedText, h, t, ht⟩

theorem check_tells_first_refresh_of_disordered :
    disorderedRules.Compiles Controller.tracingSetup.source ∧
    ∃ told, run .standard "rules" false disorderedRules = .ok told ∧
      (told.status, told.err, told.out) =
        (1, ["rules: line 4 [A]K1: can't redefine key"],
          ["[A] foo", "    K1[D]: XK_a/D", "    K1[U]: XK_a/U", "    S3[]: XK_b/D XK_b/U",
            "[] (default)"]) ∧
      told.err = ((RuleFile.initial Controller.tracingSetup.source).refresh
        Controller.tracingSetup.source disorderedRules).file.diagnostics.map
          (diagnosticLine "rules") := by
  have hout : (run .standard "rules" false disorderedRules).toOption.map
      (fun told => (told.status, told.err, told.out)) =
        some (1, ["rules: line 4 [A]K1: can't redefine key"],
          ["[A] foo", "    K1[D]: XK_a/D", "    K1[U]: XK_a/U", "    S3[]: XK_b/D XK_b/U",
            "[] (default)"]) := by decide +kernel
  obtain ⟨told, hrun, -, -, herr, -⟩ := check_tells_first_refresh Controller.tracingSetup.source
    "rules" false disorderedRules 7 rfl compiles_disorderedRules
  have hrun' : run .standard "rules" false disorderedRules = .ok told := hrun
  rw [hrun'] at hout
  exact ⟨compiles_disorderedRules, told, hrun', Option.some.inj hout, herr⟩

end Check

end JogShuttle
