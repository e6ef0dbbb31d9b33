import JogShuttle.Proofs.Rule.Joined

/-!
# Problems of texts put together

What a text is told about itself is told of it behind another text as well, with higher line
numbers. There is one thing more to tell: the first default section of the second text replaces that
of the first.
-/

set_option autoImplicit false

namespace JogShuttle

def Diagnostic.shift (k : Nat) (d : Diagnostic) : Diagnostic := { d with line := d.line + k }

namespace Rule

open Reading

section Reports

variable {α : Type} {report report' : List α → α → List Diagnostic} {above above' as : List α}

theorem reports_append (above as bs : List α) : reports report above (as ++ bs) =
    reports report above as ++ reports report (above ++ as) bs := by
  induction as generalizing above with
  | nil => rw [List.append_nil, List.nil_append, reports, List.nil_append]
  | cons a as ih =>
    rw [List.cons_append, reports, ih, reports, List.append_assoc, List.append_assoc,
      List.singleton_append]

theorem reports_map (g : α → α) (h : Diagnostic → Diagnostic)
    (heq : ∀ front a back, as = front ++ a :: back →
      report' (above' ++ front.map g) (g a) = (report (above ++ front) a).map h) :
    reports report' above' (as.map g) = (reports report above as).map h := by
  induction as generalizing above above' with
  | nil => rfl
  | cons a as ih =>
    have hfirst := heq [] a as rfl
    rw [List.map_nil, List.append_nil, List.append_nil] at hfirst
    rw [List.map_cons, reports, reports, List.map_append, hfirst, ih]
    rintro front b back rfl
    have hnext := heq (a :: front) b back rfl
    rwa [List.map_cons, List.append_cons above', List.append_cons above] at hnext

theorem exists_of_mem_reports {d : Diagnostic} (h : d ∈ reports report above as) :
    ∃ a ∈ as, ∃ front, d ∈ report front a := by
  induction as generalizing above with
  | nil => cases h
  | cons a as ih =>
    rw [reports, List.mem_append] at h
    rcases h with h | h
    · exact ⟨a, List.mem_cons_self, above, h⟩
    · obtain ⟨b, hb, front, hd⟩ := ih h
      exact ⟨b, List.mem_cons_of_mem a hb, front, hd⟩

end Reports

section Shift

variable {v : Vocabulary} {k : Nat} {l : Line} {b : Block} {as bs : List Block}

theorem lineDiagnostics_shift (name : String) (above : List Line) (l : Line) :
    Line.diagnostics v name (above.map (Line.shift k)) (l.shift k) =
      (Line.diagnostics v name above l).map (Diagnostic.shift k) := by
  have hsubject : (l.shift k).subject? = l.subject? := rfl
  have hdefinition : (l.shift k).definition? = l.definition? := rfl
  unfold Line.diagnostics
  rw [hsubject, hdefinition]
  cases l.subject? with
  | none => rfl
  | some first =>
    cases l.definition? with
    | none => rfl
    | some p =>
      have hany : (above.map (Line.shift k)).any (fun l' => l'.definition?.any (·.1 == p.1)) =
          above.any fun l' => l'.definition?.any (·.1 == p.1) := List.any_map
      simp only [hany]
      split
      · rfl
      · rw [List.map_map]
        rfl

/-- The diagnostics of the lines under a header. -/
def Block.bodyDiagnostics (v : Vocabulary) (b : Block) : List Diagnostic :=
  if b.header.Accepted v then reports (Line.diagnostics v b.header.title) [] b.body else []

theorem blockDiagnostics_eq (v : Vocabulary) (above : List Block) (b : Block) :
    Block.diagnostics v above b =
      b.header.headerDiagnostics v (lastDefault? above) ++ b.bodyDiagnostics v := rfl

theorem bodyDiagnostics_shift (v : Vocabulary) (k : Nat) (b : Block) :
    (b.shift k).bodyDiagnostics v = (b.bodyDiagnostics v).map (Diagnostic.shift k) := by
  have haccepted : (b.shift k).header.Accepted v ↔ b.header.Accepted v := Iff.rfl
  unfold Block.bodyDiagnostics
  simp only [haccepted]
  split
  · exact reports_map _ _ fun front l _ _ => lineDiagnostics_shift b.header.title front l
  · rfl

theorem headerDiagnostics_shift (previous : Option String) :
    (l.shift k).headerDiagnostics v previous =
      (l.headerDiagnostics v previous).map (Diagnostic.shift k) := by
  have htext : (l.shift k).text = l.text := rfl
  have hpattern : (l.shift k).patternText = l.patternText := rfl
  unfold Line.headerDiagnostics
  rw [htext, hpattern]
  split
  · rfl
  · split
    · cases previous <;> rfl
    · cases v.readPattern l.patternText with
      | ok pattern => rfl
      | error e => cases e <;> rfl

/-- Only a header of a default section looks at the one before. -/
theorem headerDiagnostics_congr (h : ¬l.OpensDefault) (previous previous' : Option String) :
    l.headerDiagnostics v previous = l.headerDiagnostics v previous' := by
  unfold Line.headerDiagnostics
  split
  · rfl
  · rename_i hc
    split
    · rename_i he
      exact absurd ⟨by simpa using hc, he⟩ h
    · rfl

theorem headerDiagnostics_of_opensDefault (h : l.OpensDefault) (previous : Option String) :
    l.headerDiagnostics v previous = previous.toList.map fun old =>
      ⟨l.number, .replacesDefault l.title old, none, none⟩ := by
  unfold Line.headerDiagnostics
  rw [if_neg (not_not_intro h.1), if_pos h.2]

/-- A block reports the same further down, unless it is told of another default section. -/
theorem blockDiagnostics_shift (h : lastDefault? bs = lastDefault? as ∨ ¬b.header.OpensDefault) :
    Block.diagnostics v bs (b.shift k) = (Block.diagnostics v as b).map (Diagnostic.shift k) := by
  have hheader : (b.header.shift k).headerDiagnostics v (lastDefault? bs) =
      (b.header.headerDiagnostics v (lastDefault? as)).map (Diagnostic.shift k) := by
    rw [headerDiagnostics_shift]
    rcases h with h | h
    · rw [h]
    · rw [headerDiagnostics_congr h]
  rw [blockDiagnostics_eq, blockDiagnostics_eq, bodyDiagnostics_shift, List.map_append, ← hheader]
  rfl

theorem lastDefault?_shift (k : Nat) (bs : List Block) :
    lastDefault? (bs.map (Block.shift k)) = lastDefault? bs := by
  unfold lastDefault?
  rw [List.filter_map, List.getLast?_map, Option.map_map]
  rfl

theorem lastDefault?_blocks (as bs : List Block) :
    lastDefault? (as ++ bs) = (lastDefault? bs).or (lastDefault? as) := by
  unfold lastDefault?
  rw [List.filter_append, List.getLast?_append]
  cases (bs.filter fun b => b.header.OpensDefault).getLast? <;> rfl

theorem lastDefault?_eq_none_iff : lastDefault? bs = none ↔ ∀ b ∈ bs, ¬b.header.OpensDefault := by
  simp [lastDefault?]

/-- Without a default section in both texts there is nothing more to tell. -/
theorem blockReports_shift (h : lastDefault? as = none ∨ lastDefault? bs = none) :
    reports (Block.diagnostics v) as (bs.map (Block.shift k)) =
      (reports (Block.diagnostics v) [] bs).map (Diagnostic.shift k) := by
  refine reports_map _ _ ?_
  rintro front b back rfl
  refine blockDiagnostics_shift ?_
  rcases h with h | h
  · left
    rw [lastDefault?_blocks, lastDefault?_shift, h, Option.or_none, List.nil_append]
  · right
    exact lastDefault?_eq_none_iff.mp h b (by simp)

/-- Behind a text with a default section, the first default section is told to replace it. -/
theorem blockReports_shift_of_default {front back : List Block} {old : String}
    (has : lastDefault? as = some old) (hfront : lastDefault? front = none)
    (hb : b.header.OpensDefault) :
    reports (Block.diagnostics v) as ((front ++ b :: back).map (Block.shift k)) =
      (reports (Block.diagnostics v) [] front).map (Diagnostic.shift k) ++
        ⟨b.header.number + k, .replacesDefault b.header.title old, none, none⟩ ::
          (reports (Block.diagnostics v) front (b :: back)).map (Diagnostic.shift k) := by
  have hold : lastDefault? (as ++ front.map (Block.shift k)) = some old := by
    rw [lastDefault?_blocks, lastDefault?_shift, hfront, has, Option.none_or]
  have hb' : (b.shift k).header.OpensDefault := hb
  have hfirst : Block.diagnostics v (as ++ front.map (Block.shift k)) (b.shift k) =
      ⟨b.header.number + k, .replacesDefault b.header.title old, none, none⟩ ::
        (Block.diagnostics v front b).map (Diagnostic.shift k) := by
    rw [blockDiagnostics_eq, blockDiagnostics_eq, bodyDiagnostics_shift, hold, hfront,
      headerDiagnostics_of_opensDefault hb, headerDiagnostics_of_opensDefault hb']
    rfl
  have hrest : reports (Block.diagnostics v) (as ++ front.map (Block.shift k) ++ [b.shift k])
      (back.map (Block.shift k)) =
        (reports (Block.diagnostics v) (front ++ [b]) back).map (Diagnostic.shift k) := by
    refine reports_map _ _ ?_
    rintro more c rest rfl
    -- from here on both know the same last default section
    refine blockDiagnostics_shift (Or.inl ?_)
    rw [lastDefault?_blocks _ (more.map _), lastDefault?_blocks _ more, lastDefault?_append,
      lastDefault?_append, if_pos hb, if_pos hb', lastDefault?_shift]
    rfl
  rw [List.map_append, reports_append, blockReports_shift (Or.inr hfront), List.map_cons, reports,
    hfirst, hrest, reports, List.map_append, List.cons_append]

end Shift

section Places

variable {v : Vocabulary} {d : Diagnostic} {l : Line} {b : Block} {bs : List Block}
variable {ls : List Line}

def Block.lines (b : Block) : List Line := b.header :: b.body

theorem blocksOf_lines (ls : List Line) :
    (blocksOf ls).1 ++ (blocksOf ls).2.flatMap Block.lines = ls := by
  induction ls with
  | nil => rfl
  | cons l ls ih =>
    rw [blocksOf]
    cases l.isHeader <;> simp [Block.lines, ih]

theorem blocksOf_headers (ls : List Line) :
    (blocksOf ls).2.map (·.header) = ls.filter Line.isHeader := by
  induction ls with
  | nil => rfl
  | cons l ls ih =>
    rw [blocksOf]
    cases hl : l.isHeader <;> simp [hl, ih]

theorem numbered_pairwise (n : Nat) (texts : List (List Char)) :
    (numbered n texts).Pairwise (·.number < ·.number) ∧ ∀ l ∈ numbered n texts, n ≤ l.number := by
  induction texts generalizing n with
  | nil => simp [numbered]
  | cons text texts ih =>
    obtain ⟨hsorted, hle⟩ := ih (n + 1)
    rw [numbered]
    refine ⟨List.pairwise_cons.mpr ⟨fun l hl => hle l hl, hsorted⟩, ?_⟩
    exact List.forall_mem_cons.mpr ⟨Nat.le_refl n, fun l hl => Nat.le_of_succ_le (hle l hl)⟩

theorem line_of_mem_lineDiagnostics {name : String} {above : List Line}
    (h : d ∈ Line.diagnostics v name above l) : d.line = l.number := by
  unfold Line.diagnostics at h
  split at h
  · cases h
  · split at h
    · rw [List.mem_singleton.mp h]
    · split at h
      · rw [List.mem_singleton.mp h]
      · obtain ⟨problem, _, rfl⟩ := List.mem_map.mp h
        rfl

theorem line_of_mem_strayDiagnostics (h : d ∈ l.strayDiagnostics) : d.line = l.number := by
  obtain ⟨first, -, rfl⟩ := List.mem_map.mp h
  rfl

theorem line_of_mem_headerDiagnostics {previous : Option String}
    (h : d ∈ l.headerDiagnostics v previous) : d.line = l.number := by
  unfold Line.headerDiagnostics at h
  split at h
  · rw [List.mem_singleton.mp h]
  · split at h
    · obtain ⟨old, _, rfl⟩ := List.mem_map.mp h
      rfl
    · split at h
      · rw [List.mem_singleton.mp h]
      · cases h

theorem exists_line_of_mem_body (h : d ∈ b.bodyDiagnostics v) :
    ∃ l ∈ b.body, d.line = l.number := by
  unfold Block.bodyDiagnostics at h
  split at h
  · obtain ⟨l, hl, above, hd⟩ := exists_of_mem_reports h
    exact ⟨l, hl, line_of_mem_lineDiagnostics hd⟩
  · cases h

theorem exists_line_of_mem_block {above : List Block} (h : d ∈ Block.diagnostics v above b) :
    ∃ l ∈ b.lines, d.line = l.number := by
  rw [blockDiagnostics_eq] at h
  rcases List.mem_append.mp h with h | h
  · exact ⟨b.header, List.mem_cons_self, line_of_mem_headerDiagnostics h⟩
  · obtain ⟨l, hl, hd⟩ := exists_line_of_mem_body h
    exact ⟨l, List.mem_cons_of_mem _ hl, hd⟩

theorem exists_line_of_mem_blocks {above : List Block}
    (h : d ∈ reports (Block.diagnostics v) above bs) :
    ∃ l ∈ bs.flatMap Block.lines, d.line = l.number := by
  obtain ⟨b, hb, front, hd⟩ := exists_of_mem_reports h
  obtain ⟨l, hl, hline⟩ := exists_line_of_mem_block hd
  exact ⟨l, List.mem_flatMap.mpr ⟨b, hb, hl⟩, hline⟩

theorem line_lt_of_mem_blocks {above front back : List Block}
    (hsorted : ((front ++ b :: back).flatMap Block.lines).Pairwise (·.number < ·.number))
    (h : d ∈ reports (Block.diagnostics v) above front) : d.line < b.header.number := by
  obtain ⟨l, hl, hline⟩ := exists_line_of_mem_blocks h
  rw [List.flatMap_append, List.flatMap_cons] at hsorted
  rw [hline]
  exact (List.pairwise_append.mp hsorted).2.2 l hl b.header (by simp [Block.lines])

/-- The header of a first default section reports nothing itself. -/
theorem lt_line_of_mem_blocks {front back : List Block}
    (hsorted : ((front ++ b :: back).flatMap Block.lines).Pairwise (·.number < ·.number))
    (hfront : lastDefault? front = none) (hb : b.header.OpensDefault)
    (h : d ∈ reports (Block.diagnostics v) front (b :: back)) : b.header.number < d.line := by
  rw [reports, blockDiagnostics_eq, hfront, headerDiagnostics_of_opensDefault hb] at h
  have hbelow : ∃ l ∈ b.body ++ back.flatMap Block.lines, d.line = l.number := by
    rcases List.mem_append.mp h with h | h
    · obtain ⟨l, hl, hline⟩ := exists_line_of_mem_body h
      exact ⟨l, List.mem_append_left _ hl, hline⟩
    · obtain ⟨l, hl, hline⟩ := exists_line_of_mem_blocks h
      exact ⟨l, List.mem_append_right _ hl, hline⟩
  obtain ⟨l, hl, hline⟩ := hbelow
  rw [List.flatMap_append, List.flatMap_cons] at hsorted
  rw [hline]
  exact (List.pairwise_cons.mp (List.pairwise_append.mp hsorted).2.1).1 l hl

end Places

section Named

variable {v : Vocabulary} {t t' : Table} {bs more : List Block} {debug : DebugFlags}
variable {text : String}

theorem Named.blocks (h : Named bs t) (hmore : ∀ b ∈ more, b.header.isHeader = true)
    (ht : (compileBlocks v t more).result = .ok t') : Named (bs ++ more) t' := by
  induction more generalizing bs t with
  | nil =>
    cases ht
    rwa [List.append_nil]
  | cons b more ih =>
    obtain ⟨t₁, ht₁, ht⟩ := result_bind_ok_iff.mp ht
    have h₁ := h.block (hmore b List.mem_cons_self) ht₁
    rw [List.append_cons]
    exact ih h₁ (fun c hc => hmore c (List.mem_cons_of_mem b hc)) ht

theorem isHeader_of_mem_blocks {ls : List Line} :
    ∀ b ∈ (blocksOf ls).2, b.header.isHeader = true := by
  intro b hb
  rw [← headed_eq] at hb
  exact isHeader_of_mem_headed hb

theorem named_compile (h : (compile v debug text).result = .ok t) :
    Named (blocksOf (linesOf text)).2 t := by
  obtain ⟨d, _, ht⟩ := result_compile_iff.mp h
  have hempty : Named [] { debug := d.debug } := ⟨by simp [IsLastDefault], rfl⟩
  exact hempty.blocks isHeader_of_mem_blocks ht

theorem Named.exists_default (h : Named bs t) (hd : t.default ≠ none) :
    ∃ old, t.sectionAt t.default = some old ∧ lastDefault? bs = some old.name := by
  have hlast := h.default
  rw [← h.name]
  cases hi : t.default with
  | none => exact absurd hi hd
  | some i =>
    rw [hi] at hlast
    obtain ⟨before, d, after, hss, rfl, _⟩ := hlast
    exact ⟨d, by simp [Table.sectionAt, hss], by simp [Table.sectionAt, hss]⟩

theorem Named.lastDefault?_eq_none_iff (h : Named bs t) :
    lastDefault? bs = none ↔ t.default = none := by
  constructor
  · intro hnone
    by_contra hd
    obtain ⟨old, _, hold⟩ := h.exists_default hd
    rw [hnone] at hold
    cases hold
  · intro hd
    rw [← h.name, hd]
    rfl

theorem diagnostics_compile (h : (compile v debug text).result = .ok t) :
    (compile v debug text).diagnostics =
      (blocksOf (linesOf text)).1.flatMap Line.strayDiagnostics ++
        reports (Block.diagnostics v) [] (blocksOf (linesOf text)).2 := by
  rw [diagnostics_of_ok h, blocksOf_eq]
  rfl

end Named

section Texts

variable {v : Vocabulary} {debug : DebugFlags} {a b : String} {ta tb : Table}

theorem diagnostics_compile_append (ha : (compile v debug a).result = .ok ta)
    (hb : (compile v debug b).result = .ok tb) (hends : Text.EndsLine a.toList)
    (hbegins : BeginsWithHeader b) :
    (compile v debug (a ++ b)).diagnostics = (compile v debug a).diagnostics ++
      reports (Block.diagnostics v) (blocksOf (linesOf a)).2
        ((blocksOf (linesOf b)).2.map (Block.shift (linesOf a).length)) := by
  rw [diagnostics_compile (result_compile_append ha hb hends hbegins), diagnostics_compile ha,
    blocksOf_linesOf_append hends hbegins, reports_append, List.append_assoc, List.nil_append]

/-- The header of the first default section of a text. -/
def firstDefaultHeader? (text : String) : Option Line :=
  ((linesOf text).filter Line.isHeader).find? fun l => l.OpensDefault

theorem exists_firstDefault (h : lastDefault? (blocksOf (linesOf b)).2 ≠ none) :
    ∃ front first back, (blocksOf (linesOf b)).2 = front ++ first :: back ∧
      lastDefault? front = none ∧ first.header.OpensDefault ∧
      firstDefaultHeader? b = some first.header := by
  have hsome : ((blocksOf (linesOf b)).2.find? fun b => b.header.OpensDefault).isSome = true := by
    rw [List.find?_isSome]
    rw [ne_eq, lastDefault?_eq_none_iff] at h
    simpa using h
  obtain ⟨first, hfirst⟩ := Option.isSome_iff_exists.mp hsome
  obtain ⟨hopens, front, back, hblocks, hfront⟩ := List.find?_eq_some_iff_append.mp hfirst
  refine ⟨front, first, back, hblocks, ?_, by simpa using hopens, ?_⟩
  · rw [lastDefault?_eq_none_iff]
    exact fun c hc => by simpa using hfront c hc
  · rw [firstDefaultHeader?, ← blocksOf_headers, List.find?_map]
    exact congrArg (Option.map (·.header)) hfirst

/-- Where both texts have a default section, the first one of the second text is told to replace the
last one of the first text; the diagnostic stands where its line does. -/
theorem diagnostics_of_defaults (ha : (compile v debug a).result = .ok ta)
    (hb : (compile v debug b).result = .ok tb) (hends : Text.EndsLine a.toList)
    (hbegins : BeginsWithHeader b) (hta : ta.default ≠ none) (htb : tb.default ≠ none) :
    ∃ old header before after, ta.sectionAt ta.default = some old ∧
      firstDefaultHeader? b = some header ∧
      (compile v debug b).diagnostics = before ++ after ∧
      (∀ d ∈ before, d.line < header.number) ∧ (∀ d ∈ after, header.number < d.line) ∧
      (compile v debug (a ++ b)).diagnostics = (compile v debug a).diagnostics ++
        (before.map (Diagnostic.shift (linesOf a).length) ++
          ⟨header.number + (linesOf a).length, .replacesDefault header.title old.name, none,
            none⟩ :: after.map (Diagnostic.shift (linesOf a).length)) := by
  obtain ⟨old, hold, hname⟩ := (named_compile ha).exists_default hta
  obtain ⟨front, first, back, hblocks, hfront, hopens, hheader⟩ :=
    exists_firstDefault (mt (named_compile hb).lastDefault?_eq_none_iff.mp htb)
  have hsorted : ((front ++ first :: back).flatMap Block.lines).Pairwise
      (·.number < ·.number) := by
    have hlines := blocksOf_lines (linesOf b)
    rw [preamble_eq_nil hbegins, hblocks, List.nil_append] at hlines
    rw [hlines]
    exact (numbered_pairwise 1 _).1
  refine ⟨old, first.header, reports (Block.diagnostics v) [] front,
    reports (Block.diagnostics v) front (first :: back), hold, hheader, ?_, ?_, ?_, ?_⟩
  · rw [diagnostics_compile hb, preamble_eq_nil hbegins, hblocks, reports_append]
    rfl
  · exact fun d hd => line_lt_of_mem_blocks hsorted hd
  · exact fun d hd => lt_line_of_mem_blocks hsorted hfront hopens hd
  · rw [diagnostics_compile_append ha hb hends hbegins, hblocks,
      blockReports_shift_of_default hname hfront hopens]

/-- A text put behind another one is compiled on its own: the sections of both follow one another,
the default section is that of the second text if it has one, the tracing flags are those of either,
and the diagnostics follow one another with the lines of the second text counted on. Only where both
texts have a default section there is one diagnostic more, at the first such header of the second
text. -/
theorem texts_compile_independently (v : Vocabulary) (debug : DebugFlags) (a b : String)
    (ta tb : Table) (ha : (compile v debug a).result = .ok ta)
    (hb : (compile v debug b).result = .ok tb) (hends : Text.EndsLine a.toList)
    (hbegins : BeginsWithHeader b) :
    (∃ t, (compile v debug (a ++ b)).result = .ok t ∧
      t.sections = ta.sections ++ tb.sections ∧
      t.default = (tb.default.map (ta.sections.length + ·)).or ta.default ∧
      t.debug = ta.debug.union tb.debug) ∧
    (ta.default = none ∨ tb.default = none →
      (compile v debug (a ++ b)).diagnostics = (compile v debug a).diagnostics ++
        (compile v debug b).diagnostics.map (Diagnostic.shift (linesOf a).length)) ∧
    (ta.default ≠ none → tb.default ≠ none →
      ∃ old header before after, ta.sectionAt ta.default = some old ∧
        firstDefaultHeader? b = some header ∧
        (compile v debug b).diagnostics = before ++ after ∧
        (∀ d ∈ before, d.line < header.number) ∧ (∀ d ∈ after, header.number < d.line) ∧
        (compile v debug (a ++ b)).diagnostics = (compile v debug a).diagnostics ++
          (before.map (Diagnostic.shift (linesOf a).length) ++
            ⟨header.number + (linesOf a).length, .replacesDefault header.title old.name, none,
              none⟩ :: after.map (Diagnostic.shift (linesOf a).length))) := by
  refine ⟨⟨_, result_compile_append ha hb hends hbegins, rfl, rfl, rfl⟩, ?_,
    diagnostics_of_defaults ha hb hends hbegins⟩
  intro hdefaults
  have hnone : lastDefault? (blocksOf (linesOf a)).2 = none ∨
      lastDefault? (blocksOf (linesOf b)).2 = none :=
    hdefaults.imp (named_compile ha).lastDefault?_eq_none_iff.mpr
      (named_compile hb).lastDefault?_eq_none_iff.mpr
  rw [diagnostics_compile_append ha hb hends hbegins, blockReports_shift hnone,
    diagnostics_compile hb, preamble_eq_nil hbegins]
  rfl

/-- Rules with a default section, a tracing directive and a bad line. -/
def firstRules : String := "DEBUG_KEYS\n[One]\nK1 \"x\"\nK16 \"y\"\n"

/-- Rules with two default sections behind another one. -/
def secondRules : String := "[B] foo\nK1 \"z\"\nK1 \"w\"\n[Two]\nDEBUG_REGEX\n[Three]\n"

theorem texts_compile_independently_of_defaults :
    ∃ ta tb t, (compile .standard {} firstRules).result = .ok ta ∧
      (compile .standard {} secondRules).result = .ok tb ∧
      Text.EndsLine firstRules.toList ∧ BeginsWithHeader secondRules ∧
      (compile .standard {} (firstRules ++ secondRules)).result = .ok t ∧
      t.sections = ta.sections ++ tb.sections ∧ t.default = some 3 ∧
      t.debug = { regex := true, keys := true } ∧
      ⟨8, .replacesDefault "Two" "One", none, none⟩ ∈
        (compile .standard {} (firstRules ++ secondRules)).diagnostics := by
  have hends : Text.EndsLine firstRules.toList := by decide +kernel
  have hbegins : BeginsWithHeader secondRules := by decide +kernel
  obtain ⟨ta, hta, hpa⟩ := exists_of_any (r := compile .standard {} firstRules)
    (p := fun t => t.sections.length == 1 && t.default == some 0 &&
      (t.sectionAt t.default).map (·.name) == some "One" && t.debug == { keys := true })
    (by decide +kernel)
  obtain ⟨tb, htb, hpb⟩ := exists_of_any (r := compile .standard {} secondRules)
    (p := fun t => t.default == some 2 && t.debug == { regex := true }) (by decide +kernel)
  have hheader : firstDefaultHeader? secondRules = some ⟨4, ['[', 'T', 'w', 'o', ']']⟩ := by
    decide +kernel
  simp only [Bool.and_eq_true, beq_iff_eq] at hpa hpb
  obtain ⟨⟨t, ht, hsections, hdefault, hdebug⟩, _, hreplaced⟩ :=
    texts_compile_independently .standard {} firstRules secondRules ta tb hta htb hends hbegins
  obtain ⟨old, header, before, after, hold, hheader', _, _, _, hall⟩ :=
    hreplaced (by simp [hpa.1.1.2]) (by simp [hpb.1])
  refine ⟨ta, tb, t, hta, htb, hends, hbegins, ht, hsections, ?_, ?_, ?_⟩
  · rw [hdefault, hpb.1, hpa.1.1.1]
    rfl
  · rw [hdebug, hpa.2, hpb.2]
    rfl
  · rw [hheader] at hheader'
    cases hheader'
    have hname : old.name = "One" := by
      have hone := hpa.1.2
      rw [hold] at hone
      exact Option.some.inj hone
    rw [hall, hname]
    exact List.mem_append_right _ (List.mem_append_right _ List.mem_cons_self)

end Texts

end Rule

end JogShuttle
