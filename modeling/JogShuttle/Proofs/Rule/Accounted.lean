import JogShuttle.Proofs.Rule.Tracing

/-!
# Every line is accounted for

A line that says something and is no accepted header switches on a flag, is the first definition of
its target or is reported. Only the lines under a rejected header are passed over, and then the
header is reported. The diagnostics stand in the order of their lines, and each of them names the
section that is open there.
-/

set_option autoImplicit false

namespace JogShuttle

theorem DebugFlags.union_absorb (first flag last : DebugFlags) :
    ((first.union flag).union last).union flag = (first.union flag).union last := by
  have hor : ∀ a b c : Bool, (a || b || c || b) = (a || b || c) := by decide
  simp only [union, hor]

namespace Rule

open Reading

variable {v : Vocabulary} {debug flag : DebugFlags} {text : String} {t : Table}
variable {l : Line} {ls ms : List Line} {b : Block} {d : Diagnostic} {ds es : List Diagnostic}

/-- Diagnostics about some lines, in the order of the lines. -/
structure InOrder (ls : List Line) (ds : List Diagnostic) : Prop where
  about : ∀ d ∈ ds, ∃ l ∈ ls, d.line = l.number
  sorted : ds.Pairwise (·.line ≤ ·.line)

section Order

theorem InOrder.nil (ls : List Line) : InOrder ls [] :=
  ⟨List.forall_mem_nil _, List.Pairwise.nil⟩

theorem InOrder.single (h : ∀ d ∈ ds, d.line = l.number) : InOrder [l] ds where
  about := by
    intro d hd
    exact ⟨l, List.mem_singleton_self l, h d hd⟩
  sorted := by
    apply List.pairwise_of_forall_mem_list
    intro d hd e he
    rw [h d hd, h e he]

theorem InOrder.append (hsorted : (ls ++ ms).Pairwise (·.number < ·.number)) (hds : InOrder ls ds)
    (hes : InOrder ms es) : InOrder (ls ++ ms) (ds ++ es) where
  about := by
    intro d hd
    rcases List.mem_append.mp hd with hd | hd
    · obtain ⟨l, hl, hline⟩ := hds.about d hd
      exact ⟨l, List.mem_append_left ms hl, hline⟩
    · obtain ⟨l, hl, hline⟩ := hes.about d hd
      exact ⟨l, List.mem_append_right ls hl, hline⟩
  sorted := by
    apply List.pairwise_append.mpr
    refine ⟨hds.sorted, hes.sorted, ?_⟩
    intro d hd e he
    obtain ⟨l, hl, hdl⟩ := hds.about d hd
    obtain ⟨m, hm, hem⟩ := hes.about e he
    have hlt := (List.pairwise_append.mp hsorted).2.2 l hl m hm
    omega

/-- Where every member reports in order on its own lines, so do all of them together. -/
theorem inOrder_reports {α : Type} (lines : α → List Line)
    {report : List α → α → List Diagnostic} {above as : List α}
    (hsorted : (as.flatMap lines).Pairwise (·.number < ·.number))
    (hreport : ∀ a ∈ as, ∀ front, InOrder (lines a) (report front a)) :
    InOrder (as.flatMap lines) (reports report above as) := by
  -- what a member reports may depend on those above, but its lines do not
  induction as generalizing above with
  | nil => exact InOrder.nil []
  | cons a as ih =>
    obtain ⟨ha, has⟩ := List.forall_mem_cons.mp hreport
    rw [List.flatMap_cons] at hsorted ⊢
    exact (ha above).append hsorted (ih (List.pairwise_append.mp hsorted).2.1 has)

theorem inOrder_lines {report : List Line → Line → List Diagnostic} {above : List Line}
    (hsorted : ls.Pairwise (·.number < ·.number))
    (hreport : ∀ front l, ∀ d ∈ report front l, d.line = l.number) :
    InOrder ls (reports report above ls) := by
  have hsingle : ls.flatMap (fun l => [l]) = ls := List.flatMap_singleton' ls
  rw [← hsingle] at hsorted
  have horder : InOrder (ls.flatMap fun l => [l]) (reports report above ls) :=
    inOrder_reports _ hsorted fun l _ front => InOrder.single (hreport front l)
  rwa [hsingle] at horder

theorem inOrder_block (hsorted : b.lines.Pairwise (·.number < ·.number)) (above : List Block) :
    InOrder b.lines (Block.diagnostics v above b) := by
  rw [blockDiagnostics_eq]
  have hheader : InOrder [b.header] (b.header.headerDiagnostics v (lastDefault? above)) :=
    InOrder.single fun d hd => line_of_mem_headerDiagnostics hd
  apply hheader.append hsorted
  unfold Block.bodyDiagnostics
  split
  · exact inOrder_lines (List.pairwise_cons.mp hsorted).2 fun _ _ _ => line_of_mem_lineDiagnostics
  · exact InOrder.nil b.body

theorem inOrder_compile (h : (compile v debug text).result = .ok t) :
    InOrder (linesOf text) (compile v debug text).diagnostics := by
  have hlines := blocksOf_lines (linesOf text)
  have hsorted : (linesOf text).Pairwise (·.number < ·.number) := (numbered_pairwise 1 _).1
  rw [← hlines] at hsorted
  obtain ⟨hpreamble, hblocks, -⟩ := List.pairwise_append.mp hsorted
  rw [diagnostics_compile h, ← reports_const Line.strayDiagnostics []]
  have hstray : InOrder (blocksOf (linesOf text)).1
      (reports (fun _ => Line.strayDiagnostics) [] (blocksOf (linesOf text)).1) :=
    inOrder_lines hpreamble fun _ _ _ => line_of_mem_strayDiagnostics
  have hreports : InOrder ((blocksOf (linesOf text)).2.flatMap Block.lines)
      (reports (Block.diagnostics v) [] (blocksOf (linesOf text)).2) := by
    apply inOrder_reports _ hblocks
    intro b hb front
    exact inOrder_block ((List.pairwise_flatMap.mp hblocks).1 b hb) front
  have horder := hstray.append hsorted hreports
  rwa [hlines] at horder

end Order

section Names

/-- The name of the section that is open behind some lines. -/
def openBehind (v : Vocabulary) (ls : List Line) : Option String :=
  (ls.filter Line.isHeader).getLast?.bind fun h => if h.Accepted v then some h.title else none

/-- A diagnostic is about a line, and names the section that is open behind the lines above it. A
header closes that section before anything is said about the header. -/
def Located (v : Vocabulary) (ls : List Line) (d : Diagnostic) : Prop :=
  ∃ above l below, ls = above ++ l :: below ∧ d.line = l.number ∧
    d.sectionName = if l.isHeader then none else openBehind v above

theorem filter_isHeader_eq_nil (hls : ∀ l ∈ ls, l.isHeader = false) :
    ls.filter Line.isHeader = [] := by
  apply List.filter_eq_nil_iff.mpr
  intro l hl
  simp [hls l hl]

theorem openBehind_of_not_isHeader (hls : ∀ l ∈ ls, l.isHeader = false) :
    openBehind v ls = none := by
  rw [openBehind, filter_isHeader_eq_nil hls]
  rfl

theorem openBehind_under (hl : l.isHeader = true) (hms : ∀ m ∈ ms, m.isHeader = false) :
    openBehind v (ls ++ l :: ms) = if l.Accepted v then some l.title else none := by
  rw [openBehind, List.filter_append, List.filter_cons_of_pos hl, filter_isHeader_eq_nil hms,
    List.getLast?_concat]
  rfl

/-- The lines of a file around those of one block. -/
theorem lines_of_blocks {above below : List Block} (h : (blocksOf ls).2 = above ++ b :: below) :
    ls = ((blocksOf ls).1 ++ above.flatMap Block.lines) ++
      b.header :: (b.body ++ below.flatMap Block.lines) := by
  have hlines := blocksOf_lines ls
  rw [h, List.flatMap_append, List.flatMap_cons, ← List.append_assoc] at hlines
  exact hlines.symm

theorem sectionName_of_mem_headerDiagnostics {previous : Option String}
    (h : d ∈ l.headerDiagnostics v previous) : d.sectionName = none := by
  unfold Line.headerDiagnostics at h
  split at h
  · rw [List.mem_singleton.mp h]
  · split at h
    · obtain ⟨old, _, rfl⟩ := List.mem_map.mp h
      rfl
    · split at h
      · rw [List.mem_singleton.mp h]
      · cases h

theorem sectionName_of_mem_lineDiagnostics {name : String} {above : List Line}
    (h : d ∈ l.diagnostics v name above) : d.sectionName = some name := by
  unfold Line.diagnostics at h
  split at h
  · cases h
  · split at h
    · rw [List.mem_singleton.mp h]
    · split at h
      · rw [List.mem_singleton.mp h]
      · obtain ⟨problem, _, rfl⟩ := List.mem_map.mp h
        rfl

theorem located_stray (hl : l ∈ (blocksOf ls).1) (hd : d ∈ l.strayDiagnostics) :
    Located v ls d := by
  obtain ⟨above, below, hsplit⟩ := List.append_of_mem hl
  have hheaders : ∀ m ∈ (blocksOf ls).1, m.isHeader = false := not_isHeader_of_mem_preamble
  have habove : ∀ m ∈ above, m.isHeader = false := by
    intro m hm
    apply hheaders
    rw [hsplit]
    exact List.mem_append_left _ hm
  refine ⟨above, l, below ++ (blocksOf ls).2.flatMap Block.lines, ?_, ?_, ?_⟩
  · rw [← List.cons_append, ← List.append_assoc, ← hsplit, blocksOf_lines]
  · exact line_of_mem_strayDiagnostics hd
  · obtain ⟨first, -, rfl⟩ := List.mem_map.mp hd
    rw [hheaders l hl, if_neg Bool.false_ne_true, openBehind_of_not_isHeader habove]

theorem located_block {front : List Block} (hb : b ∈ (blocksOf ls).2)
    (hd : d ∈ Block.diagnostics v front b) : Located v ls d := by
  obtain ⟨hheader, hbody⟩ := proper_of_mem_blocks b hb
  obtain ⟨above, below, hblocks⟩ := List.append_of_mem hb
  have hlines := lines_of_blocks hblocks
  rw [blockDiagnostics_eq] at hd
  rcases List.mem_append.mp hd with hd | hd
  · refine ⟨_, b.header, _, hlines, line_of_mem_headerDiagnostics hd, ?_⟩
    rw [hheader, if_pos rfl]
    exact sectionName_of_mem_headerDiagnostics hd
  · unfold Block.bodyDiagnostics at hd
    split at hd
    · next haccepted =>
      obtain ⟨l, hl, _, hd⟩ := exists_of_mem_reports hd
      obtain ⟨before, behind, hsplit⟩ := List.append_of_mem hl
      have hbefore : ∀ m ∈ before, m.isHeader = false := by
        intro m hm
        apply hbody
        rw [hsplit]
        exact List.mem_append_left _ hm
      refine ⟨((blocksOf ls).1 ++ above.flatMap Block.lines) ++ b.header :: before, l,
        behind ++ below.flatMap Block.lines, ?_, line_of_mem_lineDiagnostics hd, ?_⟩
      · rw [hsplit] at hlines
        simpa using hlines
      · rw [hbody l hl, if_neg Bool.false_ne_true, openBehind_under hheader hbefore,
          if_pos haccepted]
        exact sectionName_of_mem_lineDiagnostics hd
    · cases hd

theorem located_compile (h : (compile v debug text).result = .ok t) :
    ∀ d ∈ (compile v debug text).diagnostics, Located v (linesOf text) d := by
  intro d hd
  rw [diagnostics_compile h] at hd
  rcases List.mem_append.mp hd with hd | hd
  · obtain ⟨l, hl, hd⟩ := List.mem_flatMap.mp hd
    exact located_stray hl hd
  · obtain ⟨b, hb, front, hd⟩ := exists_of_mem_reports hd
    exact located_block hb hd

end Names

section Accounts

/-- What becomes of a line: it switches on its flag, or binds its target in the section that it
stands in, or it is reported, or the header that it stands under is rejected and reported. -/
inductive Accounted (v : Vocabulary) (ls : List Line) (t : Table) (ds : List Diagnostic)
    (l : Line) : Prop
  | directive (flag : DebugFlags) (hline : l.isHeader = false)
      (hdirective : l.directive? = some flag) (hon : t.debug.union flag = t.debug)
  | definition (above below : List Block) (b : Block) (front back : List Line) (s : Section)
      (u : Target) (tokens : List Token) (hblocks : headed ls = above ++ b :: below)
      (haccepted : b.header.Accepted v) (hbody : b.body = front ++ l :: back)
      (hdef : l.definition? = some (u, tokens))
      (hfirst : ∀ l' ∈ front, ∀ more, l'.definition? ≠ some (u, more))
      (hsection : t.sections[(above.filter (·.header.Accepted v)).length]? = some s)
      (hbound : ∀ slot, u.covers slot = true →
        ∃ r, Built v u tokens r ∧ s.binding slot = Section.bound? (r.half slot))
  | reported (d : Diagnostic) (hd : d ∈ ds) (hline : d.line = l.number)
  | suppressed (b : Block) (d : Diagnostic) (hb : b ∈ headed ls) (hl : l ∈ b.body)
      (hrejected : ¬b.header.Accepted v) (hd : d ∈ ds) (hline : d.line = b.header.number)

/-- A line with a token that is meant for no slot is a directive. -/
theorem exists_directive (hidle : l.isIdle = false) (htokens : Token.all l.text ≠ [])
    (hsubject : l.subject? = none) : ∃ flag, l.directive? = some flag := by
  rcases Line.cases_of_subject?_none hsubject with h | ⟨-, h | ⟨first, _, flag, hall, hq, hflag⟩⟩
  · rw [hidle] at h
    cases h
  · exact absurd h htokens
  · refine ⟨flag, ?_⟩
    rw [Line.directive?, hidle, hall]
    simp [hq, hflag]

theorem union_directives_of_mem (hl : l ∈ ls) (hline : l.isHeader = false)
    (hflag : l.directive? = some flag) : (directives ls).union flag = directives ls := by
  obtain ⟨above, below, rfl⟩ := List.append_of_mem hl
  have hsingle : directives [l] = flag := by
    rw [directives_of_directive? hline, hflag, Option.getD_some]
  rw [directives_append, ← List.singleton_append, directives_append, hsingle,
    ← DebugFlags.union_assoc, DebugFlags.union_absorb]

/-- A header that is rejected, though its pattern was read, reports a reason. -/
theorem exists_headerDiagnostic (hrejected : ¬l.Accepted v) (hread : ∀ p, ¬l.Unreadable v p)
    (previous : Option String) : ∃ d, d ∈ l.headerDiagnostics v previous := by
  unfold Line.headerDiagnostics
  split
  · exact ⟨_, List.mem_singleton_self _⟩
  · next hclosed =>
    have hclosed : ']' ∈ l.text := not_not.mp hclosed
    have hpattern : ¬l.patternText.isEmpty = true := fun he => hrejected ⟨hclosed, Or.inl he⟩
    rw [if_neg hpattern]
    cases hp : v.readPattern l.patternText with
    | ok pattern => exact absurd ⟨hclosed, Or.inr (by rw [hp]; rfl)⟩ hrejected
    | error e =>
      cases e with
      | fault f => exact absurd ⟨hclosed, by simpa using hpattern, hp⟩ (hread f)
      | flaw flaw place => exact ⟨_, List.mem_singleton_self _⟩

theorem mem_reports {α : Type} {report : List α → α → List Diagnostic} {above front back : List α}
    {a : α} (h : d ∈ report (above ++ front) a) :
    d ∈ reports report above (front ++ a :: back) := by
  rw [reports_append, reports]
  exact List.mem_append_right _ (List.mem_append_left _ h)

theorem mem_diagnostics_of_block {above below : List Block}
    (ht : (compile v debug text).result = .ok t)
    (hblocks : headed (linesOf text) = above ++ b :: below)
    (hd : d ∈ Block.diagnostics v above b) : d ∈ (compile v debug text).diagnostics := by
  rw [diagnostics_of_ok ht, diagnosticsOf, hblocks]
  exact List.mem_append_right _ (mem_reports hd)

/-- Neither the header nor a line of a section stops a reading that ends with a table. -/
theorem fault?_eq_none_of_ok (ht : (compile v debug text).result = .ok t)
    (hb : b ∈ headed (linesOf text)) : b.fault? v = none :=
  List.findSome?_eq_none_iff.mp (firstFault?_of_ok ht) b hb

theorem exists_diagnostic_of_rejected (ht : (compile v debug text).result = .ok t)
    (hb : b ∈ headed (linesOf text)) (hrejected : ¬b.header.Accepted v) :
    ∃ d ∈ (compile v debug text).diagnostics, d.line = b.header.number := by
  have hread := (Block.fault?_eq_none_iff.mp (fault?_eq_none_of_ok ht hb)).1
  obtain ⟨above, below, hblocks⟩ := List.append_of_mem hb
  obtain ⟨d, hd⟩ := exists_headerDiagnostic hrejected hread (lastDefault? above)
  refine ⟨d, mem_diagnostics_of_block ht hblocks ?_, line_of_mem_headerDiagnostics hd⟩
  exact List.mem_append_left _ hd

theorem exists_diagnostic_of_stray {first : Token} (ht : (compile v debug text).result = .ok t)
    (hl : l ∈ (blocksOf (linesOf text)).1) (hsubject : l.subject? = some first) :
    ∃ d ∈ (compile v debug text).diagnostics, d.line = l.number := by
  refine ⟨⟨l.number, .outsideSection (String.ofList first.text), none, none⟩, ?_, rfl⟩
  rw [diagnostics_compile ht]
  apply List.mem_append_left
  refine List.mem_flatMap.mpr ⟨l, hl, ?_⟩
  simp [Line.strayDiagnostics, hsubject]

/-- A line for a slot is the first definition of its target among the lines above, or it reports
what is wrong with it. -/
theorem first_or_reports {first : Token} {above : List Line} (name : String)
    (hsubject : l.subject? = some first) :
    (∃ u tokens, l.definition? = some (u, tokens) ∧
      ∀ l' ∈ above, ∀ more, l'.definition? ≠ some (u, more)) ∨
    ∃ d, d ∈ l.diagnostics v name above := by
  unfold Line.diagnostics
  rw [hsubject]
  cases hdef : l.definition? with
  | none => exact Or.inr ⟨_, List.mem_singleton_self _⟩
  | some p =>
    obtain ⟨u, tokens⟩ := p
    cases hany : above.any (fun l' => l'.definition?.any (·.1 == u)) with
    | true =>
      right
      simp only [hany, if_true]
      exact ⟨_, List.mem_singleton_self _⟩
    | false =>
      left
      refine ⟨u, tokens, rfl, ?_⟩
      intro l' hl' more hmore
      have hnot := List.any_eq_false.mp hany l' hl'
      simp [hmore] at hnot

/-- A line under a header is accounted for, whether the header is accepted or not. -/
theorem accounted_of_body {first : Token} (ht : (compile v debug text).result = .ok t)
    (hb : b ∈ headed (linesOf text)) (hl : l ∈ b.body) (hsubject : l.subject? = some first) :
    Accounted v (linesOf text) t (compile v debug text).diagnostics l := by
  by_cases haccepted : b.header.Accepted v
  · obtain ⟨above, below, hblocks⟩ := List.append_of_mem hb
    obtain ⟨front, back, hbody⟩ := List.append_of_mem hl
    rcases first_or_reports b.header.title hsubject with ⟨u, tokens, hdef, hfirst⟩ | ⟨d, hd⟩
    · have htable := tableOf_compile ht
      rw [hblocks] at htable
      obtain ⟨s, hs, hsection⟩ := htable.exists_section haccepted
      refine .definition above below b front back s u tokens hblocks haccepted hbody hdef hfirst hs
        ?_
      intro slot hcovers
      exact hsection.binding_of_first hbody hdef hfirst hcovers
    · refine .reported d (mem_diagnostics_of_block ht hblocks ?_) (line_of_mem_lineDiagnostics hd)
      rw [blockDiagnostics_eq, Block.bodyDiagnostics, if_pos haccepted, hbody]
      exact List.mem_append_right _ (mem_reports hd)
  · obtain ⟨d, hd, hline⟩ := exists_diagnostic_of_rejected ht hb haccepted
    exact .suppressed b d hb hl haccepted hd hline

/-- Where a line stands: before the first header, at a header, or under one. -/
theorem mem_lines_cases (hl : l ∈ ls) :
    l ∈ (blocksOf ls).1 ∨ ∃ b ∈ headed ls, l = b.header ∨ l ∈ b.body := by
  rw [← blocksOf_lines ls] at hl
  rcases List.mem_append.mp hl with hl | hl
  · exact Or.inl hl
  · obtain ⟨b, hb, hl⟩ := List.mem_flatMap.mp hl
    rw [← headed_eq] at hb
    exact Or.inr ⟨b, hb, List.mem_cons.mp hl⟩

theorem accounted_of_directive (ht : (compile v debug text).result = .ok t)
    (hl : l ∈ linesOf text) (hline : l.isHeader = false) (hidle : l.isIdle = false)
    (htokens : Token.all l.text ≠ []) (hsubject : l.subject? = none) :
    Accounted v (linesOf text) t ds l := by
  obtain ⟨flag, hflag⟩ := exists_directive hidle htokens hsubject
  refine .directive flag hline hflag ?_
  rw [debug_compile ht, DebugFlags.union_assoc, union_directives_of_mem hl hline hflag]

theorem accounted_of_mem (ht : (compile v debug text).result = .ok t) (hl : l ∈ linesOf text)
    (hidle : l.isIdle = false) (htokens : Token.all l.text ≠ [])
    (hheader : l.isHeader = true → ¬l.Accepted v) :
    Accounted v (linesOf text) t (compile v debug text).diagnostics l := by
  rcases mem_lines_cases hl with hstray | ⟨b, hb, hplace⟩
  · have hline : l.isHeader = false := not_isHeader_of_mem_preamble l hstray
    cases hsubject : l.subject? with
    | none => exact accounted_of_directive ht hl hline hidle htokens hsubject
    | some first =>
      obtain ⟨d, hd, hnumber⟩ := exists_diagnostic_of_stray ht hstray hsubject
      exact .reported d hd hnumber
  · obtain ⟨hopens, hbody⟩ := proper_of_mem_blocks b (headed_eq _ ▸ hb)
    rcases hplace with rfl | hplace
    · obtain ⟨d, hd, hnumber⟩ := exists_diagnostic_of_rejected ht hb (hheader hopens)
      exact .reported d hd hnumber
    · cases hsubject : l.subject? with
      | none => exact accounted_of_directive ht hl (hbody l hplace) hidle htokens hsubject
      | some first => exact accounted_of_body ht hb hplace hsubject

end Accounts

/-- No line of a text that is compiled is lost: every line with a token that is no comment and no
accepted header is a directive whose flag is on in the table, or the first definition of its target,
which it binds in its section, or reported with its number, or stands under a rejected header that
is reported. The diagnostics come in the order of the lines, and each names the section that is open
at its line. -/
theorem lines_accounted_for (v : Vocabulary) (debug : DebugFlags) (text : String) (t : Table)
    (ht : (compile v debug text).result = .ok t) :
    (∀ l ∈ linesOf text, l.isIdle = false → Token.all l.text ≠ [] →
      (l.isHeader = true → ¬l.Accepted v) →
        Accounted v (linesOf text) t (compile v debug text).diagnostics l) ∧
    (compile v debug text).diagnostics.Pairwise (·.line ≤ ·.line) ∧
    ∀ d ∈ (compile v debug text).diagnostics, Located v (linesOf text) d := by
  refine ⟨?_, (inOrder_compile ht).sorted, located_compile ht⟩
  intro l hl hidle htokens hheader
  exact accounted_of_mem ht hl hidle htokens hheader

/-- Rules with a directive, a line before any header, one under a header that stays open, and two
definitions of one key. -/
def strayRules : String := "DEBUG_KEYS\nK1 \"z\"\n[A\nK1 \"a\"\n[]\nk1 \"a\"\nK01 \"b\"\n"

/-- Every line but the accepted header is accounted for; three of them are reported. -/
theorem lines_accounted_for_of_strayRules :
    ∃ t, (compile .standard {} strayRules).result = .ok t ∧ t.debug = { keys := true } ∧
      (compile .standard {} strayRules).diagnostics.map (·.line) = [2, 3, 7] ∧
      (∀ l ∈ linesOf strayRules, l.number ≠ 5 →
        Accounted .standard (linesOf strayRules) t (compile .standard {} strayRules).diagnostics
          l) ∧
      ∀ d ∈ (compile .standard {} strayRules).diagnostics,
        Located .standard (linesOf strayRules) d := by
  obtain ⟨t, ht, hp⟩ := exists_of_any (r := compile .standard {} strayRules)
    (p := fun t => t.debug == { keys := true }) (by decide +kernel)
  obtain ⟨haccounted, -, hlocated⟩ := lines_accounted_for .standard {} strayRules t ht
  have hsay : ∀ l ∈ linesOf strayRules, l.isIdle = false ∧ Token.all l.text ≠ [] ∧
      (l.number ≠ 5 → ¬l.Accepted .standard) := by decide +kernel
  refine ⟨t, ht, by simpa using hp, by decide +kernel, ?_, hlocated⟩
  intro l hl hnumber
  obtain ⟨hidle, htokens, hrejected⟩ := hsay l hl
  exact haccounted l hl hidle htokens fun _ => hrejected hnumber

end Rule

end JogShuttle
