import JogShuttle.Proofs.Rule.Placed
import JogShuttle.Proofs.Rule.SingleSlots
import JogShuttle.Proofs.Rule.Spelling

/-!
# Printed sequences as rules

A sequence is printed stroke by stroke, each as a mark on the name of its symbol. Read as steps these
marks send just the strokes that they stand for, and as the sequence lets go of all that it presses,
nothing is sent behind them. So the printed form of what a slot of no key is bound to is a rule that
binds it to the same.
-/

set_option autoImplicit false

namespace JogShuttle

open Stroke

/-- The step that a stroke is printed as. -/
def Stroke.step (k : Stroke) : Step := if k.pressed then .down k.symbol else .up k.symbol

/-- The state in which a printed stroke leaves its symbol. -/
def Stroke.hold (k : Stroke) : Hold := if k.pressed then .down else .released

namespace Build

variable {b : Build} {ss : List Stroke} {k : Stroke} {m : Symbol}

theorem step_of_stroke (b : Build) (k : Stroke) : b.step k.step = .ok (b.setModifier k k.hold) := by
  obtain ⟨symbol, pressed⟩ := k
  cases pressed <;> rfl

/-- A build that has sent some strokes as marks: it has nothing tapped, and the last stroke on a
symbol tells its state. -/
structure Replays (ss : List Stroke) (b : Build) : Prop where
  sent : b.sent = ss
  ordinary : b.ordinary = none
  hold : ∀ m, b.holdOf m = (lastOn m ss).map Stroke.hold

theorem Replays.stroke (h : Replays ss b) (hb : b.Filed) (k : Stroke) :
    Replays (ss ++ [k]) (b.setModifier k k.hold) where
  sent := by rw [sent_setModifier hb, h.sent]
  ordinary := by simpa [setModifier] using h.ordinary
  hold m := by
    rw [holdOf_setModifier, lastOn_append, lastOn_singleton, h.hold]
    by_cases hm : k.symbol = m <;> simp [hm]

theorem exists_replays (ss : List Stroke) :
    ∃ b, Build.steps { split := false } (ss.map Stroke.step) = .ok b ∧ Replays ss b := by
  induction ss using List.reverseRecOn with
  | nil => exact ⟨_, rfl, rfl, rfl, fun _ => rfl⟩
  | append_singleton ss k ih =>
    obtain ⟨b, hb, h⟩ := ih
    refine ⟨b.setModifier k k.hold, ?_, h.stroke (sound_of_steps hb).filed k⟩
    rw [List.map_append, steps_append_ok_iff]
    exact ⟨b, hb, steps_cons_ok_iff.mpr ⟨_, step_of_stroke b k, rfl⟩⟩

/-- Where everything has been let go of, nothing is sent at the end. -/
theorem Replays.sent_finish (h : Replays ss b) (hb : b.Sound) (hsplit : b.split = false)
    (hss : Settled ss) : b.finish.sent = ss := by
  have hnone : (b.modifiersWhere fun h => h == .down || h == .held) = [] := by
    rw [List.eq_nil_iff_forall_not_mem]
    intro m hm
    obtain ⟨g, hg, hdown⟩ := (mem_modifiersWhere hb.nodup).mp hm
    rw [h.hold, Option.map_eq_some_iff] at hg
    obtain ⟨k, hk, rfl⟩ := hg
    obtain rfl := symbol_of_lastOn hk
    rcases eq_press_or_release k with hp | hr
    · exact settled_iff.mp hss _ (hk.trans (congrArg some hp))
    · rw [hr] at hdown
      cases hdown
  have hfinish : b.finish = b.releaseModifiers.releaseOrdinary := by
    simp [finish, hsplit]
  rw [hfinish, sent_releaseOrdinary hb.filed.releaseModifiers, sent_releaseModifiers hb.filed,
    hnone, h.sent]
  simp [ordinaryReleases, releaseModifiers, h.ordinary]

/-- The marks of a settled sequence send it and nothing else. -/
theorem halves_of_strokes (hss : Settled ss) :
    Halves.ofSteps? false (ss.map Stroke.step) = .ok ⟨ss, []⟩ := by
  obtain ⟨b, hb, h⟩ := exists_replays ss
  have hr := Halves.ofSteps?_ok_iff.mpr ⟨b, hb, rfl⟩
  have hsent := halves_append b.finish
  rw [release_eq_nil hr, List.append_nil,
    h.sent_finish (sound_of_steps hb) (split_of_steps hb) hss] at hsent
  rw [hr, Except.ok.injEq, ← hsent, ← release_eq_nil hr]

end Build

namespace Spelling

variable {names : KeysymTable} {ss : List Stroke}

theorem blank_of_mem_space : ∀ c ∈ [' '], c = ' ' ∨ c = '\t' :=
  List.forall_mem_singleton.mpr (.inl rfl)

/-- A stroke as it is printed, behind a space. -/
def ofStroke (k : Stroke) : Spelling := ⟨[' '], k.step, false, blank_of_mem_space⟩

theorem toList_formatStroke (names : KeysymTable) (k : Stroke) :
    (names.formatStroke k).toList =
      (names.nameOf k.symbol).toList ++ ['/', if k.pressed then 'D' else 'U'] := by
  rw [KeysymTable.formatStroke, String.toList_append]
  cases k.pressed <;> rfl

theorem word_ofStroke (names : KeysymTable) (k : Stroke) :
    (ofStroke k).word names = (names.formatStroke k).toList := by
  rw [toList_formatStroke]
  obtain ⟨symbol, pressed⟩ := k
  cases pressed <;> rfl

theorem line_ofStroke (names : KeysymTable) (h : ss ≠ []) :
    line names (ss.map ofStroke) = ' ' :: (names.format ss).toList := by
  induction ss with
  | nil => exact absurd rfl h
  | cons k ss ih =>
    have hfirst : line names ((k :: ss).map ofStroke) =
        ' ' :: ((names.formatStroke k).toList ++ line names (ss.map ofStroke)) := by
      rw [List.map_cons, line, List.flatMap_cons, word_ofStroke]
      rfl
    rw [hfirst, KeysymTable.format, String.toList_intercalate]
    cases ss with
    | nil => simp [line, List.intercalate]
    | cons k' ss =>
      rw [ih (List.cons_ne_nil _ _), KeysymTable.format, String.toList_intercalate]
      simp [List.intercalate_cons_cons]

theorem writable_step {k : Stroke} (h : names.Named k.symbol) : k.step.Writable names false := by
  obtain ⟨symbol, pressed⟩ := k
  cases pressed with
  | false => exact .up h
  | true => exact .down h

/-- Printed strokes are read back as their steps. -/
theorem ofTokens_strokes (hnames : names.Faithful) (hss : ∀ k ∈ ss, names.Named k.symbol) :
    Output.ofTokens names false (Token.all (line names (ss.map ofStroke))) =
      ⟨ss.map Stroke.step, []⟩ := by
  rw [ofTokens_line hnames]
  · rw [List.map_map]
    rfl
  · intro w hw
    obtain ⟨k, hk, rfl⟩ := List.mem_map.mp hw
    exact writable_step (hss k hk)
  · intro w hw
    obtain ⟨k, -, rfl⟩ := List.mem_map.mp (List.mem_of_mem_tail hw)
    exact List.cons_ne_nil _ _

/-- Nothing in printed strokes breaks the line. -/
theorem not_isLineBreak_strokes (hnames : names.Regular) (hss : ∀ k ∈ ss, names.Named k.symbol) :
    ∀ c ∈ line names (ss.map ofStroke), Text.isLineBreak c = false := by
  have hmark : ∀ pressed : Bool, Text.isLineBreak (if pressed then 'D' else 'U') = false := by
    decide
  intro c hc
  obtain ⟨w, hw, hc⟩ := List.mem_flatMap.mp hc
  obtain ⟨k, hk, rfl⟩ := List.mem_map.mp hw
  rw [word_ofStroke, toList_formatStroke] at hc
  rcases List.mem_append.mp hc with hc | hc
  · rw [List.mem_singleton.mp hc]
    rfl
  rcases List.mem_append.mp hc with hc | hc
  · have hword := Token.word_of_all_isNameChar (hnames.word_nameOf (hss k hk)) c hc
    exact Text.isLineBreak_of_not_isBlank hword.2
  · rcases List.mem_cons.mp hc with rfl | hc
    · rfl
    · rw [List.mem_singleton.mp hc]
      exact hmark k.pressed

/-- Printed strokes end with the letter of a mark. -/
theorem getLast?_strokes (names : KeysymTable) (h : ss ≠ []) :
    ∃ c, (line names (ss.map ofStroke)).getLast? = some c ∧ Text.isBlank c = false := by
  obtain ⟨init, k, rfl⟩ := (List.eq_nil_or_concat' ss).resolve_left h
  have hmark : ∀ pressed : Bool, Text.isBlank (if pressed then 'D' else 'U') = false := by decide
  have hlast : ∃ front, line names ((init ++ [k]).map ofStroke) =
      front ++ [if k.pressed then 'D' else 'U'] := by
    refine ⟨line names (init.map ofStroke) ++ ' ' :: ((names.nameOf k.symbol).toList ++ ['/']), ?_⟩
    rw [line, line, List.map_append, List.flatMap_append, List.map_singleton,
      List.flatMap_singleton, word_ofStroke, toList_formatStroke]
    simp [ofStroke]
  obtain ⟨front, hfront⟩ := hlast
  exact ⟨_, by rw [hfront, List.getLast?_concat], hmark k.pressed⟩

end Spelling

namespace Text

/-- A closed line without a break in it. -/
theorem lines_closed {cs : List Char} (h : ∀ c ∈ cs, isLineBreak c = false) :
    lines (cs ++ ['\n']) = [cs] := by
  induction cs with
  | nil => rfl
  | cons c cs ih =>
    obtain ⟨hc, hcs⟩ := List.forall_mem_cons.mp h
    have hne : c ≠ '\r' := by
      rintro rfl
      cases hc
    rw [List.cons_append, lines, if_neg (by simp [hc]), ih hcs]
    · rfl
    · exact fun _ hcr => absurd hcr hne

end Text

namespace Rule

open Reading

variable {v : Vocabulary} {names : KeysymTable} {slot : Slot} {ss : List Stroke} {l : Line}

/-- The line that binds a slot to the printed form of a sequence. -/
def printedLine (names : KeysymTable) (slot : Slot) (ss : List Stroke) : String :=
  slot.designator ++ " " ++ names.format ss

theorem toList_printedLine (names : KeysymTable) (slot : Slot) (hss : ss ≠ []) :
    (printedLine names slot ss).toList =
      slot.designator.toList ++ Spelling.line names (ss.map Spelling.ofStroke) := by
  rw [Spelling.line_ofStroke names hss, printedLine, String.toList_append, String.toList_append,
    List.append_assoc]
  rfl

/-- The designator of a slot of no key is a word for this slot, and neither a comment nor a
directive nor a header. -/
theorem designator_of_single (hslot : slot ∈ Slot.all) (hkey : slot.isKey = false) :
    Target.ofDesignator? slot.designator.toList = .ok (some (.single slot)) ∧
      slot.designator.toList ≠ [] ∧
      slot.designator.toList.all Token.isNameChar = true ∧
      (DebugFlags.ofDirective? slot.designator).isNone = true ∧
      Output.isComment slot.designator.toList = false ∧
      slot.designator.toList.head? ≠ some '[' := by
  revert hkey
  revert slot
  decide +kernel

theorem word_designator (hslot : slot ∈ Slot.all) (hkey : slot.isKey = false) :
    ∀ c ∈ slot.designator.toList, Token.isWordChar c = true ∧ Text.isBlank c = false := by
  obtain ⟨-, -, hchars, -⟩ := designator_of_single hslot hkey
  exact Token.word_of_all_isNameChar hchars

section Line

variable (hslot : slot ∈ Slot.all) (hkey : slot.isKey = false) (hss : ss ≠ [])
variable (hl : l.text = (printedLine v.keysyms slot ss).toList)

include hslot hkey hss hl

theorem all_printedLine :
    ∃ first, Token.all l.text =
        first :: Token.all (Spelling.line v.keysyms (ss.map Spelling.ofStroke)) ∧
      first.text = slot.designator.toList ∧ first.quoted = false := by
  obtain ⟨-, hne, -⟩ := designator_of_single hslot hkey
  have hgaps : ∀ w ∈ ss.map Spelling.ofStroke, w.gap ≠ [] := by
    intro w hw
    obtain ⟨k, -, rfl⟩ := List.mem_map.mp hw
    exact List.cons_ne_nil _ _
  have hspace : ∀ c, (Spelling.line v.keysyms (ss.map Spelling.ofStroke)).head? = some c →
      Token.isSpace c = true := fun c => Spelling.isSpace_of_head?_line hgaps
  obtain ⟨first, hall, htext, hquoted, -⟩ :=
    Token.all_word_append hne (fun c hc => (word_designator hslot hkey c hc).1) hspace
  exact ⟨first, by rw [hl, toList_printedLine v.keysyms slot hss, hall], htext, hquoted⟩

theorem definition?_printedLine :
    l.definition? = some (.single slot,
      Token.all (Spelling.line v.keysyms (ss.map Spelling.ofStroke))) := by
  obtain ⟨first, hall, htext, hquoted⟩ := all_printedLine hslot hkey hss hl
  refine Line.definition?_of_some hall hquoted ?_
  rw [htext]
  exact (designator_of_single hslot hkey).1

theorem fault?_printedLine : l.fault? = none :=
  Line.fault?_of_definition? (definition?_printedLine hslot hkey hss hl)

/-- A printed line is not a header. -/
theorem isHeader_printedLine : l.isHeader = false := by
  obtain ⟨-, hne, -, -, -, hbracket⟩ := designator_of_single hslot hkey
  obtain ⟨c, cs, hcs⟩ := List.exists_cons_of_ne_nil hne
  rw [hcs] at hbracket
  rw [Line.isHeader, hl, toList_printedLine v.keysyms slot hss, hcs]
  simpa using hbracket

theorem trim_printedLine : Text.trim l.text = l.text := by
  obtain ⟨-, hne, -⟩ := designator_of_single hslot hkey
  obtain ⟨c, cs, hcs⟩ := List.exists_cons_of_ne_nil hne
  rw [hl, toList_printedLine v.keysyms slot hss]
  refine Text.trim_of_ends ?_ ?_
  · rw [hcs]
    rintro _ ⟨⟩
    exact (word_designator hslot hkey c (by rw [hcs]; exact List.mem_cons_self)).2
  · obtain ⟨d, hd, hblank⟩ := Spelling.getLast?_strokes v.keysyms hss
    rw [List.getLast?_append, hd]
    rintro _ ⟨⟩
    exact hblank

/-- A printed line reports nothing. -/
theorem diagnostics_printedLine (hnames : v.keysyms.Regular)
    (hnamed : ∀ k ∈ ss, v.keysyms.Named k.symbol) (name : String) :
    l.diagnostics v name [] = [] := by
  have hproblems : (Output.items (Token.all
      (Spelling.line v.keysyms (ss.map Spelling.ofStroke)))).flatMap
        (Output.Item.problems v.keysyms false) = [] := by
    rw [← Output.problems_ofTokens, Spelling.ofTokens_strokes hnames.faithful hnamed]
  exact Line.diagnostics_of_definition? (definition?_printedLine hslot hkey hss hl)
    (List.forall_mem_nil _) hproblems name

/-- A printed line binds its slot to the sequence, and no other slot. -/
theorem boundBy_printedLine (hnames : v.keysyms.Regular)
    (hnamed : ∀ k ∈ ss, v.keysyms.Named k.symbol) (hsettled : Settled ss) {x : Slot}
    {binding : Option (List Stroke)} (h : BoundBy v [l] x binding) :
    binding = if x = slot then some ss else none := by
  have hdef := definition?_printedLine hslot hkey hss hl
  unfold BoundBy at h
  by_cases hx : x = slot
  · subst x
    have hdefines : l.defines? slot = some (.single slot,
        Token.all (Spelling.line v.keysyms (ss.map Spelling.ofStroke))) :=
      Line.defines?_eq_some_iff.mpr ⟨hdef, Target.covers_single.mpr rfl⟩
    simp only [List.findSome?_cons, hdefines] at h
    obtain ⟨r, hr, rfl⟩ := h
    change Halves.ofSteps? false (Output.ofTokens v.keysyms false _).steps = .ok r at hr
    rw [Spelling.ofTokens_strokes hnames.faithful hnamed, Build.halves_of_strokes hsettled] at hr
    cases hr
    rw [Halves.half_of_single _ hkey, if_pos rfl]
    exact Section.bound?_eq_some_iff.mpr ⟨hss, rfl⟩
  · have hdefines : l.defines? x = none := by
      rw [Line.defines?, hdef, Option.filter_some, if_neg (mt Target.covers_single.mp hx)]
    simp only [List.findSome?_cons, hdefines, List.findSome?_nil] at h
    rw [h, if_neg hx]

end Line

section Files

/-- A line that opens a section: a header whose pattern is empty or accepted. -/
structure OpensSection (v : Vocabulary) (header : String) : Prop where
  unbroken : ∀ c ∈ header.toList, Text.isLineBreak c = false
  isHeader : (Line.mk 1 (Text.trim header.toList)).isHeader = true
  accepted : (Line.mk 1 (Text.trim header.toList)).Accepted v

/-- A rule file of one section with the printed form of one binding. -/
def printedRules (names : KeysymTable) (header : String) (slot : Slot) (ss : List Stroke) :
    String :=
  header ++ "\n" ++ printedLine names slot ss ++ "\n"

theorem linesOf_printedRules {header : String} (hheader : OpensSection v header)
    (hslot : slot ∈ Slot.all) (hkey : slot.isKey = false) (hss : ss ≠ [])
    (hnames : v.keysyms.Regular) (hnamed : ∀ k ∈ ss, v.keysyms.Named k.symbol) :
    linesOf (printedRules v.keysyms header slot ss) =
      [⟨1, Text.trim header.toList⟩, ⟨2, (printedLine v.keysyms slot ss).toList⟩] := by
  obtain ⟨-, hne, -⟩ := designator_of_single hslot hkey
  have hunbroken : ∀ c ∈ (printedLine v.keysyms slot ss).toList, Text.isLineBreak c = false := by
    rw [toList_printedLine v.keysyms slot hss]
    refine List.forall_mem_append.mpr ⟨fun c hc => ?_, ?_⟩
    · exact Text.isLineBreak_of_not_isBlank (word_designator hslot hkey c hc).2
    · exact Spelling.not_isLineBreak_strokes hnames hnamed
  have htrim : Text.trim (printedLine v.keysyms slot ss).toList =
      (printedLine v.keysyms slot ss).toList :=
    trim_printedLine (l := ⟨2, _⟩) hslot hkey hss rfl
  have hends : Text.EndsLine (header.toList ++ ['\n']) := by
    unfold Text.EndsLine
    rw [List.getLast?_concat]
    rintro _ ⟨⟩
    rfl
  have hhead : ((printedLine v.keysyms slot ss).toList ++ ['\n']).head? ≠ some '\n' := by
    obtain ⟨c, cs, hcs⟩ := List.exists_cons_of_ne_nil hne
    rw [toList_printedLine v.keysyms slot hss, hcs]
    intro hc
    obtain rfl : c = '\n' := Option.some.inj hc
    have hblank := (word_designator hslot hkey '\n' (by rw [hcs]; exact List.mem_cons_self)).2
    cases hblank
  have hlist : (printedRules v.keysyms header slot ss).toList =
      (header.toList ++ ['\n']) ++ ((printedLine v.keysyms slot ss).toList ++ ['\n']) := by
    simp [printedRules]
  rw [linesOf, hlist, Text.lines_append hends hhead, Text.lines_closed hheader.unbroken,
    Text.lines_closed hunbroken]
  simp only [List.singleton_append, numbered, htrim]

theorem headerFault?_of_accepted {l : Line} (h : l.Accepted v) : l.headerFault? v = none := by
  rw [Line.headerFault?_eq_none_iff]
  rintro p ⟨-, hne, hp⟩
  rcases h.2 with he | hok
  · rw [he] at hne
    cases hne
  · rw [hp] at hok
    cases hok

theorem headerDiagnostics_of_accepted {l : Line} (h : l.Accepted v) :
    l.headerDiagnostics v none = [] := by
  unfold Line.headerDiagnostics
  rw [if_neg (not_not_intro h.1)]
  split
  · rfl
  · rename_i hne
    cases hp : v.readPattern l.patternText with
    | ok p => rfl
    | error e =>
      have hok := h.2.resolve_left hne
      rw [hp] at hok
      cases hok

/-- A rule file of a header and one line that is none is one block. -/
theorem headed_of_two {h l : Line} {text : String} (hlines : linesOf text = [h, l])
    (hh : h.isHeader = true) (hl : l.isHeader = false) :
    (linesOf text).takeWhile (!·.isHeader) = [] ∧ headed (linesOf text) = [⟨h, [l]⟩] := by
  have hblocks : blocksOf (linesOf text) = ([], [⟨h, [l]⟩]) := by
    rw [hlines]
    simp [blocksOf, hh, hl]
  exact Prod.mk.inj ((blocksOf_eq _).symm.trans hblocks)

/-- A section with one line that neither stops the reading nor reports anything. -/
theorem ends_compile_of_two {h l : Line} {text : String} (debug : DebugFlags)
    (hlines : linesOf text = [h, l]) (hh : h.isHeader = true) (hl : l.isHeader = false)
    (ha : h.Accepted v) (hfault : l.fault? = none)
    (hdiagnostics : l.diagnostics v h.title [] = []) :
    (compile v debug text).diagnostics = [] ∧
      ∃ t s, (compile v debug text).result = .ok t ∧ t.sections = [s] ∧
        SectionOf v ⟨h, [l]⟩ s := by
  obtain ⟨htake, hheaded⟩ := headed_of_two hlines hh hl
  have hnofault : firstFault? v text = none := by
    rw [firstFault?, hheaded, List.findSome?_eq_none_iff, List.forall_mem_singleton, Block.fault?,
      headerFault?_of_accepted ha, if_pos ha]
    simp [hfault]
  have hnone : diagnosticsOf v text = [] := by
    rw [diagnosticsOf, htake, hheaded]
    change Line.headerDiagnostics v none h ++ (if h.Accepted v then
      Line.diagnostics v h.title [] l ++ [] else []) ++ [] = []
    rw [headerDiagnostics_of_accepted ha, if_pos ha, hdiagnostics]
    rfl
  obtain ⟨t, ht⟩ := exists_table_of_firstFault? debug hnofault
  have hsections := (tableOf_compile ht).sections
  rw [hheaded, List.filter_cons_of_pos (by simpa using ha)] at hsections
  obtain ⟨s, rest, hs, hrest, hcons⟩ := List.forall₂_cons_left_iff.mp hsections
  rw [List.filter_nil, List.forall₂_nil_left_iff] at hrest
  exact ⟨(diagnostics_of_ok ht).trans hnone, t, s, ht, by rw [hcons, hrest], hs⟩

/-- What a section binds a slot of no key to, printed on a line under any header that opens a
section, is read without a diagnostic and binds the slot to the same sequence again. -/
theorem printed_sequence_is_rule (v : Vocabulary) (hnames : v.keysyms.Regular)
    (debug : DebugFlags) (text : String) (t : Table)
    (ht : (compile v debug text).result = .ok t) (s : Section) (hs : s ∈ t.sections) (slot : Slot)
    (hkey : slot.isKey = false) (ss : List Stroke) (hss : s.binding slot = some ss)
    (hnamed : ∀ k ∈ ss, v.keysyms.Named k.symbol) (debug' : DebugFlags) (header : String)
    (hheader : OpensSection v header) :
    (compile v debug' (printedRules v.keysyms header slot ss)).diagnostics = [] ∧
      ∃ t' s', (compile v debug' (printedRules v.keysyms header slot ss)).result = .ok t' ∧
        t'.sections = [s'] ∧ ∀ x, s'.binding x = if x = slot then some ss else none := by
  obtain ⟨b, -, -, hsection⟩ := (tableOf_compile ht).exists_block hs
  have hslot := hsection.mem_slots hss
  obtain ⟨strokes, hsettled, hbinding⟩ := hsection.settled_binding hkey
  obtain ⟨hne, rfl⟩ := Section.bound?_eq_some_iff.mp (hbinding.symm.trans hss)
  have hlines := linesOf_printedRules hheader hslot hkey hne hnames hnamed
  obtain ⟨hdiagnostics, t', s', ht', hsections, hsection'⟩ :=
    ends_compile_of_two debug' hlines hheader.isHeader
      (isHeader_printedLine hslot hkey hne rfl) hheader.accepted
      (fault?_printedLine hslot hkey hne rfl)
      (diagnostics_printedLine hslot hkey hne rfl hnames hnamed _)
  refine ⟨hdiagnostics, t', s', ht', hsections, fun x => ?_⟩
  exact boundBy_printedLine hslot hkey hne rfl hnames hnamed hsettled (hsection'.bound x)

/-- A modifier around a typed character and a pointer button. -/
def chordRules : String := "[A] foo\nIR Alt_L/D \"a\" Button_1\n"

def chordStrokes : List Stroke :=
  [.press ⟨0xffe9⟩, .press ⟨0x61⟩, .release ⟨0x61⟩, .press ⟨0x2000001⟩, .release ⟨0xffe9⟩,
    .release ⟨0x2000001⟩]

def editingVocabulary : Vocabulary := ⟨Spelling.editingKeys, Pattern.read⟩

theorem printed_sequence_is_rule_of_chord :
    ∃ t s, (compile editingVocabulary {} chordRules).result = .ok t ∧ s ∈ t.sections ∧
      s.binding (.increment .right) = some chordStrokes ∧
      printedRules Spelling.editingKeys "[Again]" (.increment .right) chordStrokes =
        "[Again]\nIR XK_Alt_L/D XK_a/D XK_a/U XK_Button_1/D XK_Alt_L/U XK_Button_1/U\n" ∧
      ∃ t' s', (compile editingVocabulary {} (printedRules Spelling.editingKeys "[Again]"
          (.increment .right) chordStrokes)).result = .ok t' ∧
        t'.sections = [s'] ∧ s'.binding (.increment .right) = some chordStrokes := by
  obtain ⟨t, ht, hp⟩ := exists_of_any (r := compile editingVocabulary {} chordRules)
    (p := fun t => t.sections.any fun s => s.binding (.increment .right) == some chordStrokes)
    (by decide +kernel)
  obtain ⟨s, hs, hbinding⟩ := List.any_eq_true.mp hp
  have hbinding := beq_iff_eq.mp hbinding
  have hnamed : ∀ k ∈ chordStrokes, editingVocabulary.keysyms.Named k.symbol := by
    simp only [chordStrokes, List.forall_mem_cons]
    exact ⟨⟨"Alt_L", by decide⟩, ⟨"a", by decide⟩, ⟨"a", by decide⟩, ⟨"Button_1", by decide⟩,
      ⟨"Alt_L", by decide⟩, ⟨"Button_1", by decide⟩, List.forall_mem_nil _⟩
  have hunbroken : "[Again]".toList.any Text.isLineBreak = false := by decide +kernel
  obtain ⟨-, t', s', ht', hsections, hagain⟩ := printed_sequence_is_rule editingVocabulary
    Spelling.regular_editingKeys {} chordRules t ht s hs (.increment .right) rfl chordStrokes
    hbinding hnamed {} "[Again]"
    ⟨by simpa using hunbroken, by decide +kernel, by decide +kernel⟩
  exact ⟨t, s, ht, hs, hbinding, by decide, t', s', ht', hsections, hagain _⟩

end Files

end Rule

end JogShuttle
