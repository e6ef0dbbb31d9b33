import JogShuttle.Proofs.Rule.Body
import Mathlib.Data.List.Infix
import Mathlib.Data.List.TakeWhile
import Mathlib.Data.List.Forall2

/-!
# The sections of a rule file

A rule file opens one section for every header whose bracket is closed and whose pattern is empty or
can be read, in the order of the file. The section belongs to the lines up to the next header and to
nothing else, and the default section is the last one without a pattern.
-/

set_option autoImplicit false

namespace JogShuttle.Rule

open Reading

variable {v : Vocabulary} {t t' : Table} {b : Block} {bs : List Block} {l : Line} {s : Section}

namespace Line

/-- The name in the brackets of a header. -/
def title (l : Line) : String := String.ofList ((l.text.drop 1).takeWhile (· != ']'))

/-- The pattern behind the brackets of a header. -/
def patternText (l : Line) : String :=
  String.ofList (Text.trim (((l.text.drop 1).dropWhile (· != ']')).drop 1))

/-- A header opens a section if its bracket is closed and its pattern is empty or accepted. -/
def Accepted (v : Vocabulary) (l : Line) : Prop :=
  ']' ∈ l.text ∧ (l.patternText.isEmpty = true ∨ (v.readPattern l.patternText).isOk = true)

instance (v : Vocabulary) (l : Line) : Decidable (l.Accepted v) :=
  inferInstanceAs (Decidable (_ ∧ _))

/-- The pattern of the section that an accepted header opens; an empty one is none. -/
def pattern? (v : Vocabulary) (l : Line) : Option Pattern :=
  if l.patternText.isEmpty then none else (v.readPattern l.patternText).toOption

theorem headerParts?_of_closed (hl : l.isHeader = true) (h : ']' ∈ l.text) :
    headerParts? l.text = some (l.title, l.patternText) := by
  obtain ⟨number, text⟩ := l
  cases text with
  | nil => cases h
  | cons c cs =>
    have hc : c = '[' := by simpa [isHeader] using hl
    subst c
    have hmem : ']' ∈ cs := by simpa using h
    have hne : cs.dropWhile (· != ']') ≠ [] := by
      intro hnil
      have := List.dropWhile_eq_nil_iff.mp hnil ']' hmem
      simp at this
    unfold headerParts? title patternText
    cases hd : cs.dropWhile (· != ']') with
    | nil => exact absurd hd hne
    | cons x xs => simp [hd]

theorem headerParts?_of_open (h : ']' ∉ l.text) : headerParts? l.text = none := by
  have hd : (l.text.drop 1).dropWhile (· != ']') = [] := by
    rw [List.dropWhile_eq_nil_iff]
    intro c hc
    have hne : c ≠ ']' := by
      rintro rfl
      exact h (List.mem_of_mem_drop hc)
    simpa using hne
  unfold headerParts?
  simp only [hd]

end Line

/-- The header at the beginning of some lines with the lines up to the next header. -/
def block? : List Line → Option Block
  | [] => none
  | l :: ls => if l.isHeader then some ⟨l, ls.takeWhile (!·.isHeader)⟩ else none

/-- Every header of a file with the lines up to the next one. -/
def headed (ls : List Line) : List Block := ls.tails.filterMap block?

theorem blocksOf_eq (ls : List Line) :
    blocksOf ls = (ls.takeWhile (!·.isHeader), headed ls) := by
  induction ls with
  | nil => rfl
  | cons l ls ih =>
    have hheaded : headed (l :: ls) = (block? (l :: ls)).toList ++ headed ls := by
      unfold headed
      rw [List.tails_cons, List.filterMap_cons]
      cases block? (l :: ls) <;> rfl
    rw [blocksOf, ih, hheaded, List.takeWhile_cons, block?]
    cases l.isHeader <;> rfl

theorem headed_eq (ls : List Line) : headed ls = (blocksOf ls).2 := by
  rw [blocksOf_eq]

theorem isHeader_of_mem_headed {ls : List Line} (h : b ∈ headed ls) : b.header.isHeader = true := by
  obtain ⟨ms, _, hb⟩ := List.mem_filterMap.mp h
  cases ms with
  | nil => cases hb
  | cons l ms =>
    rw [block?] at hb
    split at hb
    · cases hb
      assumption
    · cases hb

/-- The section of a block: its header gives the name and the pattern, and the lines under it are
all that its slots are bound by. -/
structure SectionOf (v : Vocabulary) (b : Block) (s : Section) : Prop where
  name : s.name = b.header.title
  pattern : s.pattern = b.header.pattern? v
  bound : ∀ slot, BoundBy v b.body slot (s.binding slot)

theorem result_openSection {o : Option Section} (hl : l.isHeader = true)
    (h : (openSection v t l).result = .ok o) :
    o = if l.Accepted v then some { name := l.title, pattern := l.pattern? v } else none := by
  unfold openSection at h
  by_cases hc : ']' ∈ l.text
  · rw [Line.headerParts?_of_closed hl hc] at h
    simp only at h
    rw [result_note_if] at h
    by_cases he : l.patternText.isEmpty = true
    · rw [if_pos he] at h
      rw [if_pos ⟨hc, Or.inl he⟩, Line.pattern?, if_pos he]
      split at h
      · rw [result_bind_of_ok (result_report _ _ _ _)] at h
        exact (Except.ok.inj h).symm
      · exact (Except.ok.inj h).symm
    · rw [if_neg he] at h
      cases hp : v.readPattern l.patternText with
      | ok p =>
        rw [hp] at h
        rw [if_pos ⟨hc, Or.inr (by rw [hp]; rfl)⟩, Line.pattern?, if_neg he, hp]
        exact (Except.ok.inj h).symm
      | error e =>
        have hn : ¬l.Accepted v := by
          rintro ⟨_, ha | ha⟩
          · exact he ha
          · rw [hp] at ha
            cases ha
        rw [hp] at h
        rw [if_neg hn]
        cases e with
        | fault f => cases h
        | flaw flaw place =>
          simp only at h
          rw [result_bind_of_ok (result_report _ _ _ _)] at h
          exact (Except.ok.inj h).symm
  · rw [Line.headerParts?_of_open hc] at h
    simp only at h
    rw [result_bind_of_ok (result_report _ _ _ _)] at h
    rw [if_neg (fun ha => hc ha.1)]
    exact (Except.ok.inj h).symm

theorem compileBlock_of_accepted (hb : b.header.isHeader = true) (ha : b.header.Accepted v)
    (h : (compileBlock v t b).result = .ok t') :
    ∃ s debug, SectionOf v b s ∧ s.Distinct ∧ t' = addSection { t with debug } s := by
  obtain ⟨o, ho, h⟩ := result_bind_ok_iff.mp h
  have hopen := result_openSection hb ho
  rw [if_pos ha] at hopen
  subst o
  obtain ⟨d, hd, h⟩ := result_bind_ok_iff.mp h
  obtain ⟨s, defined, hscope, hs⟩ := (Filled.nil rfl).lines hd
  obtain ⟨debug, scope⟩ := d
  obtain rfl : scope = .within s defined := hscope
  cases h
  exact ⟨s, debug, ⟨hs.name, hs.pattern, hs.bound⟩, hs.distinct, rfl⟩

theorem compileBlock_of_not_accepted (hb : b.header.isHeader = true) (ha : ¬b.header.Accepted v)
    (h : (compileBlock v t b).result = .ok t') : ∃ debug, t' = { t with debug } := by
  obtain ⟨o, ho, h⟩ := result_bind_ok_iff.mp h
  have hopen := result_openSection hb ho
  rw [if_neg ha] at hopen
  subst o
  obtain ⟨d, hd, h⟩ := result_bind_ok_iff.mp h
  have hscope := scope_of_bodyLines (Or.inr rfl) hd
  obtain ⟨debug, scope⟩ := d
  obtain rfl : scope = .discarded := hscope
  cases h
  exact ⟨debug, rfl⟩

/-- The position of the last section without a pattern, if there is one. -/
def IsLastDefault (ss : List Section) : Option Nat → Prop
  | none => ∀ s ∈ ss, s.isDefault = false
  | some i => ∃ before d after, ss = before ++ d :: after ∧ before.length = i ∧
      d.isDefault = true ∧ ∀ s ∈ after, s.isDefault = false

theorem IsLastDefault.addSection (h : IsLastDefault t.sections t.default) (s : Section) :
    IsLastDefault (addSection t s).sections (addSection t s).default := by
  unfold Rule.addSection
  cases hs : s.isDefault with
  | true => exact ⟨t.sections, s, [], rfl, rfl, hs, by simp⟩
  | false =>
    have hmem : ∀ {ss : List Section}, (∀ x ∈ ss, x.isDefault = false) →
        ∀ x ∈ ss ++ [s], x.isDefault = false := by
      intro ss hss x hx
      rcases List.mem_append.mp hx with hx | hx
      · exact hss x hx
      · rwa [List.mem_singleton.mp hx]
    simp only [Bool.false_eq_true, if_false]
    cases hd : t.default with
    | none =>
      rw [hd] at h
      exact hmem h
    | some i =>
      rw [hd] at h
      obtain ⟨before, d, after, hss, hi, hdef, hafter⟩ := h
      refine ⟨before, d, after ++ [s], ?_, hi, hdef, hmem hafter⟩
      rw [hss, List.append_assoc, List.cons_append]

/-- The table of some blocks: the sections of those with an accepted header, in order. -/
structure TableOf (v : Vocabulary) (bs : List Block) (t : Table) : Prop where
  sections : List.Forall₂ (SectionOf v) (bs.filter (·.header.Accepted v)) t.sections
  default : IsLastDefault t.sections t.default
  distinct : ∀ s ∈ t.sections, s.Distinct

theorem TableOf.nil (debug : DebugFlags) : TableOf v [] { debug } where
  sections := List.Forall₂.nil
  default := by simp [IsLastDefault]
  distinct := List.forall_mem_nil _

theorem TableOf.block (h : TableOf v bs t) (hb : b.header.isHeader = true)
    (ht : (compileBlock v t b).result = .ok t') : TableOf v (bs ++ [b]) t' := by
  by_cases ha : b.header.Accepted v
  · obtain ⟨s, debug, hs, hdistinct, rfl⟩ := compileBlock_of_accepted hb ha ht
    refine ⟨?_, IsLastDefault.addSection h.default s,
      List.forall_mem_append.mpr ⟨h.distinct, List.forall_mem_singleton.mpr hdistinct⟩⟩
    rw [List.filter_append, List.filter_cons_of_pos (by simpa using ha)]
    exact List.rel_append h.sections (List.Forall₂.cons hs List.Forall₂.nil)
  · obtain ⟨debug, rfl⟩ := compileBlock_of_not_accepted hb ha ht
    refine ⟨?_, h.default, h.distinct⟩
    rw [List.filter_append, List.filter_cons_of_neg (by simpa using ha), List.filter_nil,
      List.append_nil]
    exact h.sections

theorem TableOf.blocks {rest : List Block} (h : TableOf v bs t)
    (hrest : ∀ b ∈ rest, b.header.isHeader = true)
    (ht : (compileBlocks v t rest).result = .ok t') : TableOf v (bs ++ rest) t' := by
  induction rest generalizing bs t with
  | nil =>
    cases ht
    rwa [List.append_nil]
  | cons b rest ih =>
    obtain ⟨t₁, ht₁, ht⟩ := result_bind_ok_iff.mp ht
    have h' := ih (h.block (hrest b (by simp)) ht₁) (fun b hb => hrest b (by simp [hb])) ht
    rwa [List.append_assoc, List.singleton_append] at h'

theorem tableOf_compile {debug : DebugFlags} {text : String}
    (h : (compile v debug text).result = .ok t) : TableOf v (headed (linesOf text)) t := by
  unfold compile at h
  rw [blocksOf_eq] at h
  obtain ⟨d, _, h⟩ := result_bind_ok_iff.mp h
  exact (TableOf.nil d.debug).blocks (fun b hb => isHeader_of_mem_headed hb) h

theorem TableOf.exists_block {s : Section} (h : TableOf v bs t) (hs : s ∈ t.sections) :
    ∃ b ∈ bs, b.header.Accepted v ∧ SectionOf v b s := by
  obtain ⟨i, hi, rfl⟩ := List.mem_iff_getElem.mp hs
  have hi' : i < (bs.filter (·.header.Accepted v)).length := by rwa [h.sections.length_eq]
  obtain ⟨hb, ha⟩ := List.mem_filter.mp (List.getElem_mem hi')
  exact ⟨_, hb, by simpa using ha, h.sections.get hi' hi⟩

theorem exists_getElem?_of_forall₂ {α β : Type} {R : α → β → Prop} {x : α} {front back : List α}
    {ys : List β} (h : List.Forall₂ R (front ++ x :: back) ys) :
    ∃ y, ys[front.length]? = some y ∧ R x y := by
  induction front generalizing ys with
  | nil =>
    cases h with
    | cons hxy _ => exact ⟨_, rfl, hxy⟩
  | cons z front ih =>
    cases h with
    | cons _ hrest => exact ih hrest

/-- Before the section of an accepted header stand those of the accepted headers above. -/
theorem TableOf.exists_section {above below : List Block} (h : TableOf v (above ++ b :: below) t)
    (ha : b.header.Accepted v) :
    ∃ s, t.sections[(above.filter (·.header.Accepted v)).length]? = some s ∧ SectionOf v b s := by
  have hsections := h.sections
  rw [List.filter_append, List.filter_cons_of_pos (by simpa using ha)] at hsections
  exact exists_getElem?_of_forall₂ hsections

theorem SectionOf.exists_line {slot : Slot} {strokes : List Stroke} (h : SectionOf v b s)
    (hs : s.binding slot = some strokes) : ∃ l ∈ b.body, (l.defines? slot).isSome = true := by
  have hbound := h.bound slot
  rw [hs] at hbound
  obtain ⟨l, hl, u, tokens, r, hdef, hcovers, -⟩ := hbound.exists_built
  exact ⟨l, hl, by rw [Line.defines?_eq_some_iff.mpr ⟨hdef, hcovers⟩, Option.isSome_some]⟩

theorem SectionOf.mem_slots {slot : Slot} {strokes : List Stroke} (h : SectionOf v b s)
    (hs : s.binding slot = some strokes) : slot ∈ Slot.all := by
  obtain ⟨l, _, hd⟩ := h.exists_line hs
  obtain ⟨p, hp⟩ := Option.isSome_iff_exists.mp hd
  obtain ⟨hdef, hc⟩ := Line.defines?_eq_some_iff.mp hp
  exact Target.mem_slots_of_covers (Line.mem_all_of_definition? hdef) hc

/-- The first line that defines a target binds the slots of the target. -/
theorem SectionOf.binding_of_first {above below : List Line} {u : Target} {tokens : List Token}
    {slot : Slot} (h : SectionOf v b s) (hbody : b.body = above ++ l :: below)
    (hdef : l.definition? = some (u, tokens))
    (hfirst : ∀ l' ∈ above, ∀ more, l'.definition? ≠ some (u, more))
    (hcovers : u.covers slot = true) :
    ∃ r, Built v u tokens r ∧ s.binding slot = Section.bound? (r.half slot) := by
  have hnone : above.findSome? (Line.defines? slot) = none := by
    rw [List.findSome?_eq_none_iff]
    intro l' hmem
    cases hl : l'.defines? slot with
    | none => rfl
    | some d =>
      obtain ⟨hdef', hcovers'⟩ := Line.defines?_eq_some_iff.mp hl
      have htarget := Target.eq_of_covers (Line.mem_all_of_definition? hdef')
        (Line.mem_all_of_definition? hdef) hcovers' hcovers
      exact absurd (htarget ▸ hdef') (hfirst l' hmem d.2)
  have hbound := h.bound slot
  rwa [hbody, BoundBy, List.findSome?_append, hnone, Option.none_or, List.findSome?_cons,
    Line.defines?_eq_some_iff.mpr ⟨hdef, hcovers⟩] at hbound

/-- A compiled table has one section for each accepted header, in the order of the file. Slots are
bound by the lines under the header of their own section alone, and the default section is the last
one without a pattern. -/
theorem sections_follow_headers (v : Vocabulary) (debug : DebugFlags) (text : String) (t : Table)
    (h : (compile v debug text).result = .ok t) :
    List.Forall₂ (SectionOf v) ((headed (linesOf text)).filter (·.header.Accepted v)) t.sections ∧
    (∀ s ∈ t.sections, ∀ slot strokes, s.binding slot = some strokes → slot ∈ Slot.all ∧
      ∃ b ∈ headed (linesOf text), b.header.Accepted v ∧ SectionOf v b s ∧
        ∃ l ∈ b.body, (l.defines? slot).isSome = true) ∧
    IsLastDefault t.sections t.default := by
  have ht := tableOf_compile h
  refine ⟨ht.sections, ?_, ht.default⟩
  intro s hs slot strokes hbinding
  obtain ⟨b, hb, ha, hsec⟩ := ht.exists_block hs
  exact ⟨hsec.mem_slots hbinding, b, hb, ha, hsec, hsec.exists_line hbinding⟩

/-- Rules with a line before the first header and with lines under a header that stays open. -/
def interruptedRules : String :=
  "K1 \"z\"\n[A] foo\nk+1 \"a\"\nK01 \"b\"\n[B\nK2 \"c\"\n[]\nS0 \"d\"\n"

theorem sections_follow_headers_of_interrupted :
    ∃ t, (compile .standard {} interruptedRules).result = .ok t ∧
      t.sections.map (·.name) = ["A", ""] ∧ t.default = some 1 ∧
      List.Forall₂ (SectionOf .standard)
        ((headed (linesOf interruptedRules)).filter (·.header.Accepted .standard)) t.sections ∧
      IsLastDefault t.sections t.default := by
  obtain ⟨t, ht, hp⟩ := exists_of_any (r := compile .standard {} interruptedRules)
    (p := fun t => t.sections.map (·.name) == ["A", ""] && t.default == some 1)
    (by decide +kernel)
  rw [Bool.and_eq_true, beq_iff_eq, beq_iff_eq] at hp
  obtain ⟨hsections, _, hdefault⟩ := sections_follow_headers _ _ _ _ ht
  exact ⟨t, ht, hp.1, hp.2, hsections, hdefault⟩

end JogShuttle.Rule
