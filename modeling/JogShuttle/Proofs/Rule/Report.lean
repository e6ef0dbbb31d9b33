import JogShuttle.Proofs.Rule.Fault
import JogShuttle.Proofs.Rule.Item

/-!
# What a rule file is told about itself

Unless the reading stops, it ends with a table and with the problems of the file, line by line: of
the lines before the first header, of every header, and of the lines under those headers that open a
section. What a line reports depends on the lines above it in its section only by the targets that
they define, and what a header reports on the headers above it only by the last default section.
-/

set_option autoImplicit false

namespace JogShuttle

namespace Reading

variable {α β : Type} {r : Reading α} {f : α → Reading β} {a : α} {stop stop' : Option Fault}
variable {ds es : List Diagnostic}

/-- A reading that ends with a fault, or with a result after the given diagnostics. -/
def Ends (r : Reading α) (stop : Option Fault) (ds : List Diagnostic) : Prop :=
  match stop with
  | some f => r.result = .error f
  | none => (∃ a, r.result = .ok a) ∧ r.diagnostics = ds

theorem ends_ok (a : α) : (Reading.ok a).Ends none [] := ⟨⟨a, rfl⟩, rfl⟩

theorem ends_trace (text : String) : (note (.trace text)).Ends none [] := ⟨⟨(), rfl⟩, rfl⟩

theorem result_bind_of_error {e : Fault} (h : r.result = .error e) (f : α → Reading β) :
    (r >>= f).result = .error e := by
  change (Reading.bind r f).result = _
  unfold Reading.bind
  rw [h]

theorem diagnostics_bind_of_ok (h : r.result = .ok a) (f : α → Reading β) :
    (r >>= f).diagnostics = r.diagnostics ++ (f a).diagnostics := by
  change (Reading.bind r f).diagnostics = _
  unfold Reading.bind
  rw [h]
  exact List.filterMap_append

/-- Of two faults the first one counts, and what is reported adds up. -/
theorem Ends.bind (hr : r.Ends stop ds) (hf : ∀ a, r.result = .ok a → (f a).Ends stop' es) :
    (r >>= f).Ends (stop.or stop') (ds ++ es) := by
  cases stop with
  | some e => exact result_bind_of_error hr f
  | none =>
    obtain ⟨⟨a, ha⟩, rfl⟩ := hr
    have h := hf a ha
    rw [Option.none_or]
    cases stop' with
    | some e => exact (result_bind_of_ok ha f).trans h
    | none =>
      obtain ⟨⟨b, hb⟩, rfl⟩ := h
      exact ⟨⟨b, (result_bind_of_ok ha f).trans hb⟩, diagnostics_bind_of_ok ha f⟩

theorem Ends.silently_then (hr : r.Ends none [])
    (hf : ∀ a, r.result = .ok a → (f a).Ends stop es) : (r >>= f).Ends stop es :=
  hr.bind hf

theorem Ends.then_silently (hr : r.Ends stop ds) (hf : ∀ a, (f a).Ends none []) :
    (r >>= f).Ends stop ds := by
  have h := hr.bind fun a _ => hf a
  rwa [Option.or_none, List.append_nil] at h

end Reading

namespace Rule

open Reading

/-- What the members of a list report, each in view of those above it. -/
def reports {α : Type} (report : List α → α → List Diagnostic) (above : List α) :
    List α → List Diagnostic
  | [] => []
  | a :: as => report above a ++ reports report (above ++ [a]) as

theorem reports_const {α : Type} (report : α → List Diagnostic) (above as : List α) :
    reports (fun _ a => report a) above as = as.flatMap report := by
  induction as generalizing above with
  | nil => rfl
  | cons a as ih => rw [reports, ih, List.flatMap_cons]

/-- A run over a list stops at the first member that stops a step, if every step keeps an invariant
and reports what its member reports in view of those above. -/
theorem ends_run {σ α : Type} {run : σ → List α → Reading σ} {step : σ → α → Reading σ}
    {stop : α → Option Fault} {report : List α → α → List Diagnostic} (Inv : List α → σ → Prop)
    (hnil : ∀ s, run s [] = .ok s) (hcons : ∀ s a as, run s (a :: as) = step s a >>= (run · as))
    {as : List α} (hstep : ∀ a ∈ as, ∀ {above s}, Inv above s →
      (step s a).Ends (stop a) (report above a) ∧
        ∀ s', (step s a).result = .ok s' → Inv (above ++ [a]) s') :
    ∀ {above s}, Inv above s → (run s as).Ends (as.findSome? stop) (reports report above as) := by
  -- the induction is on the members still to come, for any that stand above them
  induction as with
  | nil =>
    intro above s _
    rw [hnil]
    exact ends_ok s
  | cons a as ih =>
    intro above s h
    obtain ⟨ha, has⟩ := List.forall_mem_cons.mp hstep
    obtain ⟨hends, hkeep⟩ := ha h
    have hor : (a :: as).findSome? stop = (stop a).or (as.findSome? stop) := by
      rw [List.findSome?_cons]
      cases stop a <;> rfl
    rw [hcons, hor]
    exact hends.bind fun s' hs' => ih has (hkeep s' hs')

section Primitives

variable {line : Nat} {sectionName designator : Option String}

theorem ends_report (problem : Problem) :
    (report line sectionName designator problem).Ends none
      [{ line, problem, sectionName, designator }] :=
  ⟨⟨(), rfl⟩, rfl⟩

theorem ends_reportAll (problems : List Problem) :
    (reportAll line sectionName designator problems).Ends none
      (problems.map fun problem => { line, problem, sectionName, designator }) := by
  induction problems with
  | nil => exact ends_ok ()
  | cons p ps ih => exact (ends_report p).bind fun _ _ => ih

theorem ends_traceSlot (v : Vocabulary) (debug : DebugFlags) (slot : Slot)
    (strokes : List Stroke) : (traceSlot v debug slot strokes).Ends none [] := by
  unfold traceSlot
  split
  · exact ends_trace _
  · exact ends_ok ()

end Primitives

variable {v : Vocabulary} {debug : DebugFlags} {s opened : Section} {defined : List String}
variable {above ls : List Line} {l : Line} {t : Target} {tokens : List Token} {first : Token}

theorem ends_bindFree {slot : Slot} (h : s.binding slot = none) (strokes : List Stroke) :
    (orFault (s.bind slot strokes)).Ends none [] := by
  unfold Section.bind
  rw [h]
  simp only [Option.isSome_none, Bool.false_eq_true, if_false]
  split
  · exact ends_ok _
  · exact ends_ok _

theorem ends_bindTarget (ht : t ∈ Target.all)
    (hfree : ∀ slot, t.covers slot = true → s.binding slot = none) (r : Halves) :
    (bindTarget v debug s t r).Ends none [] := by
  rcases Target.key_or_single ht with ⟨n, rfl⟩ | ⟨x, rfl, _⟩
  · have hdown := hfree (.keyDown n) (Target.covers_key.mpr (Or.inl rfl))
    have hup := hfree (.keyUp n) (Target.covers_key.mpr (Or.inr rfl))
    refine (ends_bindFree hdown r.press).silently_then ?_
    intro s₁ h₁
    rw [result_orFault] at h₁
    -- binding the first half leaves the slot of the second one free
    have hup₁ : s₁.binding (.keyUp n) = none := by
      rw [Section.binding_of_bind h₁, if_neg (by simp), hup]
    refine (ends_bindFree hup₁ r.release).silently_then ?_
    intro s₂ _
    exact (ends_traceSlot _ _ _ _).silently_then fun _ _ =>
      (ends_traceSlot _ _ _ _).silently_then fun _ _ => ends_ok s₂
  · have hx := hfree x (Target.covers_single.mpr rfl)
    refine (ends_bindFree hx r.press).silently_then ?_
    intro s₁ _
    exact (ends_traceSlot _ _ _ _).silently_then fun _ _ => ends_ok s₁

namespace Line

/-- What is wrong with the tokens behind the designator of a target. -/
def outputProblems (v : Vocabulary) (t : Target) (tokens : List Token) : List Problem :=
  (Output.items tokens).flatMap (Output.Item.problems v.keysyms t.isKey)

/-- The diagnostics of a line in a section, under the lines that stand above it there. -/
def diagnostics (v : Vocabulary) (sectionName : String) (above : List Line) (l : Line) :
    List Diagnostic :=
  match l.subject? with
  | none => []
  | some first =>
    match l.definition? with
    | none =>
      let word := String.ofList first.text
      [⟨l.number, .badSlot word, sectionName, word⟩]
    | some (t, tokens) =>
      if above.any fun l' => l'.definition?.any (·.1 == t) then
        [⟨l.number, .redefined, sectionName, t.slot.designator⟩]
      else (outputProblems v t tokens).map (⟨l.number, ·, sectionName, t.slot.designator⟩)

/-- A first definition without a problem in its output reports nothing. -/
theorem diagnostics_of_definition? (h : l.definition? = some (t, tokens))
    (hfirst : ∀ l' ∈ above, ∀ more, l'.definition? ≠ some (t, more))
    (hproblems : outputProblems v t tokens = []) (name : String) :
    l.diagnostics v name above = [] := by
  have hany : (above.any fun l' => l'.definition?.any (·.1 == t)) = false := by
    rw [List.any_eq_false]
    intro l' hl' hany
    obtain ⟨⟨u, more⟩, hdef, hu⟩ := (Option.any_eq_true _ _).mp hany
    obtain rfl : u = t := by simpa using hu
    exact hfirst l' hl' more hdef
  unfold diagnostics
  cases l.subject? with
  | none => rfl
  | some first => simp [h, hany, hproblems]

/-- The diagnostics of a line before any header. -/
def strayDiagnostics (l : Line) : List Diagnostic :=
  l.subject?.toList.map fun first =>
    ⟨l.number, .outsideSection (String.ofList first.text), none, none⟩

end Line

theorem ends_define {number : Nat} (ht : t ∈ Target.all)
    (hfree : ∀ slot, t.covers slot = true → s.binding slot = none) :
    (define v debug number s t tokens).Ends none
      ((Line.outputProblems v t tokens).map (⟨number, ·, s.name, t.slot.designator⟩)) := by
  have hfits : ∀ x ∈ (Output.ofTokens v.keysyms t.isKey tokens).steps, x.Fits t.isKey :=
    Output.fits_ofTokens tokens
  obtain ⟨r, hr⟩ := Halves.exists_ofSteps? hfits
  unfold define
  simp only [hr, Output.problems_ofTokens]
  refine (ends_reportAll _).then_silently ?_
  intro _
  exact ends_bindTarget ht hfree r

theorem Filled.any_definition?_iff (h : Filled v opened above s defined) (ht : t ∈ Target.all) :
    (above.any fun l' => l'.definition?.any (·.1 == t)) = true ↔ t.slot.designator ∈ defined := by
  rw [h.defined_iff t ht, List.any_eq_true]
  constructor
  · rintro ⟨l', hl', hany⟩
    obtain ⟨⟨u, tokens⟩, hdef, hu⟩ := (Option.any_eq_true _ _).mp hany
    obtain rfl : u = t := by simpa using hu
    exact ⟨l', hl', tokens, hdef⟩
  · rintro ⟨l', hl', tokens, hdef⟩
    exact ⟨l', hl', by simp [hdef]⟩

theorem ends_slotLine (h : Filled v opened above s defined)
    (hsub : l.subject? = some first) (hall : Token.all l.text = first :: tokens) :
    (slotLine v debug l.number s defined first tokens).Ends l.fault?
      (l.diagnostics v s.name above) := by
  unfold slotLine Line.fault? Line.diagnostics
  rw [hsub]
  simp only
  cases hq : first.quoted with
  | true =>
    rw [Line.definition?_of_quoted hall hq]
    simp only [if_true]
    exact (ends_ok none).silently_then fun t' ht' => by
      cases ht'
      exact (ends_report _).then_silently fun _ => ends_ok _
  | false =>
    simp only [Bool.false_eq_true, if_false]
    cases hd : Target.ofDesignator? first.text with
    | error n => rfl
    | ok target =>
      refine Ends.silently_then (ends_ok target) ?_
      intro t' ht'
      cases ht'
      cases target with
      | none =>
        rw [Line.definition?_of_none hall hd]
        exact (ends_report _).then_silently fun _ => ends_ok _
      | some t =>
        have hdef := Line.definition?_of_some hall hq hd
        have ht := Line.mem_all_of_definition? hdef
        rw [hdef]
        simp only [List.contains_eq_mem, h.any_definition?_iff ht, decide_eq_true_eq]
        by_cases hin : t.slot.designator ∈ defined
        · rw [if_pos hin, if_pos hin]
          exact (ends_report _).then_silently fun _ => ends_ok _
        · rw [if_neg hin, if_neg hin]
          exact (ends_define ht fun slot hc => h.binding_eq_none ht hin hc).then_silently
            fun _ => ends_ok _

section Lines

variable {d : Draft}

/-- A line that is meant for no slot reports nothing. -/
theorem ends_bodyLine_of_subject?_none (d : Draft) (h : l.subject? = none) :
    (bodyLine v d l).Ends none [] := by
  rw [bodyLine_of_subject?_none d h]
  exact ends_ok _

theorem ends_bodyLine_outside (hd : d.scope = .outside) :
    (bodyLine v d l).Ends none l.strayDiagnostics := by
  unfold Line.strayDiagnostics
  cases h : l.subject? with
  | none => exact ends_bodyLine_of_subject?_none d h
  | some first =>
    obtain ⟨tokens, _, hline⟩ := bodyLine_of_subject? (v := v) d h
    rw [hline, hd]
    exact (ends_report _).then_silently fun _ => ends_ok d

theorem ends_bodyLine_discarded (hd : d.scope = .discarded) :
    (bodyLine v d l).Ends none [] := by
  cases h : l.subject? with
  | none => exact ends_bodyLine_of_subject?_none d h
  | some first =>
    obtain ⟨tokens, _, hline⟩ := bodyLine_of_subject? (v := v) d h
    rw [hline, hd]
    exact ends_ok d

theorem ends_bodyLine_within (hd : d.scope = .within s defined)
    (hs : Filled v opened above s defined) :
    (bodyLine v d l).Ends l.fault? (l.diagnostics v s.name above) := by
  cases h : l.subject? with
  | none =>
    rw [Line.fault?, Line.diagnostics, h]
    exact ends_bodyLine_of_subject?_none d h
  | some first =>
    obtain ⟨tokens, hall, hline⟩ := bodyLine_of_subject? (v := v) d h
    rw [hline, hd]
    exact (ends_slotLine hs h hall).then_silently fun _ => ends_ok _

/-- Where no section is open, nothing stops the reading of lines. -/
theorem ends_unopened {scope : Scope} {report : Line → List Diagnostic} (debug : DebugFlags)
    (ls : List Line) (hscope : scope = .outside ∨ scope = .discarded)
    (hline : ∀ {d l}, d.scope = scope → (bodyLine v d l).Ends none (report l)) :
    (bodyLines v ⟨debug, scope⟩ ls).Ends none (ls.flatMap report) := by
  have h : (bodyLines v ⟨debug, scope⟩ ls).Ends (ls.findSome? fun _ => none)
      (reports (fun _ => report) [] ls) := by
    refine ends_run (fun _ d => d.scope = scope) (fun _ => rfl) (fun _ _ _ => rfl) ?_ rfl
    rintro l _ above d rfl
    exact ⟨hline rfl, fun _ => scope_of_bodyLine hscope⟩
  rwa [reports_const, List.findSome?_eq_none_iff.mpr fun _ _ => rfl] at h

theorem ends_preamble (debug : DebugFlags) (ls : List Line) :
    (bodyLines v ⟨debug, .outside⟩ ls).Ends none (ls.flatMap Line.strayDiagnostics) :=
  ends_unopened debug ls (Or.inl rfl) ends_bodyLine_outside

theorem ends_discarded (debug : DebugFlags) (ls : List Line) :
    (bodyLines v ⟨debug, .discarded⟩ ls).Ends none [] := by
  have h := ends_unopened (v := v) debug ls (Or.inr rfl) ends_bodyLine_discarded
  rwa [List.flatMap_eq_nil_iff.mpr fun _ _ => rfl] at h

theorem ends_body (debug : DebugFlags) (ls : List Line) (hs : opened.bindings = []) :
    (bodyLines v ⟨debug, .within opened []⟩ ls).Ends (ls.findSome? Line.fault?)
      (reports (Line.diagnostics v opened.name) [] ls) := by
  refine ends_run
    (fun above d => ∃ s defined, d.scope = .within s defined ∧ Filled v opened above s defined)
    (fun _ => rfl) (fun _ _ _ => rfl) ?_ ⟨opened, [], rfl, Filled.nil hs⟩
  -- the designators remembered are those that the lines above define
  rintro l _ above ⟨debug, scope⟩ ⟨s, defined, hscope, hfilled⟩
  obtain rfl : scope = .within s defined := hscope
  refine ⟨?_, fun d' hd' => hfilled.advance (advances_of_bodyLine hd')⟩
  rw [← hfilled.name]
  exact ends_bodyLine_within rfl hfilled

end Lines

section Headers

variable {table table' : Table} {b : Block} {bs : List Block}

/-- A header with a closed bracket and no pattern opens a default section. -/
def Line.OpensDefault (l : Line) : Prop := ']' ∈ l.text ∧ l.patternText.isEmpty = true

instance (l : Line) : Decidable l.OpensDefault := inferInstanceAs (Decidable (_ ∧ _))

/-- The diagnostics of a header, where the default section so far has the given name. -/
def Line.headerDiagnostics (v : Vocabulary) (previous : Option String) (l : Line) :
    List Diagnostic :=
  if ']' ∉ l.text then
    [⟨l.number, .unterminatedHeader (String.ofList l.text), none, none⟩]
  else if l.patternText.isEmpty then
    previous.toList.map fun old => ⟨l.number, .replacesDefault l.title old, none, none⟩
  else match v.readPattern l.patternText with
    | .error (.flaw flaw place) =>
      let reason := Pattern.describeFlaw l.patternText.toList flaw place
      [⟨l.number, .badPattern l.title reason, none, none⟩]
    | _ => []

/-- The name of the last default section in some blocks. -/
def lastDefault? (bs : List Block) : Option String :=
  ((bs.filter (·.header.OpensDefault)).getLast?).map (·.header.title)

/-- The diagnostics of a block, under the blocks that stand above it. -/
def Block.diagnostics (v : Vocabulary) (above : List Block) (b : Block) : List Diagnostic :=
  b.header.headerDiagnostics v (lastDefault? above) ++
    if b.header.Accepted v then reports (Line.diagnostics v b.header.title) [] b.body else []

/-- The diagnostics of a rule file. -/
def diagnosticsOf (v : Vocabulary) (text : String) : List Diagnostic :=
  ((linesOf text).takeWhile (!·.isHeader)).flatMap Line.strayDiagnostics ++
    reports (Block.diagnostics v) [] (headed (linesOf text))

theorem ends_trace_if {α : Type} {c : Prop} [Decidable c] {trace : String} {r : Reading α}
    {stop : Option Fault} {ds : List Diagnostic} (h : r.Ends stop ds) :
    (if c then note (.trace trace) >>= fun _ => r else r).Ends stop ds := by
  split
  · exact (ends_trace trace).silently_then fun _ _ => h
  · exact h

theorem ends_openSection (hl : l.isHeader = true) :
    (openSection v table l).Ends (l.headerFault? v)
      (l.headerDiagnostics v ((table.sectionAt table.default).map (·.name))) := by
  unfold openSection Line.headerFault? Line.headerDiagnostics
  by_cases hc : ']' ∈ l.text
  · rw [Line.headerParts?_of_closed hl hc]
    refine ends_trace_if ?_
    cases he : l.patternText.isEmpty with
    | true =>
      simp only [hc, if_true, not_true, if_false, and_false, Bool.true_eq_false]
      cases table.sectionAt table.default with
      | none => exact ends_ok _
      | some old => exact (ends_report _).then_silently fun _ => ends_ok _
    | false =>
      simp only [hc, if_true, not_true, if_false, and_self, Bool.false_eq_true]
      cases v.readPattern l.patternText with
      | ok pattern => exact ends_ok _
      | error e =>
        cases e with
        | fault f => rfl
        | flaw flaw place => exact (ends_report _).then_silently fun _ => ends_ok _
  · rw [Line.headerParts?_of_open hc]
    simp only [hc, false_and, if_false, not_false_eq_true, if_true]
    exact (ends_report _).then_silently fun _ => ends_ok _

theorem ends_compileBlock (hb : b.header.isHeader = true) :
    (compileBlock v table b).Ends (b.fault? v)
      (b.header.headerDiagnostics v ((table.sectionAt table.default).map (·.name)) ++
        if b.header.Accepted v then reports (Line.diagnostics v b.header.title) [] b.body
        else []) := by
  refine (ends_openSection hb).bind ?_
  intro o ho
  rw [result_openSection hb ho]
  by_cases ha : b.header.Accepted v
  · simp only [if_pos ha]
    refine Ends.then_silently (ends_body _ _ rfl) ?_
    intro d
    cases d.scope <;> exact ends_ok _
  · simp only [if_neg ha]
    refine Ends.then_silently (ends_discarded _ _) ?_
    intro d
    cases d.scope <;> exact ends_ok _

theorem lastDefault?_append :
    lastDefault? (bs ++ [b]) =
      if b.header.OpensDefault then some b.header.title else lastDefault? bs := by
  unfold lastDefault?
  rw [List.filter_append]
  by_cases hb : b.header.OpensDefault
  · rw [List.filter_cons_of_pos (by simpa using hb), if_pos hb]
    simp
  · rw [List.filter_cons_of_neg (by simpa using hb), if_neg hb]
    simp

theorem isDefault_iff (hs : SectionOf v b s) (ha : b.header.Accepted v) :
    s.isDefault = true ↔ b.header.OpensDefault := by
  rw [Section.isDefault, hs.pattern, Option.isNone_iff_eq_none, Line.pattern?]
  by_cases he : b.header.patternText.isEmpty = true
  · simp [he, Line.OpensDefault, ha.1]
  · obtain ⟨pattern, hp⟩ : ∃ p, v.readPattern b.header.patternText = .ok p := by
      have hok := ha.2.resolve_left he
      cases hp : v.readPattern b.header.patternText with
      | error e =>
        rw [hp] at hok
        cases hok
      | ok p => exact ⟨p, rfl⟩
    simp [he, hp, Line.OpensDefault, Except.toOption]

theorem defaultName_addSection (table : Table) (s : Section)
    (h : IsLastDefault table.sections table.default) :
    ((addSection table s).sectionAt (addSection table s).default).map (·.name) =
      if s.isDefault then some s.name else (table.sectionAt table.default).map (·.name) := by
  unfold addSection Table.sectionAt
  cases s.isDefault with
  | true => simp
  | false =>
    cases hd : table.default with
    | none => rfl
    | some i =>
      rw [hd] at h
      obtain ⟨before, d, after, hss, rfl, _⟩ := h
      simp [hss]

/-- The default section of a table is known by the headers above. -/
structure Named (bs : List Block) (table : Table) : Prop where
  default : IsLastDefault table.sections table.default
  name : (table.sectionAt table.default).map (·.name) = lastDefault? bs

theorem Named.block (h : Named bs table) (hb : b.header.isHeader = true)
    (ht : (compileBlock v table b).result = .ok table') : Named (bs ++ [b]) table' := by
  by_cases ha : b.header.Accepted v
  · obtain ⟨s, debug, hs, -, rfl⟩ := compileBlock_of_accepted hb ha ht
    refine ⟨IsLastDefault.addSection h.default s, ?_⟩
    rw [defaultName_addSection { table with debug } s h.default, lastDefault?_append]
    by_cases hd : b.header.OpensDefault
    · rw [if_pos ((isDefault_iff hs ha).mpr hd), if_pos hd, hs.name]
    · rw [if_neg (mt (isDefault_iff hs ha).mp hd), if_neg hd]
      exact h.name
  · obtain ⟨debug, rfl⟩ := compileBlock_of_not_accepted hb ha ht
    refine ⟨h.default, ?_⟩
    have hd : ¬b.header.OpensDefault := fun hd => ha ⟨hd.1, Or.inl hd.2⟩
    rw [lastDefault?_append, if_neg hd]
    exact h.name

theorem ends_compileBlocks (debug : DebugFlags) (hbs : ∀ b ∈ bs, b.header.isHeader = true) :
    (compileBlocks v { debug } bs).Ends (bs.findSome? (Block.fault? v))
      (reports (Block.diagnostics v) [] bs) := by
  refine ends_run Named (fun _ => rfl) (fun _ _ _ => rfl) ?_
    ⟨by simp [IsLastDefault], rfl⟩
  intro b hb above table h
  refine ⟨?_, fun table' => h.block (hbs b hb)⟩
  rw [Block.diagnostics, ← h.name]
  exact ends_compileBlock (hbs b hb)

/-- The reading of a rule file ends with its first fault, or with a table and the diagnostics of its
lines. -/
theorem ends_compile (v : Vocabulary) (debug : DebugFlags) (text : String) :
    (compile v debug text).Ends (firstFault? v text) (diagnosticsOf v text) := by
  unfold compile
  rw [blocksOf_eq]
  exact (ends_preamble debug _).bind fun d _ =>
    ends_compileBlocks d.debug fun b hb => isHeader_of_mem_headed hb

theorem result_of_firstFault? {debug : DebugFlags} {text : String} {f : Fault}
    (h : firstFault? v text = some f) : (compile v debug text).result = .error f := by
  have hends := ends_compile v debug text
  rwa [h] at hends

theorem exists_table_of_firstFault? (debug : DebugFlags) {text : String}
    (h : firstFault? v text = none) : ∃ t, (compile v debug text).result = .ok t := by
  have hends := ends_compile v debug text
  rw [h] at hends
  exact hends.1

theorem firstFault?_of_ok {debug : DebugFlags} {text : String} {t : Table}
    (h : (compile v debug text).result = .ok t) : firstFault? v text = none := by
  cases hf : firstFault? v text with
  | none => rfl
  | some f =>
    rw [result_of_firstFault? hf] at h
    cases h

theorem diagnostics_of_ok {debug : DebugFlags} {text : String} {t : Table}
    (h : (compile v debug text).result = .ok t) :
    (compile v debug text).diagnostics = diagnosticsOf v text := by
  have hends := ends_compile v debug text
  rw [firstFault?_of_ok h] at hends
  exact hends.2

end Headers

/-- The reading of a rule file is stopped by nothing but a header whose pattern ends in a fault and a
designator of an open section that is too long. Unless one of these stands in the file, there is a
table, and every other problem is a diagnostic. -/
theorem reading_stops_only_at_faults (v : Vocabulary) (debug : DebugFlags) (text : String) :
    (match firstFault? v text with
      | some f => (compile v debug text).result = .error f
      | none => (∃ t, (compile v debug text).result = .ok t) ∧
          (compile v debug text).diagnostics = diagnosticsOf v text) ∧
    (firstFault? v text = none ↔ ∀ b ∈ headed (linesOf text),
      (∀ p, ¬b.header.Unreadable v p) ∧
        (b.header.Accepted v → ∀ l ∈ b.body, ∀ n, ¬l.Overlong n)) ∧
    (∀ f ∈ firstFault? v text, ∃ b ∈ headed (linesOf text),
      (∃ p, b.header.Unreadable v p ∧ f = .pattern p) ∨
        b.header.Accepted v ∧ ∃ l ∈ b.body, ∃ n, l.Overlong n ∧ f = .digits n) := by
  refine ⟨ends_compile v debug text, ?_, ?_⟩
  · rw [firstFault?, List.findSome?_eq_none_iff]
    simp only [Block.fault?_eq_none_iff]
  · intro f hf
    obtain ⟨b, hb, hfault⟩ := List.exists_of_findSome?_eq_some hf
    exact ⟨b, hb, Block.cause_of_fault? hfault⟩

/-- A rule file with a pattern that repeats too often. -/
def excessiveRules : String := "[A] a\x7b4294967295\x7d\nK1 \"a\"\n"

theorem excessive_repetition_stops_reading :
    (compile .standard {} excessiveRules).result = .error (.pattern .repetition) :=
  result_of_firstFault? (by decide +kernel)

end Rule

end JogShuttle
