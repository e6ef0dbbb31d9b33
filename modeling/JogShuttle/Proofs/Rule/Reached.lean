import JogShuttle.Proofs.Rule.JoinedReport

/-!
# The lines that are reached

The compiler comes to a line in the state that the lines above have left. Where a section is open
there, the slots that it binds are those of targets that were defined, which are remembered whether
they were bound to anything or not. So the first definition of a target finds its slots free, and as
every output can be built, neither a build nor a section ever refuses what the compiler hands it.
-/

set_option autoImplicit false

namespace JogShuttle.Rule

open Reading

variable {v : Vocabulary} {debug flags : DebugFlags} {text : String} {l : Line} {d d' : Draft}
variable {s opened : Section} {defined : List String} {t : Target} {tokens : List Token}
variable {slot : Slot} {strokes : List Stroke}

/-- The scope of the first line under a header. -/
def Scope.under : Option Section → Scope
  | some s => .within s []
  | none => .discarded

/-- The compiler comes to a line, before the first header or in a block, with the flags and the
scope that the lines above have left. -/
inductive Reaches (v : Vocabulary) (debug : DebugFlags) (text : String) : Line → Draft → Prop
  | preamble {before after : List Line} {l : Line} {d : Draft}
      (hlines : (blocksOf (linesOf text)).1 = before ++ l :: after)
      (hbefore : (bodyLines v ⟨debug, .outside⟩ before).result = .ok d) : Reaches v debug text l d
  | block {above below : List Block} {b : Block} {before after : List Line} {l : Line}
      {first d : Draft} {table : Table} {o : Option Section}
      (hblocks : (blocksOf (linesOf text)).2 = above ++ b :: below)
      (hlines : b.body = before ++ l :: after)
      (hpreamble :
        (bodyLines v ⟨debug, .outside⟩ (blocksOf (linesOf text)).1).result = .ok first)
      (habove : (compileBlocks v { debug := first.debug } above).result = .ok table)
      (hheader : (openSection v table b.header).result = .ok o)
      (hbefore : (bodyLines v ⟨table.debug, .under o⟩ before).result = .ok d) :
      Reaches v debug text l d

section Lines

variable {ls ms : List Line}

theorem result_bodyLines_append (ls ms : List Line) :
    (bodyLines v d (ls ++ ms)).result = .ok d' ↔
      ∃ d₁, (bodyLines v d ls).result = .ok d₁ ∧ (bodyLines v d₁ ms).result = .ok d' := by
  induction ls generalizing d with
  | nil => simp [bodyLines, Reading.ok]
  | cons l ls ih =>
    simp only [List.cons_append, bodyLines, result_bind_ok_iff, ih]
    constructor
    · rintro ⟨d₁, h₁, d₂, h₂, h⟩
      exact ⟨d₂, ⟨d₁, h₁, h₂⟩, h⟩
    · rintro ⟨d₂, ⟨d₁, h₁, h₂⟩, h⟩
      exact ⟨d₁, h₁, d₂, h₂, h⟩

theorem bindings_of_openSection {header : Line} {table : Table} (hheader : header.isHeader = true)
    (h : (openSection v table header).result = .ok (some opened)) : opened.bindings = [] := by
  have ho := result_openSection hheader h
  split at ho
  · cases ho
    rfl
  · cases ho

/-- A section that is open at a line holds what the lines above in its block define. -/
theorem Reaches.filled (h : Reaches v debug text l ⟨flags, .within s defined⟩) :
    ∃ opened above, Filled v opened above s defined := by
  cases h with
  | preamble _ hbefore =>
    have hscope := scope_of_bodyLines (Or.inl rfl) hbefore
    cases hscope
  | @block above below b before after _ first _ table o hblocks _ _ _ hheader hbefore =>
    have hb : b.header.isHeader = true :=
      isHeader_of_mem_blocks b (hblocks ▸ List.mem_append_right above List.mem_cons_self)
    cases o with
    | none =>
      have hscope := scope_of_bodyLines (Or.inr rfl) hbefore
      cases hscope
    | some opened =>
      obtain ⟨s', defined', hscope, hfilled⟩ :=
        (Filled.nil (bindings_of_openSection hb hheader)).lines hbefore
      cases hscope
      exact ⟨opened, before, hfilled⟩

/-- If a text is compiled, every line under an accepted header is reached, and finds the section of
its header open. -/
theorem exists_reaches {table : Table} {b : Block} (h : (compile v debug text).result = .ok table)
    (hb : b ∈ headed (linesOf text)) (ha : b.header.Accepted v) (hl : l ∈ b.body) :
    ∃ flags s defined, Reaches v debug text l ⟨flags, .within s defined⟩ := by
  obtain ⟨first, hfirst, hblocks⟩ := result_compile_iff.mp h
  have hheader := isHeader_of_mem_headed hb
  rw [headed_eq] at hb
  obtain ⟨above, below, hsplit⟩ := List.append_of_mem hb
  obtain ⟨before, after, hlines⟩ := List.append_of_mem hl
  rw [hsplit] at hblocks
  obtain ⟨t₁, habove, hrest⟩ := (result_compileBlocks_append above (b :: below)).mp hblocks
  obtain ⟨t₂, hblock, _⟩ := result_bind_ok_iff.mp hrest
  obtain ⟨o, ho, hblock⟩ := result_bind_ok_iff.mp hblock
  obtain ⟨d', hd', _⟩ := result_bind_ok_iff.mp hblock
  have hopen := result_openSection hheader ho
  rw [if_pos ha] at hopen
  subst hopen
  rw [hlines] at hd'
  obtain ⟨⟨flags, scope⟩, hd, _⟩ := (result_bodyLines_append before (l :: after)).mp hd'
  obtain ⟨s, defined, hscope, _⟩ := (Filled.nil rfl).lines hd
  obtain rfl : scope = .within s defined := hscope
  exact ⟨flags, s, defined, .block hsplit hlines hfirst habove ho hd⟩

end Lines

section Errors

/-- A bound slot belongs to a target that was defined. -/
theorem Filled.defined_of_binding {above : List Line} (h : Filled v opened above s defined)
    (hs : s.binding slot = some strokes) :
    ∃ u ∈ Target.all, u.covers slot = true ∧ u.slot.designator ∈ defined := by
  have hbound := h.bound slot
  rw [hs] at hbound
  obtain ⟨l', hl', u, tokens, r, hdef, hcovers, -⟩ := hbound.exists_built
  have hu := Line.mem_all_of_definition? hdef
  exact ⟨u, hu, hcovers, (h.defined_iff u hu).mpr ⟨l', hl', tokens, hdef⟩⟩

theorem exists_bind (h : s.binding slot = none) (strokes : List Stroke) :
    ∃ s', s.bind slot strokes = .ok s' := by
  obtain ⟨⟨s', hs'⟩, _⟩ := ends_bindFree h strokes
  rw [result_orFault] at hs'
  exact ⟨s', hs'⟩

/-- A section takes both halves of a target whose slots are free. -/
theorem exists_binds (ht : t ∈ Target.all)
    (hfree : ∀ slot, t.covers slot = true → s.binding slot = none) (r : Halves) :
    ∃ s', s.bind t.slot r.press = .ok s' ∧
      ∀ slot ∈ t.release, ∃ s'', s'.bind slot r.release = .ok s'' := by
  have hslot : s.binding t.slot = none := hfree _ (Target.covers_iff.mpr (Or.inl rfl))
  obtain ⟨s', hs'⟩ := exists_bind hslot r.press
  refine ⟨s', hs', ?_⟩
  intro slot hrelease
  -- the slot of the release is another one, so that it is still free
  have hother : slot ≠ t.slot := by
    rcases Target.key_or_single ht with ⟨n, rfl⟩ | ⟨x, rfl, _⟩
    · cases hrelease
      simp [Target.key]
    · cases hrelease
  have hstill : s'.binding slot = none := by
    rw [Section.binding_of_bind hs', if_neg hother]
    exact hfree slot (Target.covers_iff.mpr (Or.inr hrelease.symm))
  exact exists_bind hstill r.release

/-- What stops the reading is never an error of a build or of a section. -/
theorem cause_of_error {f : Fault} (h : (compile v debug text).result = .error f) :
    (∃ p, f = .pattern p) ∨ ∃ n, f = .digits n := by
  have hfault : firstFault? v text = some f := by
    cases hf : firstFault? v text with
    | none =>
      obtain ⟨table, htable⟩ := exists_table_of_firstFault? debug hf
      rw [h] at htable
      cases htable
    | some f' =>
      rw [result_of_firstFault? hf] at h
      cases h
      rfl
  obtain ⟨b, _, hb⟩ := List.exists_of_findSome?_eq_some hfault
  rcases Block.cause_of_fault? hb with ⟨p, _, hp⟩ | ⟨_, _, _, n, _, hn⟩
  · exact Or.inl ⟨p, hp⟩
  · exact Or.inr ⟨n, hn⟩

end Errors

/-- At every line that is reached, the output of a definition has the boundary for keys alone and a
symbol in every other step, so that it is built, and the first definition of a target finds both its
slots free in the open section. No reading ends with an error of a build or of a section. -/
theorem builds_and_binds_taken (v : Vocabulary) (debug : DebugFlags) (text : String) :
    (∀ l flags s defined, Reaches v debug text l ⟨flags, .within s defined⟩ →
      (∀ slot strokes, s.binding slot = some strokes →
        ∃ u ∈ Target.all, u.covers slot = true ∧ u.slot.designator ∈ defined) ∧
      ∀ t tokens, l.definition? = some (t, tokens) →
        (∀ step ∈ (Output.ofTokens v.keysyms t.isKey tokens).steps,
          (step.mark = .release → t.release.isSome = true) ∧
          (step.mark ≠ .release → step.symbol.isSome = true)) ∧
        ∃ r, Halves.ofSteps? t.isKey (Output.ofTokens v.keysyms t.isKey tokens).steps = .ok r ∧
          (t.slot.designator ∉ defined → ∃ s', s.bind t.slot r.press = .ok s' ∧
            ∀ slot ∈ t.release, ∃ s'', s'.bind slot r.release = .ok s'')) ∧
    (∀ table, (compile v debug text).result = .ok table →
      ∀ b ∈ headed (linesOf text), b.header.Accepted v → ∀ l ∈ b.body,
        ∃ flags s defined, Reaches v debug text l ⟨flags, .within s defined⟩) ∧
    (∀ e, (compile v debug text).result ≠ .error (.build e)) ∧
    ∀ slot name, (compile v debug text).result ≠ .error (.bound slot name) := by
  refine ⟨?_, fun table h b hb ha l hl => exists_reaches h hb ha hl, ?_, ?_⟩
  · intro l flags s defined hreach
    obtain ⟨opened, above, hfilled⟩ := hreach.filled
    refine ⟨fun slot strokes hs => hfilled.defined_of_binding hs, ?_⟩
    intro t tokens hdef
    have ht := Line.mem_all_of_definition? hdef
    have hfits : ∀ step ∈ (Output.ofTokens v.keysyms t.isKey tokens).steps, step.Fits t.isKey :=
      Output.fits_ofTokens tokens
    constructor
    · intro step hstep
      have h := hfits step hstep
      unfold Step.Fits at h
      constructor
      · intro hmark
        rwa [if_pos hmark] at h
      · intro hmark
        rwa [if_neg hmark] at h
    · obtain ⟨r, hr⟩ := Halves.exists_ofSteps? hfits
      refine ⟨r, hr, ?_⟩
      intro hnew
      exact exists_binds ht (fun slot hc => hfilled.binding_eq_none ht hnew hc) r
  · intro e h
    rcases cause_of_error h with ⟨p, hp⟩ | ⟨n, hn⟩
    · cases hp
    · cases hn
  · intro slot name h
    rcases cause_of_error h with ⟨p, hp⟩ | ⟨n, hn⟩
    · cases hp
    · cases hn

/-- A key that is defined as nothing, a second definition of it, and another key. -/
def emptyKeyRules : String := "[]\nk1 \"\"\nK+01 XK_a\nK2 XK_a RELEASE XK_b\n"

def emptyKeyLines : List Line := [⟨2, "k1 \"\"".toList⟩, ⟨3, "K+01 XK_a".toList⟩]

/-- The line of the other key, below those of the first. -/
def otherKeyLine : Line := ⟨4, "K2 XK_a RELEASE XK_b".toList⟩

/-- An open section that binds nothing, with the given designators defined. -/
def Scope.remembers (designators : List String) : Scope → Bool
  | .within s defined => defined == designators && s.bindings.isEmpty
  | _ => false

/-- The first key is remembered though it is bound to nothing, and the other one finds its slots
free. -/
theorem builds_and_binds_taken_behind_emptyKey :
    ∃ flags s, Reaches .standard {} emptyKeyRules otherKeyLine ⟨flags, .within s ["K1"]⟩ ∧
      s.bindings = [] ∧ ∃ t tokens, otherKeyLine.definition? = some (t, tokens) ∧
        t.slot.designator ∉ ["K1"] ∧
        ∃ r, Halves.ofSteps? t.isKey
            (Output.ofTokens KeysymTable.standard t.isKey tokens).steps = .ok r ∧
          ∃ s', s.bind t.slot r.press = .ok s' ∧
            ∀ slot ∈ t.release, ∃ s'', s'.bind slot r.release = .ok s'' := by
  have hblocks : (blocksOf (linesOf emptyKeyRules)).2 =
      [] ++ ⟨⟨1, "[]".toList⟩, emptyKeyLines ++ otherKeyLine :: []⟩ :: [] := by decide +kernel
  have hheader : (openSection .standard {} ⟨1, "[]".toList⟩).result = .ok (some { name := "" }) :=
    rfl
  obtain ⟨⟨flags, scope⟩, hd, hp⟩ := exists_of_any
    (r := bodyLines .standard ⟨{}, .within { name := "" } []⟩ emptyKeyLines)
    (p := fun d => d.scope.remembers ["K1"]) (by decide +kernel)
  cases scope with
  | outside => cases hp
  | discarded => cases hp
  | within s defined =>
    simp only [Scope.remembers, Bool.and_eq_true, beq_iff_eq, List.isEmpty_iff] at hp
    obtain ⟨rfl, hempty⟩ := hp
    have hreach : Reaches .standard {} emptyKeyRules otherKeyLine ⟨flags, .within s ["K1"]⟩ :=
      .block hblocks rfl rfl rfl hheader hd
    obtain ⟨_, htaken⟩ := (builds_and_binds_taken .standard {} emptyKeyRules).1 _ _ _ _ hreach
    obtain ⟨⟨t, tokens⟩, hdef, ht⟩ : ∃ d, otherKeyLine.definition? = some d ∧
        d.1.slot.designator ∉ ["K1"] := by
      have hany : otherKeyLine.definition?.any (fun d => d.1.slot.designator ∉ ["K1"]) = true := by
        decide +kernel
      obtain ⟨d, hdef, hd⟩ := (Option.any_eq_true _ _).mp hany
      exact ⟨d, hdef, of_decide_eq_true hd⟩
    obtain ⟨_, r, hr, hbinds⟩ := htaken _ _ hdef
    exact ⟨flags, s, hreach, hempty, t, tokens, hdef, ht, r, hr, hbinds ht⟩

end JogShuttle.Rule
