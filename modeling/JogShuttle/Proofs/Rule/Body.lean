import JogShuttle.Proofs.Rule.Definition

/-!
# The lines under a header

While the lines under a header are read, the section that it opened binds what the lines so far
define, first definitions first, and remembers the designators that occurred in them. A header that
opened no section makes nothing of its lines.
-/

set_option autoImplicit false

namespace JogShuttle.Rule

open Reading

variable {v : Vocabulary} {debug : DebugFlags} {s s' opened : Section} {defined : List String}
variable {l : Line} {ls : List Line} {t : Target} {tokens : List Token} {r : Halves} {slot : Slot}

/-- A section with the slots of a target bound to what the halves of a sequence send. -/
structure BoundTo (s : Section) (t : Target) (r : Halves) (s' : Section) : Prop where
  name : s'.name = s.name
  pattern : s'.pattern = s.pattern
  binding : ∀ slot, s'.binding slot =
    if t.covers slot then Section.bound? (r.half slot) else s.binding slot
  distinct : s.Distinct → s'.Distinct

theorem boundTo_of_bindTarget (ht : t ∈ Target.all)
    (h : (bindTarget v debug s t r).result = .ok s') : BoundTo s t r s' := by
  obtain ⟨s₁, h₁, h⟩ := result_bind_ok_iff.mp h
  rw [result_orFault] at h₁
  rcases Target.key_or_single ht with ⟨n, rfl⟩ | ⟨x, rfl, hx⟩
  · obtain ⟨s₂, h₂, h⟩ := result_bind_ok_iff.mp h
    rw [result_orFault] at h₂
    change s.bind (.keyDown n) r.press = .ok s₁ at h₁
    rw [result_bind_of_ok (result_traceSlot _ _ _ _),
      result_bind_of_ok (result_traceSlot _ _ _ _)] at h
    cases h
    obtain ⟨_, hs₁⟩ := Section.bind_ok h₁
    obtain ⟨_, hs₂⟩ := Section.bind_ok h₂
    refine ⟨by rw [hs₂, hs₁], by rw [hs₂, hs₁], ?_, fun hs => (hs.bind h₁).bind h₂⟩
    intro slot
    rw [Section.binding_of_bind h₂, Section.binding_of_bind h₁]
    by_cases hu : slot = .keyUp n
    · simp [hu, Target.covers_key, Halves.half]
    · by_cases hd : slot = .keyDown n
      · simp [hd, Target.covers_key, Halves.half]
      · simp [hu, hd, Target.covers_key]
  · change s.bind x r.press = .ok s₁ at h₁
    change (traceSlot _ _ _ _ >>= fun _ => pure s₁).result = .ok s' at h
    rw [result_bind_of_ok (result_traceSlot _ _ _ _)] at h
    cases h
    obtain ⟨_, hs₁⟩ := Section.bind_ok h₁
    refine ⟨by rw [hs₁], by rw [hs₁], ?_, fun hs => hs.bind h₁⟩
    intro slot
    rw [Section.binding_of_bind h₁]
    by_cases hs : slot = x
    · simp [hs, Target.covers_single, r.half_of_single hx]
    · simp [hs, Target.covers_single]

/-- The steps that the tokens behind a designator stand for, built into halves. -/
def Built (v : Vocabulary) (t : Target) (tokens : List Token) (r : Halves) : Prop :=
  Halves.ofSteps? t.isKey (Output.ofTokens v.keysyms t.isKey tokens).steps = .ok r

theorem boundTo_of_define {number : Nat} (ht : t ∈ Target.all)
    (h : (define v debug number s t tokens).result = .ok s') :
    ∃ r, Built v t tokens r ∧ BoundTo s t r s' := by
  unfold define at h
  simp only at h
  rw [result_bind_of_ok (result_reportAll _ _ _ _)] at h
  obtain ⟨r, hr, h⟩ := result_bind_ok_iff.mp h
  rw [result_orFault] at hr
  refine ⟨r, ?_, boundTo_of_bindTarget ht h⟩
  unfold Built
  cases hb : Halves.ofSteps? t.isKey (Output.ofTokens v.keysyms t.isKey tokens).steps with
  | error e =>
    rw [hb] at hr
    cases hr
  | ok q =>
    rw [hb] at hr
    cases hr
    rfl

/-- What a line makes of an open section: the section stays as it is, unless the line defines a
target that was not defined yet. -/
def Advances (v : Vocabulary) (s : Section) (defined : List String) (l : Line) (scope : Scope) :
    Prop :=
  (scope = .within s defined ∧
    ∀ t tokens, l.definition? = some (t, tokens) → t.slot.designator ∈ defined) ∨
  ∃ t tokens r s', l.definition? = some (t, tokens) ∧ t.slot.designator ∉ defined ∧
    Built v t tokens r ∧ BoundTo s t r s' ∧ scope = .within s' (t.slot.designator :: defined)

theorem advances_of_definition?_none (h : l.definition? = none) :
    Advances v s defined l (.within s defined) := by
  refine Or.inl ⟨rfl, ?_⟩
  intro t tokens hs
  rw [h] at hs
  cases hs

theorem advances_of_slotLine {number : Nat} {first : Token} {scope : Scope}
    (hall : Token.all l.text = first :: tokens)
    (h : (slotLine v debug number s defined first tokens).result = .ok scope) :
    Advances v s defined l scope := by
  unfold slotLine at h
  simp only at h
  cases hq : first.quoted with
  | true =>
    simp only [hq, if_true] at h
    rw [result_bind_of_ok (result_pure _), result_bind_of_ok (result_report _ _ _ _)] at h
    cases h
    exact advances_of_definition?_none (Line.definition?_of_quoted hall hq)
  | false =>
    simp only [hq, Bool.false_eq_true, if_false] at h
    obtain ⟨target, htarget, h⟩ := result_bind_ok_iff.mp h
    rw [result_orFault] at htarget
    have hd : Target.ofDesignator? first.text = .ok target := by
      cases hd : Target.ofDesignator? first.text with
      | error n =>
        rw [hd] at htarget
        cases htarget
      | ok found =>
        rw [hd] at htarget
        cases htarget
        rfl
    cases target with
    | none =>
      rw [result_bind_of_ok (result_report _ _ _ _)] at h
      cases h
      exact advances_of_definition?_none (Line.definition?_of_none hall hd)
    | some t =>
      have hdef := Line.definition?_of_some hall hq hd
      simp only [List.contains_eq_mem] at h
      by_cases hin : t.slot.designator ∈ defined
      · rw [if_pos (by simpa using hin), result_bind_of_ok (result_report _ _ _ _)] at h
        cases h
        refine Or.inl ⟨rfl, ?_⟩
        intro u us hu
        rw [hdef] at hu
        cases hu
        exact hin
      · rw [if_neg (by simpa using hin)] at h
        obtain ⟨s', hs', h⟩ := result_bind_ok_iff.mp h
        cases h
        obtain ⟨r, hr, hbound⟩ := boundTo_of_define (Line.mem_all_of_definition? hdef) hs'
        exact Or.inr ⟨t, tokens, r, s', hdef, hin, hr, hbound, rfl⟩

/-- What a line that is read makes of the lines before it: it switches on a flag at most, or it is
meant for a slot and changes nothing but an open section. -/
theorem bodyLine_cases {d d' : Draft} (h : (bodyLine v d l).result = .ok d') :
    (l.subject? = none ∧ d' = { d with debug := d.debug.union (l.directive?.getD {}) }) ∨
    ∃ first tokens, l.subject? = some first ∧ Token.all l.text = first :: tokens ∧
      ((d.scope = .outside ∨ d.scope = .discarded) ∧ d' = d ∨
        ∃ s defined scope, d.scope = .within s defined ∧
          (slotLine v d.debug l.number s defined first tokens).result = .ok scope ∧
          d' = { d with scope }) := by
  cases hsub : l.subject? with
  | none =>
    rw [bodyLine_of_subject?_none d hsub] at h
    exact .inl ⟨rfl, (Except.ok.inj h).symm⟩
  | some first =>
    obtain ⟨tokens, hall, hline⟩ := bodyLine_of_subject? (v := v) d hsub
    rw [hline] at h
    refine .inr ⟨first, tokens, rfl, hall, ?_⟩
    cases hscope : d.scope with
    | outside =>
      rw [hscope] at h
      exact .inl ⟨.inl rfl, (Except.ok.inj h).symm⟩
    | discarded =>
      rw [hscope] at h
      exact .inl ⟨.inr rfl, (Except.ok.inj h).symm⟩
    | within s defined =>
      rw [hscope] at h
      obtain ⟨scope, hslot, h⟩ := result_bind_ok_iff.mp h
      exact .inr ⟨s, defined, scope, rfl, hslot, (Except.ok.inj h).symm⟩

theorem advances_of_bodyLine {d : Draft}
    (h : (bodyLine v ⟨debug, .within s defined⟩ l).result = .ok d) :
    Advances v s defined l d.scope := by
  rcases bodyLine_cases h with ⟨hsub, rfl⟩ |
    ⟨first, tokens, -, hall, ⟨hscope, -⟩ | ⟨_, _, scope, hscope, hslot, rfl⟩⟩
  · exact advances_of_definition?_none (Line.definition?_of_subject?_none hsub)
  · rcases hscope with hscope | hscope <;> cases hscope
  · cases hscope
    exact advances_of_slotLine hall hslot

/-- What lines bind a slot to: the half that belongs to the slot in the sequence of the first line
that defines it. -/
def BoundBy (v : Vocabulary) (ls : List Line) (slot : Slot) (binding : Option (List Stroke)) :
    Prop :=
  match ls.findSome? (Line.defines? slot) with
  | none => binding = none
  | some (t, tokens) => ∃ r, Built v t tokens r ∧ binding = Section.bound? (r.half slot)

theorem BoundBy.append {binding : Option (List Stroke)} (h : BoundBy v ls slot binding)
    (hl : l.defines? slot = none ∨ ∃ l' ∈ ls, (l'.defines? slot).isSome = true) :
    BoundBy v (ls ++ [l]) slot binding := by
  have hfirst : (ls ++ [l]).findSome? (Line.defines? slot) = ls.findSome? (Line.defines? slot) := by
    rw [List.findSome?_append]
    rcases hl with hl | hl
    · simp [hl]
    · obtain ⟨p, hp⟩ := Option.isSome_iff_exists.mp (List.findSome?_isSome_iff.mpr hl)
      rw [hp, Option.some_or]
  unfold BoundBy
  rw [hfirst]
  exact h

theorem boundBy_of_first (hls : ∀ l' ∈ ls, l'.defines? slot = none)
    (hl : l.defines? slot = some (t, tokens)) (hr : Built v t tokens r) :
    BoundBy v (ls ++ [l]) slot (Section.bound? (r.half slot)) := by
  have hfirst : (ls ++ [l]).findSome? (Line.defines? slot) = some (t, tokens) := by
    rw [List.findSome?_append, List.findSome?_eq_none_iff.mpr hls, Option.none_or]
    simp [hl]
  unfold BoundBy
  rw [hfirst]
  exact ⟨r, hr, rfl⟩

/-- What a slot is bound to is its half of what some line builds, and it is not empty. -/
theorem BoundBy.exists_built {strokes : List Stroke} (h : BoundBy v ls slot (some strokes)) :
    ∃ l ∈ ls, ∃ t tokens r, l.definition? = some (t, tokens) ∧ t.covers slot = true ∧
      Built v t tokens r ∧ strokes = r.half slot ∧ strokes ≠ [] := by
  unfold BoundBy at h
  split at h
  · cases h
  · next t tokens hfirst =>
    obtain ⟨r, hr, hstrokes⟩ := h
    obtain ⟨hne, rfl⟩ := Section.bound?_eq_some_iff.mp hstrokes.symm
    obtain ⟨l, hl, hdefines⟩ := List.exists_of_findSome?_eq_some hfirst
    obtain ⟨hdef, hcovers⟩ := Line.defines?_eq_some_iff.mp hdefines
    exact ⟨l, hl, t, tokens, r, hdef, hcovers, hr, rfl, hne⟩

/-- A section as it was opened, with what lines define in it. -/
structure Filled (v : Vocabulary) (opened : Section) (ls : List Line) (s : Section)
    (defined : List String) : Prop where
  name : s.name = opened.name
  pattern : s.pattern = opened.pattern
  defined_iff : ∀ t ∈ Target.all, t.slot.designator ∈ defined ↔
    ∃ l ∈ ls, ∃ tokens, l.definition? = some (t, tokens)
  bound : ∀ slot, BoundBy v ls slot (s.binding slot)
  distinct : s.Distinct

theorem Filled.nil (h : opened.bindings = []) : Filled v opened [] opened [] where
  name := rfl
  pattern := rfl
  defined_iff := by simp
  bound slot := by simp [BoundBy, Section.binding, h]
  distinct := by simp [Section.Distinct, h]

theorem Filled.skip (h : Filled v opened ls s defined)
    (hl : ∀ t tokens, l.definition? = some (t, tokens) → t.slot.designator ∈ defined) :
    Filled v opened (ls ++ [l]) s defined where
  name := h.name
  pattern := h.pattern
  defined_iff t ht := by
    rw [h.defined_iff t ht]
    constructor
    · rintro ⟨l', hl', hdef⟩
      exact ⟨l', List.mem_append_left _ hl', hdef⟩
    · rintro ⟨l', hl', tokens, hdef⟩
      rcases List.mem_append.mp hl' with hl' | hl'
      · exact ⟨l', hl', tokens, hdef⟩
      · rw [List.mem_singleton.mp hl'] at hdef
        exact (h.defined_iff t ht).mp (hl t tokens hdef)
  bound slot := by
    refine (h.bound slot).append ?_
    cases hs : l.defines? slot with
    | none => exact Or.inl rfl
    | some p =>
      obtain ⟨hdef, hc⟩ := Line.defines?_eq_some_iff.mp hs
      obtain ⟨l', hl', tokens, hdef'⟩ :=
        (h.defined_iff _ (Line.mem_all_of_definition? hdef)).mp (hl _ _ hdef)
      refine Or.inr ⟨l', hl', ?_⟩
      rw [Line.defines?_eq_some_iff.mpr ⟨hdef', hc⟩, Option.isSome_some]
  distinct := h.distinct

theorem Filled.defines?_eq_none (h : Filled v opened ls s defined) (ht : t ∈ Target.all)
    (hnew : t.slot.designator ∉ defined) (hc : t.covers slot = true) :
    ∀ l' ∈ ls, l'.defines? slot = none := by
  intro l' hl'
  cases hd : l'.defines? slot with
  | none => rfl
  | some p =>
    -- a line for the slot would have defined the same target
    obtain ⟨hdef, hc'⟩ := Line.defines?_eq_some_iff.mp hd
    have heq := Target.eq_of_covers (Line.mem_all_of_definition? hdef) ht hc' hc
    exact absurd ((h.defined_iff t ht).mpr ⟨l', hl', p.2, heq ▸ hdef⟩) hnew

/-- The slots of a target that was not defined yet are free. -/
theorem Filled.binding_eq_none (h : Filled v opened ls s defined) (ht : t ∈ Target.all)
    (hnew : t.slot.designator ∉ defined) (hc : t.covers slot = true) : s.binding slot = none := by
  have hb := h.bound slot
  rwa [BoundBy, List.findSome?_eq_none_iff.mpr (h.defines?_eq_none ht hnew hc)] at hb

theorem Filled.define (h : Filled v opened ls s defined) (hdef : l.definition? = some (t, tokens))
    (hnew : t.slot.designator ∉ defined) (hr : Built v t tokens r) (hs : BoundTo s t r s') :
    Filled v opened (ls ++ [l]) s' (t.slot.designator :: defined) where
  name := by rw [hs.name, h.name]
  pattern := by rw [hs.pattern, h.pattern]
  defined_iff u hu := by
    rw [List.mem_cons]
    constructor
    · rintro (heq | hmem)
      · rw [Target.eq_of_designator_eq hu (Line.mem_all_of_definition? hdef) heq]
        exact ⟨l, by simp, tokens, hdef⟩
      · obtain ⟨l', hl', hdef'⟩ := (h.defined_iff u hu).mp hmem
        exact ⟨l', List.mem_append_left _ hl', hdef'⟩
    · rintro ⟨l', hl', tokens', hdef'⟩
      rcases List.mem_append.mp hl' with hl' | hl'
      · exact Or.inr ((h.defined_iff u hu).mpr ⟨l', hl', tokens', hdef'⟩)
      · rw [List.mem_singleton.mp hl', hdef] at hdef'
        cases hdef'
        exact Or.inl rfl
  bound slot := by
    rw [hs.binding slot]
    cases hc : t.covers slot with
    | true =>
      rw [if_pos rfl]
      exact boundBy_of_first (h.defines?_eq_none (Line.mem_all_of_definition? hdef) hnew hc)
        (Line.defines?_eq_some_iff.mpr ⟨hdef, hc⟩) hr
    | false =>
      rw [if_neg Bool.false_ne_true]
      refine (h.bound slot).append (Or.inl ?_)
      rw [Line.defines?, hdef, Option.filter_some, if_neg (by simp [hc])]
  distinct := hs.distinct h.distinct

theorem Filled.advance {scope : Scope} (h : Filled v opened ls s defined)
    (ha : Advances v s defined l scope) :
    ∃ s' defined', scope = .within s' defined' ∧ Filled v opened (ls ++ [l]) s' defined' := by
  rcases ha with ⟨hscope, hl⟩ | ⟨t, tokens, r, s', hdef, hnew, hr, hs, hscope⟩
  · exact ⟨s, defined, hscope, h.skip hl⟩
  · exact ⟨s', _, hscope, h.define hdef hnew hr hs⟩

theorem Filled.lines {d : Draft} {rest : List Line} (h : Filled v opened ls s defined)
    (hd : (bodyLines v ⟨debug, .within s defined⟩ rest).result = .ok d) :
    ∃ s' defined', d.scope = .within s' defined' ∧
      Filled v opened (ls ++ rest) s' defined' := by
  induction rest generalizing debug s defined ls with
  | nil =>
    cases hd
    exact ⟨s, defined, rfl, by rwa [List.append_nil]⟩
  | cons l rest ih =>
    obtain ⟨d₁, hd₁, hd⟩ := result_bind_ok_iff.mp hd
    obtain ⟨s₁, defined₁, hscope, h₁⟩ := h.advance (advances_of_bodyLine hd₁)
    obtain ⟨flags, scope⟩ := d₁
    obtain rfl : scope = .within s₁ defined₁ := hscope
    obtain ⟨s', defined', hd', h'⟩ := ih h₁ hd
    exact ⟨s', defined', hd', by rwa [List.append_assoc, List.singleton_append] at h'⟩

/-- Where no section is open, lines open none. -/
theorem scope_of_bodyLine {d d' : Draft} (hd : d.scope = .outside ∨ d.scope = .discarded)
    (h : (bodyLine v d l).result = .ok d') : d'.scope = d.scope := by
  rcases bodyLine_cases h with ⟨-, rfl⟩ | ⟨_, _, -, -, ⟨-, rfl⟩ | ⟨_, _, _, hwithin, -, -⟩⟩
  · rfl
  · rfl
  · rw [hwithin] at hd
    rcases hd with hd | hd <;> cases hd

theorem scope_of_bodyLines {d d' : Draft} (hd : d.scope = .outside ∨ d.scope = .discarded)
    (h : (bodyLines v d ls).result = .ok d') : d'.scope = d.scope := by
  induction ls generalizing d with
  | nil =>
    cases h
    rfl
  | cons l ls ih =>
    obtain ⟨d₁, hd₁, h⟩ := result_bind_ok_iff.mp h
    have hs := scope_of_bodyLine hd hd₁
    rw [ih (by rwa [hs]) h, hs]

end JogShuttle.Rule
