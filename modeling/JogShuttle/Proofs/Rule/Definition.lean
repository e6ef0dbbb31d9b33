import JogShuttle.Proofs.Rule.Designator
import JogShuttle.Proofs.Rule.Reading
import JogShuttle.Proofs.Sequence.Modifiers

/-!
# Definitions of slots

A line is meant for a slot unless it is blank, a comment or a tracing directive. It defines the slots
of a target if its first token is unquoted and designates the target. In an open section the first
line that defines a slot counts and the others change nothing; so a section binds each slot to the
half that its first definition sends, unless there is none or it is empty.
-/

set_option autoImplicit false

namespace JogShuttle

/-- The half that a slot sends: a key going up sends the second, everything else the first. -/
def Halves.half (r : Halves) : Slot → List Stroke
  | .keyUp _ => r.release
  | _ => r.press

/-- A slot of no key sends the first half. -/
theorem Halves.half_of_single (r : Halves) {slot : Slot} (h : slot.isKey = false) :
    r.half slot = r.press := by
  cases slot with
  | keyUp n => cases h
  | _ => rfl

/-- No slot stands twice among the bindings of a section. -/
def Section.Distinct (s : Section) : Prop := (s.bindings.map Prod.fst).Nodup

/-- What a sequence binds a slot to: an empty one leaves it unbound. -/
def Section.bound? (strokes : List Stroke) : Option (List Stroke) :=
  if strokes.isEmpty then none else some strokes

theorem Halves.mem_of_mem_half {r : Halves} {slot : Slot} {k : Stroke} (h : k ∈ r.half slot) :
    k ∈ r.press ++ r.release := by
  cases slot with
  | keyUp n => exact List.mem_append_right _ h
  | _ => exact List.mem_append_left _ h

section Binding

variable {s s' : Section} {slot : Slot} {strokes : List Stroke}

theorem Section.bound?_eq_none_iff : Section.bound? strokes = none ↔ strokes = [] := by
  simp [bound?]

theorem Section.bound?_eq_some_iff {ss : List Stroke} :
    Section.bound? strokes = some ss ↔ strokes ≠ [] ∧ strokes = ss := by
  simp [bound?]

theorem Section.bind_ok (h : s.bind slot strokes = .ok s') :
    s.binding slot = none ∧ s' = { s with
      bindings := s.bindings ++ (Section.bound? strokes).toList.map (slot, ·) } := by
  unfold Section.bind at h
  split at h
  · cases h
  · rename_i hs
    refine ⟨by simpa using hs, ?_⟩
    split at h
    · rename_i he
      cases h
      simp [Section.bound?, he]
    · rename_i he
      cases h
      simp [Section.bound?, he]

theorem Section.binding_of_bind (h : s.bind slot strokes = .ok s') (x : Slot) :
    s'.binding x = if x = slot then Section.bound? strokes else s.binding x := by
  obtain ⟨hnone, rfl⟩ := Section.bind_ok h
  unfold Section.binding at hnone ⊢
  rw [List.lookup_append]
  by_cases hx : x = slot
  · subst x
    rw [hnone, if_pos rfl, Option.none_or]
    cases Section.bound? strokes <;> simp
  · rw [if_neg hx]
    have hl : ((Section.bound? strokes).toList.map (slot, ·)).lookup x = none := by
      cases Section.bound? strokes with
      | none => rfl
      | some ss => simpa using hx
    rw [hl, Option.or_none]

theorem Section.Distinct.bind (hs : s.Distinct) (h : s.bind slot strokes = .ok s') :
    s'.Distinct := by
  obtain ⟨hnone, rfl⟩ := Section.bind_ok h
  have hnew : slot ∉ s.bindings.map Prod.fst := by
    intro hmem
    obtain ⟨e, he, rfl⟩ := List.mem_map.mp hmem
    have hfound := lookup_of_mem hs he
    rw [Section.binding] at hnone
    rw [hnone] at hfound
    cases hfound
  unfold Section.Distinct at *
  cases Section.bound? strokes with
  | none => simpa using hs
  | some ss =>
    rw [List.map_append]
    refine List.nodup_append.mpr ⟨hs, List.nodup_singleton _, ?_⟩
    rintro x hx y hy rfl
    obtain rfl : x = slot := List.mem_singleton.mp hy
    exact hnew hx

end Binding

namespace Rule

namespace Line

/-- The target that a line defines and the tokens behind its designator. -/
def definition? (l : Line) : Option (Target × List Token) :=
  match Token.all l.text with
  | [] => none
  | first :: tokens =>
    if first.quoted then none
    else match Target.ofDesignator? first.text with
      | .ok (some t) => some (t, tokens)
      | _ => none

/-- The definition in a line, if it is one of the given slot. -/
def defines? (slot : Slot) (l : Line) : Option (Target × List Token) :=
  l.definition?.filter (·.1.covers slot)

/-- The first token of a line that is meant for a slot: not of a blank line, a comment or a tracing
directive. -/
def subject? (l : Line) : Option Token :=
  if l.isIdle then none
  else (Token.all l.text).head?.filter fun first =>
    first.quoted || (DebugFlags.ofDirective? (String.ofList first.text)).isNone

/-- The flag that a tracing directive switches on. -/
def directive? (l : Line) : Option DebugFlags :=
  if l.isIdle then none
  else (Token.all l.text).head?.bind fun first =>
    if first.quoted then none else DebugFlags.ofDirective? (String.ofList first.text)

variable {l : Line} {t : Target} {tokens : List Token} {first : Token}

theorem definition?_of_nil (h : Token.all l.text = []) : l.definition? = none := by
  simp [definition?, h]

theorem definition?_of_quoted (h : Token.all l.text = first :: tokens)
    (hq : first.quoted = true) : l.definition? = none := by
  simp [definition?, h, hq]

theorem definition?_of_none (h : Token.all l.text = first :: tokens)
    (hd : Target.ofDesignator? first.text = .ok none) : l.definition? = none := by
  simp [definition?, h, hd]

theorem definition?_of_some (h : Token.all l.text = first :: tokens) (hq : first.quoted = false)
    (hd : Target.ofDesignator? first.text = .ok (some t)) : l.definition? = some (t, tokens) := by
  simp [definition?, h, hq, hd]

theorem defines?_eq_some_iff {slot : Slot} : l.defines? slot = some (t, tokens) ↔
    l.definition? = some (t, tokens) ∧ t.covers slot = true := by
  rw [defines?, Option.filter_eq_some_iff]

theorem mem_all_of_definition? (h : l.definition? = some (t, tokens)) : t ∈ Target.all := by
  unfold definition? at h
  split at h
  · cases h
  · split at h
    · cases h
    · split at h
      · rename_i ht
        cases h
        exact Target.mem_all_of_ofDesignator? ht
      · cases h

/-- A word that begins a comment is the first token of its line. -/
theorem all_of_comment (cs : List Char) :
    ∃ word tokens, Token.all (Output.commentStart :: cs) = word :: tokens ∧
      ∃ rest, word.text = Output.commentStart :: rest := by
  have hnext : Token.next? (Output.commentStart :: cs) =
      some (Token.ofWord ((Output.commentStart :: cs).takeWhile Token.isWordChar)
        ((Output.commentStart :: cs).dropWhile Token.isWordChar)) := rfl
  refine ⟨_, _, Token.all_of_next?_some hnext, cs.takeWhile Token.isWordChar, ?_⟩
  have hword : ∀ w r : List Char, (Token.ofWord w r).text = w := by
    intro w r
    unfold Token.ofWord
    split
    · rfl
    · split
      · rfl
      · split <;> rfl
  rw [hword]
  rfl

theorem definition?_of_isIdle (h : l.isIdle = true) : l.definition? = none := by
  rw [isIdle, Bool.or_eq_true] at h
  rcases h with he | hc
  · have hnil : l.text = [] := by simpa using he
    exact definition?_of_nil (by rw [hnil, Token.all_of_next?_none rfl])
  · cases hl : l.text with
    | nil => exact definition?_of_nil (by rw [hl, Token.all_of_next?_none rfl])
    | cons c cs =>
      have hcs : c = Output.commentStart := by
        simpa [Output.isComment, hl] using hc
      obtain ⟨word, tokens, hall, rest, hword⟩ := all_of_comment cs
      refine definition?_of_none (by rw [hl, hcs, hall]) ?_
      rw [hword]
      rfl

/-- A directive designates no slot. -/
theorem ofDesignator?_of_directive {word : List Char} {flag : DebugFlags}
    (h : DebugFlags.ofDirective? (String.ofList word) = some flag) :
    Target.ofDesignator? word = .ok none := by
  have hword : ∀ {s : String}, String.ofList word = s → word = s.toList := by
    rintro s rfl
    simp
  unfold DebugFlags.ofDirective? at h
  split at h
  · rename_i hs
    rw [hword hs]
    rfl
  · split at h
    · rename_i hs
      rw [hword hs]
      rfl
    · split at h
      · rename_i hs
        rw [hword hs]
        rfl
      · cases h

/-- A line that is meant for a slot has a first token, which is no directive. -/
theorem exists_tokens_of_subject? (h : l.subject? = some first) :
    l.isIdle = false ∧ ∃ tokens, Token.all l.text = first :: tokens ∧
      (if first.quoted then none
        else DebugFlags.ofDirective? (String.ofList first.text)) = none := by
  unfold subject? at h
  split at h
  · cases h
  rename_i hidle
  cases hall : Token.all l.text with
  | nil =>
    rw [hall] at h
    cases h
  | cons first' tokens =>
    rw [hall, List.head?_cons, Option.filter_eq_some_iff] at h
    obtain ⟨hfirst, hsub⟩ := h
    cases hfirst
    refine ⟨by simpa using hidle, tokens, rfl, ?_⟩
    rw [Bool.or_eq_true, Option.isNone_iff_eq_none] at hsub
    split
    · rfl
    · rename_i hq
      exact hsub.resolve_left hq

/-- A line that is meant for no slot is idle, has no tokens or is a directive. -/
theorem cases_of_subject?_none (h : l.subject? = none) :
    l.isIdle = true ∨ l.isIdle = false ∧ (Token.all l.text = [] ∨
      ∃ first tokens flag, Token.all l.text = first :: tokens ∧ first.quoted = false ∧
        DebugFlags.ofDirective? (String.ofList first.text) = some flag) := by
  cases hidle : l.isIdle with
  | true => exact .inl rfl
  | false =>
    refine .inr ⟨rfl, ?_⟩
    rw [subject?, hidle, if_neg Bool.false_ne_true] at h
    cases hall : Token.all l.text with
    | nil => exact .inl rfl
    | cons first tokens =>
      rw [hall, List.head?_cons, Option.filter_eq_none_iff] at h
      have hfirst := h first rfl
      simp only [Bool.or_eq_true, not_or, Bool.not_eq_true, Option.isNone_eq_false_iff] at hfirst
      obtain ⟨flag, hflag⟩ := Option.isSome_iff_exists.mp hfirst.2
      exact .inr ⟨first, tokens, flag, rfl, hfirst.1, hflag⟩

theorem definition?_of_subject?_none (h : l.subject? = none) : l.definition? = none := by
  rcases cases_of_subject?_none h with hidle | ⟨-, hnil | ⟨first, tokens, flag, hall, -, hflag⟩⟩
  · exact definition?_of_isIdle hidle
  · exact definition?_of_nil hnil
  · exact definition?_of_none hall (ofDesignator?_of_directive hflag)

theorem directive?_of_subject? (h : l.subject? = some first) : l.directive? = none := by
  obtain ⟨hidle, tokens, hall, hnone⟩ := exists_tokens_of_subject? h
  rw [directive?, hidle, hall]
  exact hnone

end Line

section Lines

variable {v : Vocabulary} {l : Line} {first : Token}

/-- A line that is meant for no slot switches on its flag, if it is a directive. -/
theorem bodyLine_of_subject?_none (d : Draft) (h : l.subject? = none) :
    bodyLine v d l = .ok { d with debug := d.debug.union (l.directive?.getD {}) } := by
  unfold bodyLine Line.directive?
  rcases Line.cases_of_subject?_none h with hidle | ⟨hidle, hnil | ⟨_, _, flag, hall, hq, hflag⟩⟩
  · rw [if_pos hidle, if_pos hidle, Option.getD_none, DebugFlags.union_none]
  · rw [hidle, hnil]
    simp [DebugFlags.union_none]
  · rw [hidle, hall]
    simp [hq, hflag]

/-- A line that is meant for a slot goes by where it stands. -/
theorem bodyLine_of_subject? (d : Draft) (h : l.subject? = some first) :
    ∃ tokens, Token.all l.text = first :: tokens ∧
      bodyLine v d l = match d.scope with
        | .outside => do
          report l.number none none (.outsideSection (String.ofList first.text))
          return d
        | .discarded => .ok d
        | .within s defined => do
          return { d with scope := ← slotLine v d.debug l.number s defined first tokens } := by
  obtain ⟨hidle, tokens, hall, hnone⟩ := Line.exists_tokens_of_subject? h
  refine ⟨tokens, hall, ?_⟩
  unfold bodyLine
  rw [hidle, hall]
  simp only [hnone, Bool.false_eq_true, if_false]
  cases d.scope <;> rfl

end Lines

end Rule

end JogShuttle
