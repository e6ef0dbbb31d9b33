import JogShuttle.Proofs.Rule.JoinedReport

/-!
# Tracing directives

A directive switches on its flag for the table of the whole file, wherever in the file it stands.
The flags of a compiled table are those that the reading started from and those of the directives.
What else is read, and what is reported about it, depends on none of them.
-/

set_option autoImplicit false

namespace JogShuttle

/-- A word switches on the flag that it names, and no other. -/
theorem DebugFlags.getD_ofDirective? (word : String) :
    (DebugFlags.ofDirective? word).getD {} =
      ⟨word == "DEBUG_REGEX", word == "DEBUG_STROKES", word == "DEBUG_KEYS"⟩ := by
  unfold DebugFlags.ofDirective?
  by_cases hregex : word = "DEBUG_REGEX"
  · subst hregex
    rfl
  by_cases hstrokes : word = "DEBUG_STROKES"
  · subst hstrokes
    rfl
  by_cases hkeys : word = "DEBUG_KEYS"
  · subst hkeys
    rfl
  · simp [hregex, hstrokes, hkeys]

namespace Rule

open Reading

variable {v : Vocabulary} {debug more : DebugFlags} {text : String} {t t' : Table}
variable {l : Line} {ls : List Line} {b : Block} {bs : List Block} {d d' : Draft}

/-- A line that is no header and no comment and begins with the given word, unquoted. -/
def Line.directs (word : String) (l : Line) : Bool :=
  !l.isHeader && !l.isIdle &&
    (Token.all l.text).head?.any fun first => !first.quoted && String.ofList first.text == word

/-- The flags that the directives among some lines switch on. -/
def directives (ls : List Line) : DebugFlags where
  regex := ls.any (Line.directs "DEBUG_REGEX")
  strokes := ls.any (Line.directs "DEBUG_STROKES")
  keys := ls.any (Line.directs "DEBUG_KEYS")

theorem directives_append (ls ms : List Line) :
    directives (ls ++ ms) = (directives ls).union (directives ms) := by
  simp [directives, DebugFlags.union]

section Lines

theorem directives_of_not_directs (h : ∀ word, l.directs word = false) : directives [l] = {} := by
  simp [directives, h]

theorem directives_header (h : l.isHeader = true) : directives [l] = {} := by
  apply directives_of_not_directs
  intro word
  simp [Line.directs, h]

/-- A line that is no header switches on the flag of its directive. -/
theorem directives_of_directive? (h : l.isHeader = false) :
    directives [l] = l.directive?.getD {} := by
  cases hidle : l.isIdle with
  | true =>
    rw [directives_of_not_directs fun word => by simp [Line.directs, hidle]]
    simp [Line.directive?, hidle]
  | false =>
    cases hall : Token.all l.text with
    | nil =>
      rw [directives_of_not_directs fun word => by simp [Line.directs, hall]]
      simp [Line.directive?, hall]
    | cons first tokens =>
      have hdirects : ∀ word, l.directs word =
          (!first.quoted && String.ofList first.text == word) := by
        intro word
        simp [Line.directs, h, hidle, hall]
      cases hq : first.quoted with
      | true => simp [directives, hdirects, Line.directive?, hall, hq]
      | false =>
        have hdirective : l.directive? = DebugFlags.ofDirective? (String.ofList first.text) := by
          simp [Line.directive?, hidle, hall, hq]
        rw [hdirective, DebugFlags.getD_ofDirective?]
        simp [directives, hdirects, hq]

theorem debug_bodyLine (hl : l.isHeader = false) (h : (bodyLine v d l).result = .ok d') :
    d'.debug = d.debug.union (directives [l]) := by
  rw [directives_of_directive? hl]
  rcases bodyLine_cases h with ⟨-, rfl⟩ | ⟨first, _, hsub, -, hd'⟩
  · rfl
  · -- a line that is no directive leaves the flags alone, whatever it says
    rw [Line.directive?_of_subject? hsub, Option.getD_none, DebugFlags.union_none]
    rcases hd' with ⟨-, rfl⟩ | ⟨_, _, _, -, -, rfl⟩ <;> rfl

theorem debug_bodyLines (hls : ∀ l ∈ ls, l.isHeader = false)
    (h : (bodyLines v d ls).result = .ok d') : d'.debug = d.debug.union (directives ls) := by
  induction ls generalizing d with
  | nil =>
    cases h
    exact (DebugFlags.union_none _).symm
  | cons l ls ih =>
    obtain ⟨hl, hls⟩ := List.forall_mem_cons.mp hls
    obtain ⟨d₁, hd₁, h⟩ := result_bind_ok_iff.mp h
    rw [ih hls h, debug_bodyLine hl hd₁, DebugFlags.union_assoc, ← directives_append,
      List.singleton_append]

end Lines

section Blocks

/-- A header with the lines up to the next one. -/
def Block.Proper (b : Block) : Prop :=
  b.header.isHeader = true ∧ ∀ l ∈ b.body, l.isHeader = false

theorem not_isHeader_of_mem_preamble {ls : List Line} :
    ∀ l ∈ (blocksOf ls).1, l.isHeader = false := by
  intro l hl
  rw [blocksOf_eq] at hl
  simpa using List.mem_takeWhile_imp hl

theorem proper_of_mem_blocks {ls : List Line} : ∀ b ∈ (blocksOf ls).2, b.Proper := by
  intro b hb
  refine ⟨isHeader_of_mem_blocks b hb, ?_⟩
  rw [← headed_eq] at hb
  obtain ⟨ms, _, hms⟩ := List.mem_filterMap.mp hb
  intro l hl
  cases ms with
  | nil => cases hms
  | cons m ms =>
    rw [block?] at hms
    split at hms
    · cases hms
      simpa using List.mem_takeWhile_imp hl
    · cases hms

theorem debug_compileBlock (hb : b.Proper) (h : (compileBlock v t b).result = .ok t') :
    t'.debug = t.debug.union (directives b.lines) := by
  obtain ⟨o, _, h⟩ := result_bind_ok_iff.mp h
  obtain ⟨d, hd, h⟩ := result_bind_ok_iff.mp h
  have hlines : directives b.lines = directives b.body := by
    rw [Block.lines, ← List.singleton_append, directives_append, directives_header hb.1,
      DebugFlags.none_union]
  have hdebug : d.debug = t.debug.union (directives b.body) := debug_bodyLines hb.2 hd
  rw [hlines, ← hdebug]
  obtain ⟨debug, scope⟩ := d
  cases scope with
  | within s defined =>
    cases h
    rfl
  | outside =>
    cases h
    rfl
  | discarded =>
    cases h
    rfl

theorem debug_compileBlocks (hbs : ∀ b ∈ bs, b.Proper)
    (h : (compileBlocks v t bs).result = .ok t') :
    t'.debug = t.debug.union (directives (bs.flatMap Block.lines)) := by
  induction bs generalizing t with
  | nil =>
    cases h
    exact (DebugFlags.union_none _).symm
  | cons b bs ih =>
    obtain ⟨hb, hbs⟩ := List.forall_mem_cons.mp hbs
    obtain ⟨t₁, ht₁, h⟩ := result_bind_ok_iff.mp h
    rw [ih hbs h, debug_compileBlock hb ht₁, DebugFlags.union_assoc, ← directives_append,
      List.flatMap_cons]

end Blocks

section Files

/-- The flags of a table are those that the reading started from and those of the directives,
before the first header, in a section or under a header that opened none. -/
theorem debug_compile (h : (compile v debug text).result = .ok t) :
    t.debug = debug.union (directives (linesOf text)) := by
  obtain ⟨d, hd, ht⟩ := result_compile_iff.mp h
  have hpreamble : d.debug = debug.union (directives (blocksOf (linesOf text)).1) :=
    debug_bodyLines not_isHeader_of_mem_preamble hd
  calc
    t.debug = d.debug.union (directives ((blocksOf (linesOf text)).2.flatMap Block.lines)) :=
      debug_compileBlocks proper_of_mem_blocks ht
    _ = debug.union (directives (linesOf text)) := by
      rw [hpreamble, DebugFlags.union_assoc, ← directives_append, blocksOf_lines]

/-- Flags that are on from the start are on in the table, and change nothing else. -/
theorem result_compile_debug (v : Vocabulary) (debug : DebugFlags) (text : String) :
    (compile v debug text).result =
      (compile v {} text).result.map fun t => { t with debug := debug.union t.debug } := by
  cases hf : firstFault? v text with
  | some f =>
    rw [result_of_firstFault? hf, result_of_firstFault? hf]
    rfl
  | none =>
    obtain ⟨t, ht⟩ := exists_table_of_firstFault? {} hf
    have htrace := result_compile_trace debug ht
    rw [DebugFlags.union_none] at htrace
    rw [htrace, ht]
    rfl

end Files

end Rule

end JogShuttle
