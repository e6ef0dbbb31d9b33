import JogShuttle.Proofs.Rule.Report

/-!
# Texts put together

A text whose last line is closed keeps its lines when another text is put behind it, and the lines
of the other follow with higher numbers. If they begin with a header, the blocks of the two texts
follow one another as well. What a block binds does not depend on its line numbers, on the tables
before it or on the tracing flags.
-/

set_option autoImplicit false

namespace JogShuttle

namespace Text

variable {c : Char} {cs ds : List Char}

/-- The last line of a text, if there is one, ends with a line break. -/
def EndsLine (cs : List Char) : Prop := ∀ c ∈ cs.getLast?, isLineBreak c = true

instance (cs : List Char) : Decidable (EndsLine cs) :=
  decidable_of_iff (cs.getLast?.all isLineBreak = true) (Option.all_eq_true _ _)

theorem consFirst_ne_nil (c : Char) (ls : List (List Char)) : consFirst c ls ≠ [] := by
  cases ls <;> exact List.cons_ne_nil _ _

theorem lines_ne_nil (h : cs ≠ []) : lines cs ≠ [] := by
  cases cs using lines.induct with
  | case1 => exact absurd rfl h
  | case2 cs => rw [lines]; exact List.cons_ne_nil _ _
  | case3 c cs hcr hc => rw [lines, if_pos hc]; exacts [List.cons_ne_nil _ _, hcr]
  | case4 c cs hcr hc => rw [lines, if_neg hc]; exacts [consFirst_ne_nil _ _, hcr]

theorem consFirst_append {ls : List (List Char)} (h : ls ≠ []) (c : Char) (ms : List (List Char)) :
    consFirst c (ls ++ ms) = consFirst c ls ++ ms := by
  cases ls with
  | nil => exact absurd rfl h
  | cons l ls => rfl

theorem EndsLine.tail (h : EndsLine (c :: cs)) : EndsLine cs := by
  cases cs with
  | nil => simp [EndsLine]
  | cons d ds =>
    unfold EndsLine at *
    rwa [List.getLast?_cons_cons] at h

/-- Texts are put together line by line, unless a carriage return and a newline meet. -/
theorem lines_append (h : EndsLine cs) (hds : ds.head? ≠ some '\n') :
    lines (cs ++ ds) = lines cs ++ lines ds := by
  have hcrlf : ∀ {c : Char} {cs : List Char}, (∀ rest, c = '\r' → cs = '\n' :: rest → False) →
      ∀ rest, c = '\r' → cs ++ ds = '\n' :: rest → False := by
    intro c cs hcr rest hc hcs
    cases cs with
    | nil => exact hds (by rw [List.nil_append] at hcs; rw [hcs]; rfl)
    | cons d cs =>
      rw [List.cons_append] at hcs
      obtain ⟨rfl, _⟩ := List.cons.inj hcs
      exact hcr cs hc rfl
  induction cs using lines.induct with
  | case1 => simp
  | case2 cs ih =>
    rw [List.cons_append, List.cons_append, lines, lines, ih h.tail.tail, List.cons_append]
  | case3 c cs hcr hc ih =>
    rw [List.cons_append, lines, lines, if_pos hc, if_pos hc, ih h.tail, List.cons_append]
    · exact hcr
    · exact hcrlf hcr
  | case4 c cs hcr hc ih =>
    -- the character is not the last one, for that ends a line
    have hne : cs ≠ [] := by
      rintro rfl
      exact hc (h c rfl)
    rw [List.cons_append, lines, lines, if_neg hc, if_neg hc, ih h.tail,
      consFirst_append (lines_ne_nil hne)]
    · exact hcr
    · exact hcrlf hcr

end Text

/-- The table of one rule file put behind another. -/
def Table.append (t u : Table) : Table where
  sections := t.sections ++ u.sections
  default := (u.default.map (t.sections.length + ·)).or t.default
  debug := t.debug.union u.debug

namespace Rule

open Reading

/-- The same line further down. -/
def Line.shift (k : Nat) (l : Line) : Line := { l with number := l.number + k }

def Block.shift (k : Nat) (b : Block) : Block := ⟨b.header.shift k, b.body.map (Line.shift k)⟩

/-- What stands in a block, wherever its lines are numbered from. -/
def Block.texts (b : Block) : List Char × List (List Char) := (b.header.text, b.body.map (·.text))

theorem texts_shift (k : Nat) (b : Block) : (b.shift k).texts = b.texts := by
  unfold Block.texts Block.shift
  rw [List.map_map]
  rfl

theorem map_texts_shift (k : Nat) (bs : List Block) :
    (bs.map (Block.shift k)).map Block.texts = bs.map Block.texts := by
  rw [List.map_map]
  exact List.map_congr_left fun b _ => texts_shift k b

section Lines

variable {ls ms : List Line} {k n : Nat}

theorem length_numbered (n : Nat) (texts : List (List Char)) :
    (numbered n texts).length = texts.length := by
  induction texts generalizing n with
  | nil => rfl
  | cons text texts ih => rw [numbered, List.length_cons, ih, List.length_cons]

theorem numbered_append (n : Nat) (texts more : List (List Char)) :
    numbered n (texts ++ more) = numbered n texts ++ numbered (n + texts.length) more := by
  induction texts generalizing n with
  | nil => rfl
  | cons text texts ih =>
    rw [List.cons_append, numbered, numbered, ih, List.cons_append, List.length_cons, Nat.add_assoc,
      Nat.add_comm 1]

theorem numbered_shift (n k : Nat) (texts : List (List Char)) :
    numbered (n + k) texts = (numbered n texts).map (Line.shift k) := by
  induction texts generalizing n with
  | nil => rfl
  | cons text texts ih =>
    rw [numbered, numbered, List.map_cons, ← ih, Nat.add_right_comm]
    rfl

/-- The lines of a text begin with a header, if there are any. -/
def BeginsWithHeader (text : String) : Prop := ∀ l ∈ (linesOf text).head?, l.isHeader = true

instance (text : String) : Decidable (BeginsWithHeader text) :=
  inferInstanceAs (Decidable (∀ l ∈ (linesOf text).head?, l.isHeader = true))

theorem head?_ne_newline {text : String} (h : BeginsWithHeader text) :
    text.toList.head? ≠ some '\n' := by
  intro hnewline
  obtain ⟨cs, hcs⟩ := List.head?_eq_some_iff.mp hnewline
  have hlines : linesOf text = ⟨1, []⟩ :: numbered 2 (Text.lines cs) := by
    rw [linesOf, hcs, Text.lines, if_pos (by decide)]
    · rfl
    · intro _ hc
      cases hc
  have := h ⟨1, []⟩ (by rw [hlines]; rfl)
  cases this

theorem linesOf_append {a b : String} (ha : Text.EndsLine a.toList) (hb : BeginsWithHeader b) :
    linesOf (a ++ b) = linesOf a ++ (linesOf b).map (Line.shift (linesOf a).length) := by
  unfold linesOf
  rw [String.toList_append, Text.lines_append ha (head?_ne_newline hb), numbered_append,
    numbered_shift, length_numbered]

theorem blocksOf_append (h : (blocksOf ms).1 = []) :
    blocksOf (ls ++ ms) = ((blocksOf ls).1, (blocksOf ls).2 ++ (blocksOf ms).2) := by
  induction ls with
  | nil => exact Prod.ext h rfl
  | cons l ls ih =>
    rw [List.cons_append, blocksOf, ih, blocksOf]
    cases l.isHeader <;> rfl

theorem blocksOf_shift (k : Nat) (ls : List Line) :
    blocksOf (ls.map (Line.shift k)) =
      ((blocksOf ls).1.map (Line.shift k), (blocksOf ls).2.map (Block.shift k)) := by
  induction ls with
  | nil => rfl
  | cons l ls ih =>
    have hheader : (l.shift k).isHeader = l.isHeader := rfl
    rw [List.map_cons, blocksOf, ih, blocksOf, hheader]
    cases l.isHeader <;> rfl

theorem preamble_eq_nil {text : String} (h : BeginsWithHeader text) :
    (blocksOf (linesOf text)).1 = [] := by
  unfold BeginsWithHeader at h
  rw [blocksOf_eq]
  cases hl : linesOf text with
  | nil => rfl
  | cons l ls =>
    rw [hl] at h
    simp [h l rfl]

theorem blocksOf_linesOf_append {a b : String} (ha : Text.EndsLine a.toList)
    (hb : BeginsWithHeader b) :
    blocksOf (linesOf (a ++ b)) = ((blocksOf (linesOf a)).1, (blocksOf (linesOf a)).2 ++
      (blocksOf (linesOf b)).2.map (Block.shift (linesOf a).length)) := by
  have hpreamble : (blocksOf ((linesOf b).map (Line.shift (linesOf a).length))).1 = [] := by
    rw [blocksOf_shift, preamble_eq_nil hb]
    rfl
  rw [linesOf_append ha hb, blocksOf_append hpreamble, blocksOf_shift]

end Lines

section Results

variable {v : Vocabulary} {debug more : DebugFlags} {s : Section} {defined : List String}
variable {l l' : Line} {ls ls' : List Line}

theorem result_bind_congr {α β : Type} {r r' : Reading α} {f g : α → Reading β}
    (hr : r.result = r'.result) (hf : ∀ a, (f a).result = (g a).result) :
    (r >>= f).result = (r' >>= g).result := by
  cases h : r.result with
  | error e => rw [result_bind_of_error h, result_bind_of_error (hr ▸ h)]
  | ok a => rw [result_bind_of_ok h, result_bind_of_ok (hr ▸ h), hf]

theorem result_traceSlot_bind {β : Type} (debug : DebugFlags) (slot : Slot) (strokes : List Stroke)
    (f : Unit → Reading β) : (traceSlot v debug slot strokes >>= f).result = (f ()).result :=
  result_bind_of_ok (result_traceSlot v debug slot strokes) f

theorem result_bindTarget (debug debug' : DebugFlags) (s : Section) (t : Target) (h : Halves) :
    (bindTarget v debug s t h).result = (bindTarget v debug' s t h).result := by
  unfold bindTarget
  cases t.release with
  | none =>
    refine result_bind_congr rfl fun s₁ => ?_
    simp only [result_traceSlot_bind]
  | some slot =>
    refine result_bind_congr rfl fun s₁ => result_bind_congr rfl fun s₂ => ?_
    simp only [result_traceSlot_bind]

theorem result_define (debug debug' : DebugFlags) (number number' : Nat) (s : Section) (t : Target)
    (tokens : List Token) :
    (define v debug number s t tokens).result = (define v debug' number' s t tokens).result := by
  unfold define
  refine result_bind_congr ?_ fun _ => result_bind_congr rfl fun halves => ?_
  · rw [result_reportAll, result_reportAll]
  · exact result_bindTarget debug debug' s t halves

theorem result_slotLine (debug debug' : DebugFlags) (number number' : Nat) (s : Section)
    (defined : List String) (first : Token) (tokens : List Token) :
    (slotLine v debug number s defined first tokens).result =
      (slotLine v debug' number' s defined first tokens).result := by
  unfold slotLine
  simp only
  split
  · rfl
  · refine result_bind_congr rfl fun target => ?_
    cases target with
    | none => rfl
    | some t =>
      simp only
      split
      · rfl
      · exact result_bind_congr (result_define debug debug' number number' s t tokens) fun _ => rfl

def Draft.trace (more : DebugFlags) (d : Draft) : Draft := { d with debug := more.union d.debug }

/-- A line is read for its text alone; flags that were on stay on beside its own. -/
theorem result_bodyLine_of_text {d d' : Draft} (htext : l'.text = l.text)
    (h : (bodyLine v d l).result = .ok d') :
    (bodyLine v (d.trace more) l').result = .ok (d'.trace more) := by
  have hsubject : l'.subject? = l.subject? := by
    unfold Line.subject? Line.isIdle
    rw [htext]
  have hdirective : l'.directive? = l.directive? := by
    unfold Line.directive? Line.isIdle
    rw [htext]
  cases hsub : l.subject? with
  | none =>
    rw [bodyLine_of_subject?_none d hsub] at h
    cases h
    rw [bodyLine_of_subject?_none _ (hsubject.trans hsub), hdirective]
    exact congrArg (fun debug => Except.ok (Draft.mk debug d.scope)) (DebugFlags.union_assoc ..)
  | some first =>
    obtain ⟨tokens, hall, hline⟩ := bodyLine_of_subject? (v := v) d hsub
    obtain ⟨tokens', hall', hline'⟩ :=
      bodyLine_of_subject? (v := v) (d.trace more) (hsubject.trans hsub)
    rw [htext, hall] at hall'
    obtain ⟨-, rfl⟩ := List.cons.inj hall'
    rw [hline] at h
    rw [hline']
    obtain ⟨debug, scope⟩ := d
    cases scope with
    | outside =>
      cases h
      rfl
    | discarded =>
      cases h
      rfl
    | within s defined =>
      obtain ⟨scope, hscope, hd⟩ := result_bind_ok_iff.mp h
      cases hd
      refine result_bind_ok_iff.mpr ⟨scope, ?_, rfl⟩
      rw [← hscope]
      exact result_slotLine _ _ _ _ _ _ _ _

theorem result_bodyLines_of_texts {d d' : Draft} (htexts : ls'.map (·.text) = ls.map (·.text))
    (h : (bodyLines v d ls).result = .ok d') :
    (bodyLines v (d.trace more) ls').result = .ok (d'.trace more) := by
  induction ls generalizing d ls' with
  | nil =>
    rw [List.map_nil, List.map_eq_nil_iff] at htexts
    subst htexts
    cases h
    rfl
  | cons l ls ih =>
    obtain ⟨l', ls', rfl, htext, htexts⟩ := List.map_eq_cons_iff.mp htexts
    obtain ⟨d₁, hd₁, h⟩ := result_bind_ok_iff.mp h
    exact result_bind_ok_iff.mpr ⟨_, result_bodyLine_of_text htext hd₁, ih htexts h⟩

theorem result_openSection_of_text (t u : Table) (htext : l'.text = l.text) :
    (openSection v u l').result = (openSection v t l).result := by
  unfold openSection
  rw [htext]
  cases headerParts? l.text with
  | none => rfl
  | some parts =>
    obtain ⟨name, source⟩ := parts
    simp only [result_note_if]
    split
    · cases u.sectionAt u.default <;> cases t.sectionAt t.default <;> rfl
    · cases v.readPattern source with
      | ok pattern => rfl
      | error e => cases e <;> rfl

end Results

section Tables

variable {v : Vocabulary} {t u u' : Table} {b b' : Block} {bs bs' : List Block}

theorem append_addSection (t u : Table) (s : Section) :
    addSection (t.append u) s = t.append (addSection u s) := by
  unfold addSection Table.append
  cases s.isDefault <;> simp

/-- A block is compiled for its texts alone, and what it makes is put behind the table so far. -/
theorem result_compileBlock_of_texts (hb : b'.texts = b.texts)
    (h : (compileBlock v u b).result = .ok u') :
    (compileBlock v (t.append u) b').result = .ok (t.append u') := by
  obtain ⟨hheader, hbody⟩ := Prod.mk.inj hb
  obtain ⟨o, ho, h⟩ := result_bind_ok_iff.mp h
  obtain ⟨d, hd, h⟩ := result_bind_ok_iff.mp h
  refine result_bind_ok_iff.mpr ⟨o, ?_, ?_⟩
  · rw [← ho]
    exact result_openSection_of_text _ _ hheader
  · refine result_bind_ok_iff.mpr ⟨d.trace t.debug, result_bodyLines_of_texts hbody hd, ?_⟩
    obtain ⟨debug, scope⟩ := d
    cases scope with
    | within s defined =>
      cases h
      exact congrArg Except.ok (append_addSection t { u with debug } s)
    | outside =>
      cases h
      rfl
    | discarded =>
      cases h
      rfl

theorem result_compileBlocks_of_texts (hbs : bs'.map Block.texts = bs.map Block.texts)
    (h : (compileBlocks v u bs).result = .ok u') :
    (compileBlocks v (t.append u) bs').result = .ok (t.append u') := by
  induction bs generalizing u bs' with
  | nil =>
    rw [List.map_nil, List.map_eq_nil_iff] at hbs
    subst hbs
    cases h
    rfl
  | cons b bs ih =>
    obtain ⟨b', bs', rfl, hb, hbs⟩ := List.map_eq_cons_iff.mp hbs
    obtain ⟨u₁, hu₁, h⟩ := result_bind_ok_iff.mp h
    exact result_bind_ok_iff.mpr ⟨_, result_compileBlock_of_texts hb hu₁, ih hbs h⟩

theorem result_compileBlocks_append (bs more : List Block) :
    (compileBlocks v t (bs ++ more)).result = .ok u ↔
      ∃ t', (compileBlocks v t bs).result = .ok t' ∧ (compileBlocks v t' more).result = .ok u := by
  induction bs generalizing t with
  | nil => simp [compileBlocks, Reading.ok]
  | cons b bs ih =>
    simp only [List.cons_append, compileBlocks, result_bind_ok_iff, ih]
    constructor
    · rintro ⟨t₁, h₁, t', h', hu⟩
      exact ⟨t', ⟨t₁, h₁, h'⟩, hu⟩
    · rintro ⟨t', ⟨t₁, h₁, h'⟩, hu⟩
      exact ⟨t₁, h₁, t', h', hu⟩

theorem append_flags (more : DebugFlags) (u : Table) :
    Table.append { debug := more } u = { u with debug := more.union u.debug } := by
  unfold Table.append
  cases u.default <;> simp

theorem append_empty (t : Table) (debug : DebugFlags) :
    t.append { debug } = { t with debug := t.debug.union debug } := by
  simp [Table.append]

section Compile

variable {debug : DebugFlags} {text a b : String} {ta tb : Table}

theorem result_compile_iff : (compile v debug text).result = .ok t ↔
    ∃ d, (bodyLines v ⟨debug, .outside⟩ (blocksOf (linesOf text)).1).result = .ok d ∧
      (compileBlocks v { debug := d.debug } (blocksOf (linesOf text)).2).result = .ok t :=
  result_bind_ok_iff

/-- Flags that are on from the start stay on and change nothing else. -/
theorem result_compile_trace (more : DebugFlags) (h : (compile v debug text).result = .ok t) :
    (compile v (more.union debug) text).result =
      .ok { t with debug := more.union t.debug } := by
  obtain ⟨d, hd, ht⟩ := result_compile_iff.mp h
  have hlines : (bodyLines v (Draft.trace more ⟨debug, .outside⟩)
      (blocksOf (linesOf text)).1).result = .ok (d.trace more) :=
    result_bodyLines_of_texts rfl hd
  have hblocks := result_compileBlocks_of_texts (t := { debug := more }) rfl ht
  rw [append_flags, append_flags] at hblocks
  exact result_compile_iff.mpr ⟨_, hlines, hblocks⟩

theorem debug_of_compile (h : (compile v debug text).result = .ok t) :
    t.debug.union debug = t.debug := by
  have htrace := result_compile_trace debug h
  rw [DebugFlags.union_self, h] at htrace
  have hdebug : t.debug = debug.union t.debug := congrArg Table.debug (Except.ok.inj htrace)
  rw [DebugFlags.union_comm]
  exact hdebug.symm

/-- The tables of two texts are put together as the texts are. -/
theorem result_compile_append (ha : (compile v debug a).result = .ok ta)
    (hb : (compile v debug b).result = .ok tb) (hends : Text.EndsLine a.toList)
    (hbegins : BeginsWithHeader b) :
    (compile v debug (a ++ b)).result = .ok (ta.append tb) := by
  obtain ⟨d, hd, hta⟩ := result_compile_iff.mp ha
  obtain ⟨d', hd', htb⟩ := result_compile_iff.mp hb
  rw [preamble_eq_nil hbegins] at hd'
  cases hd'
  refine result_compile_iff.mpr ⟨d, ?_, ?_⟩
  · rw [blocksOf_linesOf_append hends hbegins]
    exact hd
  · rw [blocksOf_linesOf_append hends hbegins]
    refine (result_compileBlocks_append _ _).mpr ⟨ta, hta, ?_⟩
    have hblocks := result_compileBlocks_of_texts (t := ta)
      (map_texts_shift (linesOf a).length (blocksOf (linesOf b)).2) htb
    rwa [append_empty, debug_of_compile ha] at hblocks

end Compile

end Tables

end Rule

end JogShuttle
