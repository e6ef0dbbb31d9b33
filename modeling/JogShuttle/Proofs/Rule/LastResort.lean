import JogShuttle.Proofs.Rule.Tracing

/-!
# The default section as last resort

The section that governs a window is the first one with a pattern that is found in it or, failing
that, the last one without a pattern. So default sections count for nothing but the last, and where
the last one stands makes no difference: neither to the section that governs a window nor to what a
slot sends there.
-/

set_option autoImplicit false

namespace JogShuttle

namespace Table

/-- The first section with a pattern that is found in a window. -/
def firstMatch? (t : Table) (window : String) : Option Section :=
  t.sections.find? fun s => !s.isDefault && s.matches? window

/-- The last section without a pattern. -/
def lastDefault? (t : Table) : Option Section := (t.sections.filter (·.isDefault)).getLast?

theorem sectionAt_sectionFor (t : Table) (window : String) :
    t.sectionAt (t.sectionFor window) = (t.firstMatch? window).or (t.sectionAt t.default) := by
  unfold sectionFor firstMatch?
  rw [List.find?_eq_bind_findIdx?_getElem?]
  cases h : t.sections.findIdx? fun s => !s.isDefault && s.matches? window with
  | none => rfl
  | some i =>
    obtain ⟨hi, _⟩ := List.findIdx?_eq_some_iff_getElem.mp h
    simp [sectionAt, hi]

theorem sectionAt_default {t : Table} (h : Rule.IsLastDefault t.sections t.default) :
    t.sectionAt t.default = t.lastDefault? := by
  unfold lastDefault?
  cases hi : t.default with
  | none =>
    rw [hi] at h
    rw [List.filter_eq_nil_iff.mpr fun s hs => by simp [h s hs]]
    rfl
  | some i =>
    rw [hi] at h
    obtain ⟨before, d, after, hss, rfl, hd, hafter⟩ := h
    have hnone : after.filter (·.isDefault) = [] :=
      List.filter_eq_nil_iff.mpr fun s hs => by simp [hafter s hs]
    rw [hss, List.filter_append, List.filter_cons_of_pos hd, hnone]
    simp [sectionAt, hss]

/-- The section that governs a window, by the sections alone. -/
theorem sectionAt_sectionFor_of_default {t : Table}
    (h : Rule.IsLastDefault t.sections t.default) (window : String) :
    t.sectionAt (t.sectionFor window) = (t.firstMatch? window).or t.lastDefault? := by
  rw [sectionAt_sectionFor, sectionAt_default h]

/-- What a slot sends in a window, by the sections alone. -/
theorem resolve_sectionFor_of_default {t : Table}
    (h : Rule.IsLastDefault t.sections t.default) (window : String) (slot : Slot) :
    t.resolve (t.sectionFor window) slot =
      ((((t.firstMatch? window).or t.lastDefault?).bind (·.binding slot)).or
        (t.lastDefault?.bind (·.binding slot))).getD [] := by
  rw [resolve, Option.orElse_eq_orElse, Option.orElse_eq_or, sectionAt_sectionFor_of_default h,
    sectionAt_default h]

end Table

namespace Rule

open Reading

variable {v : Vocabulary} {debug : DebugFlags} {text text' : String} {t t' u : Table}
variable {b b' : Block} {bs bs' : List Block} {s : Section}

section Blocks

theorem trace_none (d : Draft) : Draft.trace {} d = d := by
  rw [Draft.trace, DebugFlags.none_union]

theorem empty_append (u : Table) : Table.append {} u = u := by
  rw [append_flags, DebugFlags.none_union]

theorem append_none (t : Table) : t.append {} = t := by
  rw [append_empty, DebugFlags.union_none]

/-- The table that a block makes by itself. -/
def Block.table? (v : Vocabulary) (b : Block) : Option Table :=
  (compileBlock v {} b).result.toOption

/-- The section that a block makes. -/
def Block.section? (v : Vocabulary) (b : Block) : Option Section :=
  (b.table? v).bind (·.sections.head?)

theorem Block.table?_eq_some_iff : b.table? v = some u ↔ (compileBlock v {} b).result = .ok u := by
  unfold Block.table?
  cases (compileBlock v {} b).result <;> simp [Except.toOption]

theorem Block.table?_of_texts (h : b'.texts = b.texts) : b'.table? v = b.table? v := by
  have hkeep : ∀ {b b' : Block}, b'.texts = b.texts → ∀ u, b.table? v = some u →
      b'.table? v = some u := by
    intro b b' h u hu
    have hb' := result_compileBlock_of_texts (t := {}) h (table?_eq_some_iff.mp hu)
    rw [empty_append, empty_append] at hb'
    exact table?_eq_some_iff.mpr hb'
  exact Option.ext fun u => ⟨hkeep h.symm u, hkeep h u⟩

theorem Block.section?_of_texts (h : b'.texts = b.texts) : b'.section? v = b.section? v := by
  rw [section?, table?_of_texts h, section?]

theorem sections_of_texts (h : bs'.map Block.texts = bs.map Block.texts) :
    bs'.filterMap (Block.section? v) = bs.filterMap (Block.section? v) := by
  induction bs generalizing bs' with
  | nil =>
    rw [List.map_nil, List.map_eq_nil_iff] at h
    rw [h]
  | cons b bs ih =>
    obtain ⟨b', bs', rfl, hb, h⟩ := List.map_eq_cons_iff.mp h
    rw [List.filterMap_cons, List.filterMap_cons, Block.section?_of_texts hb, ih h]

/-- What a block makes by itself is put behind the table so far. -/
theorem compileBlock_ok_iff (hb : b.header.isHeader = true) :
    (compileBlock v t b).result = .ok t' ↔ ∃ u, b.table? v = some u ∧ t' = t.append u := by
  have hbehind : ∀ {u}, b.table? v = some u →
      (compileBlock v t b).result = .ok (t.append u) := by
    intro u hu
    have hblock := result_compileBlock_of_texts (t := t) rfl (Block.table?_eq_some_iff.mp hu)
    rwa [append_none] at hblock
  constructor
  · intro h
    cases hf : b.fault? v with
    | some f =>
      have hends : (compileBlock v t b).Ends (b.fault? v) _ := ends_compileBlock hb
      rw [hf] at hends
      have hfault : (compileBlock v t b).result = .error f := hends
      rw [h] at hfault
      cases hfault
    | none =>
      have hends : (compileBlock v {} b).Ends (b.fault? v) _ := ends_compileBlock hb
      rw [hf] at hends
      obtain ⟨⟨u, hu⟩, _⟩ := hends
      have hu := Block.table?_eq_some_iff.mpr hu
      exact ⟨u, hu, Except.ok.inj (h.symm.trans (hbehind hu))⟩
  · rintro ⟨u, hu, rfl⟩
    exact hbehind hu

theorem Block.section?_of_accepted (hb : b.header.isHeader = true) (ha : b.header.Accepted v)
    (hu : b.table? v = some u) :
    ∃ s, SectionOf v b s ∧ u.sections = [s] ∧ b.section? v = some s := by
  obtain ⟨s, debug, hs, -, rfl⟩ := compileBlock_of_accepted hb ha (table?_eq_some_iff.mp hu)
  refine ⟨s, hs, rfl, ?_⟩
  rw [section?, hu]
  rfl

theorem Block.section?_of_not_accepted (hb : b.header.isHeader = true)
    (ha : ¬b.header.Accepted v) (hu : b.table? v = some u) :
    u.sections = [] ∧ b.section? v = none := by
  obtain ⟨debug, rfl⟩ := compileBlock_of_not_accepted hb ha (table?_eq_some_iff.mp hu)
  refine ⟨rfl, ?_⟩
  rw [section?, hu]
  rfl

theorem Block.sections_of_table? (hb : b.header.isHeader = true) (hu : b.table? v = some u) :
    u.sections = (b.section? v).toList := by
  by_cases ha : b.header.Accepted v
  · obtain ⟨s, _, hsections, hs⟩ := section?_of_accepted hb ha hu
    rw [hsections, hs]
    rfl
  · obtain ⟨hsections, hs⟩ := section?_of_not_accepted hb ha hu
    rw [hsections, hs]
    rfl

/-- The section of a block has no pattern exactly if its header says so. -/
theorem Block.isDefault_of_section? (hb : b.header.isHeader = true) (hs : b.section? v = some s) :
    s.isDefault = decide b.header.OpensDefault := by
  obtain ⟨u, hu, _⟩ := Option.bind_eq_some_iff.mp hs
  by_cases ha : b.header.Accepted v
  · obtain ⟨s', hs', _, hsection⟩ := section?_of_accepted hb ha hu
    obtain rfl : s' = s := Option.some.inj (hsection.symm.trans hs)
    rw [Bool.eq_iff_iff, decide_eq_true_iff]
    exact isDefault_iff hs' ha
  · obtain ⟨_, hnone⟩ := section?_of_not_accepted hb ha hu
    rw [hnone] at hs
    cases hs

theorem Block.isSome_section? (hb : b.header.isHeader = true) (hd : b.header.OpensDefault)
    (hu : (b.table? v).isSome = true) : (b.section? v).isSome = true := by
  obtain ⟨u, hu⟩ := Option.isSome_iff_exists.mp hu
  obtain ⟨s, _, _, hs⟩ := section?_of_accepted hb ⟨hd.1, Or.inl hd.2⟩ hu
  rw [hs]
  rfl

theorem sections_compileBlocks (hbs : ∀ b ∈ bs, b.header.isHeader = true)
    (h : (compileBlocks v t bs).result = .ok t') :
    t'.sections = t.sections ++ bs.filterMap (Block.section? v) := by
  induction bs generalizing t with
  | nil =>
    cases h
    exact (List.append_nil _).symm
  | cons b bs ih =>
    obtain ⟨hb, hbs⟩ := List.forall_mem_cons.mp hbs
    obtain ⟨t₁, ht₁, h⟩ := result_bind_ok_iff.mp h
    obtain ⟨u, hu, rfl⟩ := (compileBlock_ok_iff hb).mp ht₁
    have hfirst : (t.append u).sections = t.sections ++ (b.section? v).toList :=
      congrArg (t.sections ++ ·) (Block.sections_of_table? hb hu)
    rw [ih hbs h, hfirst, List.append_assoc, List.filterMap_cons]
    cases b.section? v <;> rfl

/-- Blocks are compiled to a table if each of them is by itself. -/
theorem exists_compileBlocks_iff (hbs : ∀ b ∈ bs, b.header.isHeader = true) :
    (∃ t', (compileBlocks v t bs).result = .ok t') ↔ ∀ b ∈ bs, (b.table? v).isSome = true := by
  induction bs generalizing t with
  | nil => simp [compileBlocks, Reading.ok]
  | cons b bs ih =>
    obtain ⟨hb, hbs⟩ := List.forall_mem_cons.mp hbs
    rw [List.forall_mem_cons, Option.isSome_iff_exists]
    constructor
    · rintro ⟨t', h⟩
      obtain ⟨t₁, ht₁, h⟩ := result_bind_ok_iff.mp h
      obtain ⟨u, hu, _⟩ := (compileBlock_ok_iff hb).mp ht₁
      exact ⟨⟨u, hu⟩, (ih hbs).mp ⟨t', h⟩⟩
    · rintro ⟨⟨u, hu⟩, hrest⟩
      obtain ⟨t', h⟩ := (ih hbs (t := t.append u)).mpr hrest
      exact ⟨t', result_bind_ok_iff.mpr ⟨_, (compileBlock_ok_iff hb).mpr ⟨u, hu, rfl⟩, h⟩⟩

end Blocks

section Defaults

/-- Sections are chosen by their blocks, where a block tells what is asked of its section. -/
theorem filter_sections {p : Section → Bool} {q : Block → Bool}
    (h : ∀ b ∈ bs, ∀ s, b.section? v = some s → p s = q b) :
    (bs.filterMap (Block.section? v)).filter p =
      (bs.filter q).filterMap (Block.section? v) := by
  rw [List.filter_filterMap, List.filterMap_filter]
  refine List.filterMap_congr fun b hb => ?_
  cases hs : b.section? v with
  | none => simp
  | some s => rw [Option.filter_some, h b hb s hs]

theorem getLast?_filterMap_of_isSome {α β : Type} {f : α → Option β} {as : List α}
    (h : ∀ a ∈ as, (f a).isSome = true) : (as.filterMap f).getLast? = as.getLast?.bind f := by
  rcases List.eq_nil_or_concat' as with rfl | ⟨init, a, rfl⟩
  · rfl
  · obtain ⟨b, hb⟩ := Option.isSome_iff_exists.mp (h a (by simp))
    simp [List.filterMap_append, hb]

/-- The section that is found in a window is one of the blocks with a pattern. -/
theorem firstMatch?_of_sections (hbs : ∀ b ∈ bs, b.header.isHeader = true)
    (ht : t.sections = bs.filterMap (Block.section? v)) (window : String) :
    t.firstMatch? window =
      ((bs.filter fun b => ¬b.header.OpensDefault).filterMap (Block.section? v)).find?
        (·.matches? window) := by
  have hpatterned : t.sections.filter (!·.isDefault) =
      (bs.filter fun b => ¬b.header.OpensDefault).filterMap (Block.section? v) := by
    rw [ht]
    refine filter_sections fun b hb s hs => ?_
    rw [Block.isDefault_of_section? (hbs b hb) hs, decide_not]
  rw [← hpatterned, List.find?_filter]
  exact congrArg (List.find? · t.sections) (funext fun s => by simp)

/-- The last section without a pattern is that of the last block that opens one. -/
theorem lastDefault?_of_sections (hbs : ∀ b ∈ bs, b.header.isHeader = true)
    (hok : ∀ b ∈ bs, (b.table? v).isSome = true)
    (ht : t.sections = bs.filterMap (Block.section? v)) :
    t.lastDefault? =
      (bs.filter fun b => b.header.OpensDefault).getLast?.bind (Block.section? v) := by
  unfold Table.lastDefault?
  rw [ht, filter_sections fun b hb s hs => Block.isDefault_of_section? (hbs b hb) hs]
  refine getLast?_filterMap_of_isSome fun b hb => ?_
  obtain ⟨hb, hd⟩ := List.mem_filter.mp hb
  exact Block.isSome_section? (hbs b hb) (by simpa using hd) (hok b hb)

end Defaults

section Edits

variable {ls ls' : List Line}

/-- Where the lines say the same, so do the lines before the first header and the blocks. -/
theorem blocksOf_of_texts (h : ls'.map (·.text) = ls.map (·.text)) :
    (blocksOf ls').1.map (·.text) = (blocksOf ls).1.map (·.text) ∧
      (blocksOf ls').2.map Block.texts = (blocksOf ls).2.map Block.texts := by
  induction ls generalizing ls' with
  | nil =>
    rw [List.map_nil, List.map_eq_nil_iff] at h
    subst h
    exact ⟨rfl, rfl⟩
  | cons l ls ih =>
    obtain ⟨l', ls', rfl, htext, h⟩ := List.map_eq_cons_iff.mp h
    obtain ⟨hpreamble, hblocks⟩ := ih h
    have hheader : l'.isHeader = l.isHeader := by rw [Line.isHeader, htext, Line.isHeader]
    rw [blocksOf, blocksOf, hheader]
    cases l.isHeader with
    | true => simp [Block.texts, htext, hpreamble, hblocks]
    | false => simp [htext, hpreamble, hblocks]

theorem blocksOf_body (hls : ∀ l ∈ ls, l.isHeader = false) (ms : List Line) :
    blocksOf (ls ++ ms) = (ls ++ (blocksOf ms).1, (blocksOf ms).2) := by
  induction ls with
  | nil => rfl
  | cons l ls ih =>
    obtain ⟨hl, hls⟩ := List.forall_mem_cons.mp hls
    rw [List.cons_append, blocksOf, ih hls, hl]
    rfl

/-- Lines that are put together from blocks are cut into these blocks. -/
theorem blocksOf_blocks (hls : ∀ l ∈ ls, l.isHeader = false) (hbs : ∀ b ∈ bs, b.Proper) :
    blocksOf (ls ++ bs.flatMap Block.lines) = (ls, bs) := by
  have hblocks : blocksOf (bs.flatMap Block.lines) = ([], bs) := by
    induction bs with
    | nil => rfl
    | cons b bs ih =>
      obtain ⟨⟨hheader, hbody⟩, hbs⟩ := List.forall_mem_cons.mp hbs
      rw [List.flatMap_cons, Block.lines, List.cons_append, blocksOf, blocksOf_body hbody, ih hbs,
        hheader, List.append_nil]
      rfl
  rw [blocksOf_body hls, hblocks, List.append_nil]

/-- Blocks with those of superseded default sections left out and that of the last one at any
place. -/
structure DefaultMoved (bs bs' : List Block) : Prop where
  others : (bs'.filter fun b => ¬b.header.OpensDefault) =
    bs.filter fun b => ¬b.header.OpensDefault
  default : (bs'.filter fun b => b.header.OpensDefault) =
    (bs.filter fun b => b.header.OpensDefault).getLast?.toList

/-- The lines of a text with the blocks of superseded default sections left out and that of the last
one at any place between the other blocks, before or behind them. -/
def MovesDefault (text text' : String) : Prop :=
  ∃ bs, DefaultMoved (blocksOf (linesOf text)).2 bs ∧
    (linesOf text').map (·.text) =
      ((blocksOf (linesOf text)).1 ++ bs.flatMap Block.lines).map (·.text)

/-- A block that is left was there before. -/
theorem DefaultMoved.subset (h : DefaultMoved bs bs') : ∀ b ∈ bs', b ∈ bs := by
  intro b hb
  by_cases hd : b.header.OpensDefault
  · have hmem : b ∈ bs'.filter fun b => b.header.OpensDefault :=
      List.mem_filter.mpr ⟨hb, by simpa using hd⟩
    rw [h.default, Option.mem_toList] at hmem
    exact (List.mem_filter.mp (List.mem_of_getLast? hmem)).1
  · have hmem : b ∈ bs'.filter fun b => ¬b.header.OpensDefault :=
      List.mem_filter.mpr ⟨hb, by simpa using hd⟩
    rw [h.others] at hmem
    exact (List.mem_filter.mp hmem).1

end Edits

section Files

theorem sections_compile (h : (compile v debug text).result = .ok t) :
    t.sections = (blocksOf (linesOf text)).2.filterMap (Block.section? v) := by
  obtain ⟨d, _, ht⟩ := result_compile_iff.mp h
  exact sections_compileBlocks isHeader_of_mem_blocks ht

theorem tables_of_compile (h : (compile v debug text).result = .ok t) :
    ∀ b ∈ (blocksOf (linesOf text)).2, (b.table? v).isSome = true := by
  obtain ⟨d, _, ht⟩ := result_compile_iff.mp h
  exact (exists_compileBlocks_iff isHeader_of_mem_blocks).mp ⟨t, ht⟩

/-- A text with its default sections moved compiles as well, to the sections of the blocks that are
left. -/
theorem exists_compile_of_movesDefault (h : (compile v debug text).result = .ok t)
    (hmove : MovesDefault text text') :
    ∃ t' bs, DefaultMoved (blocksOf (linesOf text)).2 bs ∧
      (compile v debug text').result = .ok t' ∧
      t'.sections = bs.filterMap (Block.section? v) := by
  obtain ⟨bs, hbs, htexts⟩ := hmove
  have hproper : ∀ b ∈ bs, b.Proper := fun b hb => proper_of_mem_blocks b (hbs.subset b hb)
  obtain ⟨hpreamble, hblocks⟩ := blocksOf_of_texts htexts
  rw [blocksOf_blocks not_isHeader_of_mem_preamble hproper] at hpreamble hblocks
  obtain ⟨d, hd, _⟩ := result_compile_iff.mp h
  have hlines : (bodyLines v (Draft.trace {} ⟨debug, .outside⟩)
      (blocksOf (linesOf text')).1).result = .ok (d.trace {}) :=
    result_bodyLines_of_texts hpreamble hd
  rw [trace_none, trace_none] at hlines
  have htables : ∀ b' ∈ (blocksOf (linesOf text')).2, (b'.table? v).isSome = true := by
    intro b' hb'
    have hmem := List.mem_map_of_mem (f := Block.texts) hb'
    rw [hblocks] at hmem
    obtain ⟨b, hb, htexts⟩ := List.mem_map.mp hmem
    rw [Block.table?_of_texts htexts.symm]
    exact tables_of_compile h b (hbs.subset b hb)
  obtain ⟨t', ht'⟩ :=
    (exists_compileBlocks_iff (t := { debug := d.debug }) isHeader_of_mem_blocks).mpr htables
  have hcompile := result_compile_iff.mpr ⟨d, hlines, ht'⟩
  refine ⟨t', bs, hbs, hcompile, ?_⟩
  rw [sections_compile hcompile, sections_of_texts hblocks]

/-- Moving the default section changes neither the section that governs a window nor the one that
supplies what is unbound there. -/
theorem sectionAt_of_movesDefault (h : (compile v debug text).result = .ok t)
    (hmove : MovesDefault text text') :
    ∃ t', (compile v debug text').result = .ok t' ∧ t'.lastDefault? = t.lastDefault? ∧
      ∀ window, t'.firstMatch? window = t.firstMatch? window := by
  obtain ⟨t', bs, hbs, ht', hsections⟩ := exists_compile_of_movesDefault h hmove
  have hheaders : ∀ b ∈ bs, b.header.isHeader = true :=
    fun b hb => isHeader_of_mem_blocks b (hbs.subset b hb)
  have htables : ∀ b ∈ bs, (b.table? v).isSome = true :=
    fun b hb => tables_of_compile h b (hbs.subset b hb)
  refine ⟨t', ht', ?_, fun window => ?_⟩
  · rw [lastDefault?_of_sections hheaders htables hsections, hbs.default,
      lastDefault?_of_sections isHeader_of_mem_blocks (tables_of_compile h) (sections_compile h)]
    cases ((blocksOf (linesOf text)).2.filter fun b => b.header.OpensDefault).getLast? <;> rfl
  · rw [firstMatch?_of_sections hheaders hsections, hbs.others,
      firstMatch?_of_sections isHeader_of_mem_blocks (sections_compile h)]

/-- The section that governs a window is the first one in file order with a pattern that is found in
it, or else the last default section, and a slot sends what the governing section binds it to, or
else the last default section, or else nothing. So both stay as they are when all default sections
but the last are taken out of the text and the last is moved. -/
theorem default_is_last_resort (v : Vocabulary) (debug : DebugFlags) (text : String) (t : Table)
    (h : (compile v debug text).result = .ok t) :
    List.Forall₂ (SectionOf v) ((headed (linesOf text)).filter (·.header.Accepted v)) t.sections ∧
    (∀ window, t.sectionAt (t.sectionFor window) =
        (t.firstMatch? window).or t.lastDefault? ∧
      ∀ slot, t.resolve (t.sectionFor window) slot =
        ((((t.firstMatch? window).or t.lastDefault?).bind (·.binding slot)).or
          (t.lastDefault?.bind (·.binding slot))).getD []) ∧
    ∀ text', MovesDefault text text' → ∃ t', (compile v debug text').result = .ok t' ∧
      ∀ window,
        t'.sectionAt (t'.sectionFor window) = t.sectionAt (t.sectionFor window) ∧
        ∀ slot, t'.resolve (t'.sectionFor window) slot = t.resolve (t.sectionFor window) slot := by
  have htable := tableOf_compile h
  refine ⟨htable.sections, fun window => ⟨?_, ?_⟩, ?_⟩
  · exact Table.sectionAt_sectionFor_of_default htable.default window
  · exact Table.resolve_sectionFor_of_default htable.default window
  · intro text' hmove
    obtain ⟨t', ht', hlast, hfirst⟩ := sectionAt_of_movesDefault h hmove
    have hdefault' := (tableOf_compile ht').default
    refine ⟨t', ht', fun window => ⟨?_, fun slot => ?_⟩⟩
    · rw [Table.sectionAt_sectionFor_of_default hdefault', hfirst, hlast,
        Table.sectionAt_sectionFor_of_default htable.default]
    · rw [Table.resolve_sectionFor_of_default hdefault', hfirst, hlast,
        Table.resolve_sectionFor_of_default htable.default]

/-- A superseded default section in front, and another one between two sections for windows. -/
def supersededRules : String :=
  "DEBUG_KEYS\n[One]\nK1 \"a\"\n[A] foo\nK2 \"b\"\n[Two]\nK1 \"c\"\n# end\n[B] fo*\nK1 \"d\""

/-- The same rules with the last default section behind all others. -/
def settledRules : String :=
  "DEBUG_KEYS\n[A] foo\nK2 \"b\"\n[B] fo*\nK1 \"d\"\n[Two]\nK1 \"c\"\n# end\n"

/-- The blocks of some rules with the last default block behind all others. -/
def defaultBehind (bs : List Block) : List Block :=
  (bs.filter fun b => ¬b.header.OpensDefault) ++
    (bs.filter fun b => b.header.OpensDefault).getLast?.toList

theorem default_is_last_resort_of_superseded :
    ∃ t, (compile .standard {} supersededRules).result = .ok t ∧
      t.sections.map (·.name) = ["One", "A", "Two", "B"] ∧
      MovesDefault supersededRules settledRules ∧
      ∃ t', (compile .standard {} settledRules).result = .ok t' ∧
        t'.resolve (t'.sectionFor "foo") (.keyDown 1) =
          t.resolve (t.sectionFor "foo") (.keyDown 1) ∧
        t'.resolve (t'.sectionFor "foo") (.keyDown 1) = [.press (.ofChar 'c')] ∧
        t'.sectionAt (t'.sectionFor "f") = t.sectionAt (t.sectionFor "f") := by
  obtain ⟨t, ht, hp⟩ := exists_of_any (r := compile .standard {} supersededRules)
    (p := fun t => t.sections.map (·.name) == ["One", "A", "Two", "B"] &&
      t.resolve (t.sectionFor "foo") (.keyDown 1) == [.press (.ofChar 'c')])
    (by decide +kernel)
  rw [Bool.and_eq_true, beq_iff_eq, beq_iff_eq] at hp
  have hmove : MovesDefault supersededRules settledRules :=
    ⟨defaultBehind (blocksOf (linesOf supersededRules)).2,
      ⟨by decide +kernel, by decide +kernel⟩, by decide +kernel⟩
  obtain ⟨-, -, hedit⟩ := default_is_last_resort .standard {} supersededRules t ht
  obtain ⟨t', ht', hsame⟩ := hedit settledRules hmove
  have hresolve := (hsame "foo").2 (.keyDown 1)
  exact ⟨t, ht, hp.1, hmove, t', ht', hresolve, hresolve.trans hp.2, (hsame "f").1⟩

end Files

end Rule

end JogShuttle
