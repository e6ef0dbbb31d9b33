import JogShuttle.Proofs.Rule.JoinedReport

/-!
# A line in its place

Trimming keeps what stands between the blanks at both ends of a line. A line between two texts is
one line of the whole, and its neighbours and their numbers are the same whatever it says. So lines
that are read alike may stand for one another in any rule file.
-/

set_option autoImplicit false

namespace JogShuttle

namespace Text

variable {c : Char} {cs ds lead core trail : List Char}

theorem dropWhile_of_head? (h : ∀ c ∈ cs.head?, isBlank c = false) : cs.dropWhile isBlank = cs := by
  cases cs with
  | nil => rfl
  | cons c cs => rw [List.dropWhile_cons, if_neg (by simp [h c rfl])]

theorem trim_blank_append (h : ∀ c ∈ lead, isBlank c = true) (cs : List Char) :
    trim (lead ++ cs) = trim cs := by
  unfold trim
  rw [List.dropWhile_append_of_pos h]

theorem trim_append_blank (hhead : ∀ c ∈ core.head?, isBlank c = false)
    (hlast : ∀ c ∈ core.getLast?, isBlank c = false) (htrail : ∀ c ∈ trail, isBlank c = true) :
    trim (core ++ trail) = core := by
  have htrail' : ∀ c ∈ trail.reverse, isBlank c = true := fun c hc =>
    htrail c (List.mem_reverse.mp hc)
  cases core with
  | nil =>
    have hgone : trail.dropWhile isBlank = [] := List.dropWhile_eq_nil_iff.mpr htrail
    rw [List.nil_append, trim, hgone]
    rfl
  | cons c cs =>
    have hhead' : ∀ d ∈ (c :: cs ++ trail).head?, isBlank d = false := hhead
    have hlast' : ∀ d ∈ (c :: cs).reverse.head?, isBlank d = false := by
      rwa [List.head?_reverse]
    rw [trim, dropWhile_of_head? hhead', List.reverse_append, List.dropWhile_append_of_pos htrail',
      dropWhile_of_head? hlast', List.reverse_reverse]

theorem trim_of_ends (hhead : ∀ c ∈ cs.head?, isBlank c = false)
    (hlast : ∀ c ∈ cs.getLast?, isBlank c = false) : trim cs = cs := by
  have h : trim (cs ++ []) = cs := trim_append_blank hhead hlast (List.forall_mem_nil _)
  rwa [List.append_nil] at h

/-- Of two texts that begin with no blank the first is kept as it is. -/
theorem trim_append (hcs : ∀ c ∈ cs.head?, isBlank c = false) (hds : ds ≠ [])
    (hhead : ∀ c ∈ ds.head?, isBlank c = false) : trim (cs ++ ds) = cs ++ trim ds := by
  have hfirst : ∀ c ∈ (cs ++ ds).head?, isBlank c = false := by
    cases cs with
    | nil => exact hhead
    | cons c cs => exact hcs
  have hsome : ds.reverse.dropWhile isBlank ≠ [] := by
    intro hnil
    obtain ⟨d, ds, rfl⟩ := List.exists_cons_of_ne_nil hds
    have hd := List.dropWhile_eq_nil_iff.mp hnil d (List.mem_reverse.mpr List.mem_cons_self)
    rw [hhead d rfl] at hd
    cases hd
  rw [trim, dropWhile_of_head? hfirst, trim, dropWhile_of_head? hhead, List.reverse_append,
    List.dropWhile_append, if_neg (by simpa using hsome), List.reverse_append,
    List.reverse_reverse]

theorem trim_cons (h : isBlank c = false) (cs : List Char) :
    ∃ rest, trim (c :: cs) = c :: rest := by
  have hhead : ∀ d ∈ (c :: cs).head?, isBlank d = false := by
    rintro d ⟨⟩
    exact h
  rw [trim, dropWhile_of_head? hhead, List.reverse_cons, List.dropWhile_append]
  split
  · exact ⟨[], by simp [h]⟩
  · exact ⟨_, by rw [List.reverse_append]; rfl⟩

/-- No line ends within the text. -/
def Unbroken (cs : List Char) : Prop := ∀ c ∈ cs, isLineBreak c = false

instance (cs : List Char) : Decidable (Unbroken cs) :=
  decidable_of_iff (cs.all (!isLineBreak ·) = true) (by simp [Unbroken])

theorem unbroken_append : Unbroken (cs ++ ds) ↔ Unbroken cs ∧ Unbroken ds := List.forall_mem_append

/-- What stands behind a line is nothing or begins with the break that ends the line. -/
def BeginsWithBreak (cs : List Char) : Prop := ∀ c ∈ cs.head?, isLineBreak c = true

instance (cs : List Char) : Decidable (BeginsWithBreak cs) :=
  decidable_of_iff (cs.head?.all isLineBreak = true) (Option.all_eq_true _ _)

theorem lines_cons_of_not_break (h : isLineBreak c = false) (cs : List Char) :
    lines (c :: cs) = consFirst c (lines cs) := by
  rw [lines, if_neg (by simp [h])]
  rintro rest rfl
  cases h

/-- A break where a line could begin closes an empty one. -/
theorem consFirst_lines (h : BeginsWithBreak ds) (c : Char) :
    consFirst c (lines ds) = [c] :: (lines ds).tail := by
  cases ds using lines.induct with
  | case1 => rfl
  | case2 ds => rw [lines]; rfl
  | case3 d ds hcr hd => rw [lines, if_pos hd]; exacts [rfl, hcr]
  | case4 d ds hcr hd => exact absurd (h d rfl) hd

theorem lines_unbroken_append (hne : cs ≠ []) (hcs : Unbroken cs) (hds : BeginsWithBreak ds) :
    lines (cs ++ ds) = cs :: (lines ds).tail := by
  induction cs with
  | nil => exact absurd rfl hne
  | cons c cs ih =>
    obtain ⟨hc, hcs⟩ := List.forall_mem_cons.mp hcs
    rw [List.cons_append, lines_cons_of_not_break hc]
    by_cases hnil : cs = []
    · subst hnil
      exact consFirst_lines hds c
    · rw [ih hnil hcs]
      rfl

end Text

namespace Rule

variable {v : Vocabulary} {debug : DebugFlags} {a p p' b : String} {l l' : Line}
variable {ls ls' : List Line} {blocks blocks' : List Block}

/-- A text that is one line, between two others: those before it are closed, and what is behind it
begins with its break. -/
structure Placed (a p b : String) : Prop where
  before : Text.EndsLine a.toList
  ne_nil : p.toList ≠ []
  unbroken : Text.Unbroken p.toList
  behind : Text.BeginsWithBreak b.toList

/-- The line itself, trimmed, with the number that it has in its place. -/
def placedLine (a p : String) : Line := ⟨(linesOf a).length + 1, Text.trim p.toList⟩

/-- The lines behind it. -/
def linesBehind (a b : String) : List Line :=
  numbered ((linesOf a).length + 2) (Text.lines b.toList).tail

theorem linesOf_placed (h : Placed a p b) :
    linesOf (a ++ p ++ b) = linesOf a ++ placedLine a p :: linesBehind a b := by
  have hhead : (p.toList ++ b.toList).head? ≠ some '\n' := by
    obtain ⟨c, cs, hcs⟩ := List.exists_cons_of_ne_nil h.ne_nil
    rw [hcs]
    rintro ⟨⟩
    exact absurd (h.unbroken '\n' (by rw [hcs]; exact List.mem_cons_self)) (by decide)
  have hlength : (linesOf a).length = (Text.lines a.toList).length := length_numbered _ _
  unfold placedLine linesBehind
  rw [hlength, linesOf, String.toList_append, String.toList_append, List.append_assoc,
    Text.lines_append h.before hhead, Text.lines_unbroken_append h.ne_nil h.unbroken h.behind,
    numbered_append, numbered, Nat.add_comm 1]
  rfl

/-- Lines that say the same, whatever is read before them. -/
structure ReadsAlike (v : Vocabulary) (l l' : Line) : Prop where
  isHeader : l.isHeader = l'.isHeader
  header : l.isHeader = true → l = l'
  body : ∀ d, bodyLine v d l = bodyLine v d l'

theorem ReadsAlike.refl (v : Vocabulary) (l : Line) : ReadsAlike v l l :=
  ⟨rfl, fun _ => rfl, fun _ => rfl⟩

/-- Blocks with one header and with lines that are read alike. -/
def BlocksAlike (v : Vocabulary) (b b' : Block) : Prop :=
  b.header = b'.header ∧ List.Forall₂ (ReadsAlike v) b.body b'.body

theorem bodyLines_congr (h : List.Forall₂ (ReadsAlike v) ls ls') (d : Draft) :
    bodyLines v d ls = bodyLines v d ls' := by
  induction h generalizing d with
  | nil => rfl
  | cons hl _ ih =>
    rw [bodyLines, bodyLines, hl.body d]
    exact congrArg _ (funext ih)

theorem blocksOf_congr (h : List.Forall₂ (ReadsAlike v) ls ls') :
    List.Forall₂ (ReadsAlike v) (blocksOf ls).1 (blocksOf ls').1 ∧
      List.Forall₂ (BlocksAlike v) (blocksOf ls).2 (blocksOf ls').2 := by
  induction h with
  | nil => exact ⟨.nil, .nil⟩
  | @cons l l' ls ls' hl _ ih =>
    obtain ⟨hbody, hblocks⟩ := ih
    rw [blocksOf, blocksOf, ← hl.isHeader]
    cases hheader : l.isHeader with
    | true => exact ⟨.nil, .cons ⟨hl.header hheader, hbody⟩ hblocks⟩
    | false => exact ⟨.cons hl hbody, hblocks⟩

theorem compileBlocks_congr (h : List.Forall₂ (BlocksAlike v) blocks blocks') (t : Table) :
    compileBlocks v t blocks = compileBlocks v t blocks' := by
  induction h generalizing t with
  | nil => rfl
  | cons hb _ ih =>
    rw [compileBlocks, compileBlocks, compileBlock, compileBlock, hb.1]
    simp only [bodyLines_congr hb.2]
    exact congrArg _ (funext ih)

/-- Texts whose lines are read alike are compiled to the same table with the same notes. -/
theorem compile_congr {text text' : String}
    (h : List.Forall₂ (ReadsAlike v) (linesOf text) (linesOf text')) :
    compile v debug text = compile v debug text' := by
  obtain ⟨hpreamble, hblocks⟩ := blocksOf_congr h
  change (bodyLines v ⟨debug, .outside⟩ (blocksOf (linesOf text)).1 >>= fun d =>
      compileBlocks v { debug := d.debug } (blocksOf (linesOf text)).2) = _
  rw [bodyLines_congr hpreamble]
  exact congrArg _ (funext fun d => compileBlocks_congr hblocks _)

theorem compile_placed_congr (h : Placed a p b) (h' : Placed a p' b)
    (hread : ReadsAlike v (placedLine a p) (placedLine a p')) :
    compile v debug (a ++ p ++ b) = compile v debug (a ++ p' ++ b) := by
  refine compile_congr ?_
  rw [linesOf_placed h, linesOf_placed h']
  exact List.rel_append (List.forall₂_same.mpr fun l _ => .refl v l)
    (.cons hread (List.forall₂_same.mpr fun l _ => .refl v l))

section Open

variable {ms : List Line} {above : List Block} {o : Block} {d : Diagnostic}

theorem blocksOf_append_preamble (h : (blocksOf ls).2 = []) (ms : List Line) :
    blocksOf (ls ++ ms) = ((blocksOf ls).1 ++ (blocksOf ms).1, (blocksOf ms).2) := by
  induction ls with
  | nil => rfl
  | cons l ls ih =>
    rw [blocksOf] at h
    rw [List.cons_append, blocksOf, blocksOf]
    cases hl : l.isHeader with
    | true =>
      rw [hl] at h
      cases h
    | false =>
      rw [hl] at h
      rw [ih h]
      rfl

/-- Lines behind a text go on with its last block. -/
theorem blocksOf_append_open (h : (blocksOf ls).2 = above ++ [o]) (ms : List Line) :
    blocksOf (ls ++ ms) = ((blocksOf ls).1,
      above ++ ⟨o.header, o.body ++ (blocksOf ms).1⟩ :: (blocksOf ms).2) := by
  induction ls generalizing above with
  | nil => exact absurd h (by simp [blocksOf])
  | cons l ls ih =>
    rw [blocksOf] at h
    rw [List.cons_append, blocksOf, blocksOf]
    cases hl : l.isHeader with
    | true =>
      rw [hl] at h
      change ⟨l, (blocksOf ls).1⟩ :: (blocksOf ls).2 = above ++ [o] at h
      cases above with
      | nil =>
        obtain ⟨rfl, hnil⟩ := List.cons.inj h
        rw [blocksOf_append_preamble hnil]
        rfl
      | cons first above =>
        obtain ⟨rfl, hlast⟩ := List.cons.inj h
        rw [ih hlast]
        rfl
    | false =>
      rw [hl] at h
      rw [ih h]
      rfl

/-- The last section of a text goes on with the line behind the text. -/
theorem blocksOf_placed (h : Placed a p b) (hopen : headed (linesOf a) = above ++ [o])
    (hl : (placedLine a p).isHeader = false) :
    blocksOf (linesOf (a ++ p ++ b)) = ((blocksOf (linesOf a)).1, above ++
      ⟨o.header, o.body ++ placedLine a p :: (blocksOf (linesBehind a b)).1⟩ ::
        (blocksOf (linesBehind a b)).2) := by
  rw [headed_eq] at hopen
  rw [linesOf_placed h, blocksOf_append_open hopen, blocksOf, hl]
  rfl

theorem headed_placed (h : Placed a p b) (hopen : headed (linesOf a) = above ++ [o])
    (hl : (placedLine a p).isHeader = false) :
    headed (linesOf (a ++ p ++ b)) = above ++
      ⟨o.header, o.body ++ placedLine a p :: (blocksOf (linesBehind a b)).1⟩ ::
        (blocksOf (linesBehind a b)).2 := by
  rw [headed_eq, blocksOf_placed h hopen hl]

/-- A line may stand in a file in place of another if it does not stop the reading itself. -/
theorem firstFault?_placed (h : Placed a p b) (h' : Placed a p' b)
    (hopen : headed (linesOf a) = above ++ [o]) (hl : (placedLine a p).isHeader = false)
    (hl' : (placedLine a p').isHeader = false) (hfault : (placedLine a p').fault? = none)
    (hnone : firstFault? v (a ++ p ++ b) = none) : firstFault? v (a ++ p' ++ b) = none := by
  unfold firstFault? at hnone ⊢
  rw [headed_placed h hopen hl, List.findSome?_eq_none_iff, List.forall_mem_append,
    List.forall_mem_cons, Block.fault?_eq_none_iff] at hnone
  rw [headed_placed h' hopen hl', List.findSome?_eq_none_iff, List.forall_mem_append,
    List.forall_mem_cons, Block.fault?_eq_none_iff]
  obtain ⟨habove, ⟨hheader, hbody⟩, hbelow⟩ := hnone
  refine ⟨habove, ⟨hheader, fun haccepted l hmem => ?_⟩, hbelow⟩
  have hlines := hbody haccepted
  rw [List.forall_mem_append, List.forall_mem_cons] at hlines
  rcases List.mem_append.mp hmem with hmem | hmem
  · exact hlines.1 l hmem
  · rcases List.mem_cons.mp hmem with rfl | hmem
    · exact Line.fault?_eq_none_iff.mp hfault
    · exact hlines.2.2 l hmem

/-- The lines before a line have smaller numbers, and those behind it greater ones. -/
theorem number_placed (h : Placed a p b) :
    (∀ l ∈ linesOf a, l.number < (placedLine a p).number) ∧
      ∀ l ∈ linesBehind a b, (placedLine a p).number < l.number := by
  have hsorted : (linesOf (a ++ p ++ b)).Pairwise (·.number < ·.number) :=
    (numbered_pairwise 1 _).1
  rw [linesOf_placed h, List.pairwise_append, List.pairwise_cons] at hsorted
  exact ⟨fun l hl => hsorted.2.2 l hl _ List.mem_cons_self, hsorted.2.1.1⟩

theorem blocksOf_subset (ls : List Line) :
    (blocksOf ls).1 ⊆ ls ∧ (blocksOf ls).2.flatMap Block.lines ⊆ ls := by
  rw [← List.append_subset, blocksOf_lines]
  exact List.Subset.refl _

/-- What a file reports at a line of its last section so far is what the line reports itself. -/
theorem mem_diagnostics_of_placed (h : Placed a p b)
    (hopen : headed (linesOf a) = above ++ [o]) (hl : (placedLine a p).isHeader = false)
    (hd : d ∈ diagnosticsOf v (a ++ p ++ b)) (hline : d.line = (placedLine a p).number) :
    d ∈ (placedLine a p).diagnostics v o.header.title o.body := by
  have hblocks := blocksOf_placed h hopen hl
  have hpreamble : (linesOf (a ++ p ++ b)).takeWhile (!·.isHeader) = (blocksOf (linesOf a)).1 := by
    rw [blocksOf_eq] at hblocks
    exact congrArg Prod.fst hblocks
  -- the lines before and behind have other numbers
  have hother : ∀ {ls : List Line}, (ls ⊆ linesOf a ∨ ls ⊆ linesBehind a b) →
      (∃ l ∈ ls, d.line = l.number) → False := by
    obtain ⟨hbefore, hbehind⟩ := number_placed h
    rintro ls hls ⟨l, hmem, hnumber⟩
    rw [hline] at hnumber
    rcases hls with hls | hls
    · exact absurd hnumber (Nat.ne_of_gt (hbefore l (hls hmem)))
    · exact absurd hnumber (Nat.ne_of_lt (hbehind l (hls hmem)))
  obtain ⟨hstray, hbefore⟩ := blocksOf_subset (linesOf a)
  rw [← headed_eq, hopen, List.flatMap_append, List.flatMap_singleton, List.append_subset]
    at hbefore
  obtain ⟨habove, hlast⟩ := hbefore
  have hbehind := blocksOf_subset (linesBehind a b)
  rw [diagnosticsOf, hpreamble, headed_placed h hopen hl, reports_append, reports,
    blockDiagnostics_eq, List.mem_append, List.mem_append, List.mem_append, List.mem_append] at hd
  rcases hd with hd | hd | (hd | hd) | hd
  · obtain ⟨l, hmem, hd⟩ := List.mem_flatMap.mp hd
    exact (hother (.inl hstray) ⟨l, hmem, line_of_mem_strayDiagnostics hd⟩).elim
  · exact (hother (.inl habove) (exists_line_of_mem_blocks hd)).elim
  · exact (hother (.inl hlast) ⟨o.header, List.mem_cons_self, line_of_mem_headerDiagnostics hd⟩).elim
  · unfold Block.bodyDiagnostics at hd
    split at hd
    · rw [reports_append, reports, List.mem_append, List.mem_append] at hd
      rcases hd with hd | hd | hd
      · obtain ⟨l, hmem, front, hd⟩ := exists_of_mem_reports hd
        exact (hother (.inl hlast)
          ⟨l, List.mem_cons_of_mem _ hmem, line_of_mem_lineDiagnostics hd⟩).elim
      · exact hd
      · obtain ⟨l, hmem, front, hd⟩ := exists_of_mem_reports hd
        exact (hother (.inr hbehind.1) ⟨l, hmem, line_of_mem_lineDiagnostics hd⟩).elim
    · cases hd
  · exact (hother (.inr hbehind.2) (exists_line_of_mem_blocks hd)).elim

/-- The section that is open at the end of a text binds the slots that no line of it has defined yet
by the line behind the text. -/
theorem exists_section_of_placed {t : Table} {u : Target} {tokens : List Token}
    (h : Placed a p b) (hopen : headed (linesOf a) = above ++ [o]) (ho : o.header.Accepted v)
    (hl : (placedLine a p).isHeader = false)
    (hdef : (placedLine a p).definition? = some (u, tokens))
    (hfirst : ∀ l ∈ o.body, ∀ more, l.definition? ≠ some (u, more))
    (ht : (compile v debug (a ++ p ++ b)).result = .ok t) :
    ∃ s, t.sections[(above.filter (·.header.Accepted v)).length]? = some s ∧
      ∀ slot, u.covers slot = true →
        ∃ r, Built v u tokens r ∧ s.binding slot = Section.bound? (r.half slot) := by
  have htable := tableOf_compile ht
  rw [headed_placed h hopen hl] at htable
  have ho' : (⟨o.header, o.body ++ placedLine a p :: (blocksOf (linesBehind a b)).1⟩ :
      Block).header.Accepted v := ho
  obtain ⟨s, hs, hsection⟩ := htable.exists_section ho'
  exact ⟨s, hs, fun slot hcovers => hsection.binding_of_first rfl hdef hfirst hcovers⟩

end Open

end Rule

end JogShuttle
