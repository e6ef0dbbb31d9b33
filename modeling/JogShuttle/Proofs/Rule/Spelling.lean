import JogShuttle.Proofs.Keysym.Naming
import JogShuttle.Proofs.Rule.Item
import JogShuttle.Proofs.Rule.Tokens

/-!
# Spelling out an output

Steps are written with blanks between them: a tap as the name of its symbol, a mark as the name with
a suffix, and the boundary as its own word. A line written so is read back as just these steps, and
nothing is wrong with it.
-/

set_option autoImplicit false

namespace JogShuttle

namespace Output

variable {names : KeysymTable} {isKey : Bool} {s : Symbol} {m : Mark} {c : Char}
  {rest : List Char}

/-- The boundary word stands for itself before a blank or at the end. -/
theorem items_boundaryWord (hrest : ∀ c, rest.head? = some c → Token.isSpace c = true) :
    items (Token.all (boundaryWord.toList ++ rest)) = .boundary :: items (Token.all rest) := by
  have hne : boundaryWord.toList ≠ [] := by decide
  have hword : ∀ c ∈ boundaryWord.toList, Token.isWordChar c = true :=
    List.all_eq_true.mp (by decide)
  obtain ⟨t, hall, htext, hquoted, hsuffix⟩ := Token.all_word_append hne hword hrest
  have hcomment : isComment t.text = false := by
    rw [htext]
    decide
  have hname : String.ofList t.text = boundaryWord := by rw [htext, String.ofList_toList]
  rw [hall, items]
  simp [hquoted, hsuffix, hcomment, hname]

theorem items_nameOf (hnames : names.Faithful) (hs : names.Named s)
    (hrest : ∀ c, rest.head? = some c → Token.isSpace c = true) :
    items (Token.all ((names.nameOf s).toList ++ rest)) =
      .plain (names.nameOf s) :: items (Token.all rest) := by
  obtain ⟨t, hall, htext, hquoted, hsuffix⟩ :=
    Token.all_word_append (names.toList_nameOf_ne_nil s) (hnames.isWordChar_nameOf s hs) hrest
  have hcomment : isComment t.text = false := by rw [htext, names.isComment_nameOf]
  have hname : String.ofList t.text = names.nameOf s := by rw [htext, String.ofList_toList]
  rw [hall, items]
  simp [hquoted, hsuffix, hcomment, hname, names.nameOf_ne_boundaryWord]

/-- A suffix belongs to the name in front of its slash, whatever the next word is. -/
theorem items_nameOf_slash (hnames : names.Faithful) (hs : names.Named s)
    (hc : Token.isWordChar c = true)
    (hrest : ∀ c, rest.head? = some c → Token.isSpace c = true) :
    items (Token.all ((names.nameOf s).toList ++ '/' :: ([c] ++ rest))) =
      .suffixed (names.nameOf s) [c] :: items (Token.all rest) := by
  obtain ⟨t, hall, htext, hquoted, hsuffix⟩ :=
    Token.all_word_slash (names.toList_nameOf_ne_nil s) (hnames.isWordChar_nameOf s hs)
      ([c] ++ rest)
  obtain ⟨u, hletter, hutext, -⟩ :=
    Token.all_word_append (List.cons_ne_nil c []) (by simpa using hc) hrest
  have hcomment : isComment t.text = false := by rw [htext, names.isComment_nameOf]
  have hname : String.ofList t.text = names.nameOf s := by rw [htext, String.ofList_toList]
  rw [hall, hletter, items]
  simp [hquoted, hsuffix, hcomment, hname, names.nameOf_ne_boundaryWord, hutext]

theorem output_plain_nameOf (hnames : names.Faithful) (hs : names.Named s) :
    (Item.plain (names.nameOf s)).output names isKey = step (.tap s) := by
  rw [Item.output, ofName, hnames.resolve_nameOf s hs]
  rfl

theorem output_suffixed_nameOf (hnames : names.Faithful) (hs : names.Named s)
    (hm : markOf? [c] = some m) :
    (Item.suffixed (names.nameOf s) [c]).output names isKey = step ⟨m, some s⟩ := by
  simp only [Item.output, ofSuffixed, hm, ofName, hnames.resolve_nameOf s hs]

end Output

/-- The capital letter of the suffix that makes a mark. -/
def Mark.letter? : Mark → Option Char
  | .down => some 'D'
  | .up => some 'U'
  | .hold => some 'H'
  | _ => none

/-- A step that can be written: the boundary in a key, or a mark on a symbol with a name. -/
inductive Step.Writable (names : KeysymTable) (isKey : Bool) : Step → Prop where
  | boundary (h : isKey = true) : Writable names isKey .boundary
  | tap {s : Symbol} (h : names.Named s) : Writable names isKey (.tap s)
  | down {s : Symbol} (h : names.Named s) : Writable names isKey (.down s)
  | up {s : Symbol} (h : names.Named s) : Writable names isKey (.up s)
  | hold {s : Symbol} (h : names.Named s) : Writable names isKey (.hold s)

/-- A step as it stands on a line: the blanks in front of it, and whether the letter of its suffix
is a small one. -/
structure Spelling where
  gap : List Char
  step : Step
  small : Bool
  gap_blank : ∀ c ∈ gap, c = ' ' ∨ c = '\t'

namespace Spelling

variable {names : KeysymTable} {isKey : Bool} {w : Spelling} {ws : List Spelling} {rest : List Char}

def suffix (w : Spelling) : List Char :=
  match w.step.mark.letter? with
  | none => []
  | some c => ['/', if w.small then c.toLower else c]

def word (names : KeysymTable) (w : Spelling) : List Char :=
  match w.step.symbol with
  | none => Output.boundaryWord.toList
  | some s => (names.nameOf s).toList ++ w.suffix

/-- The line on which the steps are written. -/
def line (names : KeysymTable) (ws : List Spelling) : List Char :=
  ws.flatMap fun w => w.gap ++ w.word names

theorem isSpace_of_mem_gap {c : Char} (h : c ∈ w.gap) : Token.isSpace c = true := by
  cases w.gap_blank c h with
  | inl hc => rw [hc]; rfl
  | inr hc => rw [hc]; rfl

theorem all_gap_append (w : Spelling) (cs : List Char) : Token.all (w.gap ++ cs) = Token.all cs :=
  Token.all_gap_append (fun c hc => by simp [Token.isGap, isSpace_of_mem_gap hc]) cs

/-- Where every word has a gap in front, a line begins with a blank if with anything. -/
theorem isSpace_of_head?_line (h : ∀ w ∈ ws, w.gap ≠ []) {c : Char}
    (hc : (line names ws).head? = some c) : Token.isSpace c = true := by
  cases ws with
  | nil => cases hc
  | cons w ws =>
    obtain ⟨d, gap, hgap⟩ := List.exists_cons_of_ne_nil (h w List.mem_cons_self)
    have hd : d = c := by
      simpa [line, hgap] using hc
    exact isSpace_of_mem_gap (w := w) (by rw [hgap, hd]; exact List.mem_cons_self)

/-- The letter of a suffix says its mark in either case. -/
theorem markOf?_suffix {m : Mark} {c : Char} (h : m.letter? = some c) (small : Bool) :
    Output.markOf? [if small then c.toLower else c] = some m ∧
      Token.isWordChar (if small then c.toLower else c) = true := by
  cases m with
  | tap => cases h
  | release => cases h
  | down => cases h; cases small <;> decide
  | up => cases h; cases small <;> decide
  | hold => cases h; cases small <;> decide

/-- A marked symbol is one item. -/
theorem items_word_of_letter (hnames : names.Faithful) {s : Symbol} (hs : names.Named s)
    (hstep : w.step.symbol = some s) {c : Char} (hc : w.step.mark.letter? = some c)
    (hrest : ∀ c, rest.head? = some c → Token.isSpace c = true) :
    ∃ i, Output.items (Token.all (w.word names ++ rest)) = i :: Output.items (Token.all rest) ∧
      i.output names isKey = Output.step w.step := by
  obtain ⟨hmark, hword⟩ := markOf?_suffix hc w.small
  refine ⟨.suffixed (names.nameOf s) [if w.small then c.toLower else c], ?_, ?_⟩
  · rw [← Output.items_nameOf_slash hnames hs hword hrest]
    simp [word, suffix, hstep, hc]
  · rw [Output.output_suffixed_nameOf hnames hs hmark, ← hstep]

theorem items_word (hnames : names.Faithful) (h : w.step.Writable names isKey)
    (hrest : ∀ c, rest.head? = some c → Token.isSpace c = true) :
    ∃ i, Output.items (Token.all (w.word names ++ rest)) = i :: Output.items (Token.all rest) ∧
      i.output names isKey = Output.step w.step := by
  obtain ⟨gap, step, small, hgap⟩ := w
  cases h with
  | boundary hkey =>
    subst hkey
    exact ⟨_, Output.items_boundaryWord hrest, rfl⟩
  | @tap s hs =>
    refine ⟨.plain (names.nameOf s), ?_, Output.output_plain_nameOf hnames hs⟩
    rw [← Output.items_nameOf hnames hs hrest]
    simp [word, suffix, Mark.letter?]
  | down hs => exact items_word_of_letter hnames hs rfl rfl hrest
  | up hs => exact items_word_of_letter hnames hs rfl rfl hrest
  | hold hs => exact items_word_of_letter hnames hs rfl rfl hrest

theorem items_line (hnames : names.Faithful) (hws : ∀ w ∈ ws, w.step.Writable names isKey)
    (hgaps : ∀ w ∈ ws.tail, w.gap ≠ []) :
    (Output.items (Token.all (line names ws))).map (Output.Item.output names isKey) =
      ws.map fun w => Output.step w.step := by
  induction ws with
  | nil =>
    change (Output.items (Token.all [])).map _ = []
    rw [Token.all_of_next?_none rfl, Output.items, List.map_nil]
  | cons w ws ih =>
    obtain ⟨hw, hws⟩ := List.forall_mem_cons.mp hws
    have hrest : ∀ c, (line names ws).head? = some c → Token.isSpace c = true :=
      fun c => isSpace_of_head?_line hgaps
    obtain ⟨i, hitems, hout⟩ := items_word hnames hw hrest
    have hline : line names (w :: ws) = w.gap ++ (w.word names ++ line names ws) := by
      simp [line]
    -- the gap in front is passed over, and the word ends where the next gap begins
    rw [hline, all_gap_append, hitems, List.map_cons, hout,
      ih hws fun v hv => hgaps v (List.mem_of_mem_tail hv), List.map_cons]

theorem foldr_step (steps : List Step) :
    (steps.map Output.step).foldr (· ++ ·) Output.nothing = ⟨steps, []⟩ := by
  induction steps with
  | nil => rfl
  | cons s steps ih =>
    rw [List.map_cons, List.foldr_cons, ih]
    rfl

/-- Steps written by the names of their symbols, with suffixes in either case and at least one space
or tab between them, are read back as they are, without a problem. -/
theorem ofTokens_line (hnames : names.Faithful) (hws : ∀ w ∈ ws, w.step.Writable names isKey)
    (hgaps : ∀ w ∈ ws.tail, w.gap ≠ []) :
    Output.ofTokens names isKey (Token.all (line names ws)) = ⟨ws.map (·.step), []⟩ := by
  rw [Output.ofTokens_eq, items_line hnames hws hgaps, ← foldr_step, List.map_map]
  rfl

/-- A table of a few keys. -/
def editingKeys : KeysymTable := ⟨[("Alt_L", 0xffe9), ("Left", 0xff51), ("a", 0x61)]⟩

theorem regular_editingKeys : editingKeys.Regular :=
  ⟨by decide, by decide +kernel, by decide⟩

theorem faithful_editingKeys : editingKeys.Faithful := regular_editingKeys.faithful

/-- A mark of each kind, the boundary, and taps of a key and of a pointer button. -/
def editingSteps : List Spelling :=
  [⟨[], .down ⟨0xffe9⟩, true, by simp⟩, ⟨[' ', '\t'], .tap ⟨0x2000004⟩, false, by simp⟩,
    ⟨[' '], .up ⟨0xffe9⟩, false, by simp⟩, ⟨['\t'], .boundary, false, by simp⟩,
    ⟨[' '], .hold ⟨0xff51⟩, true, by simp⟩, ⟨[' '], .tap ⟨0x61⟩, false, by simp⟩]

theorem editing_line_read_back :
    line editingKeys editingSteps =
        "XK_Alt_L/d \tXK_Scroll_Up XK_Alt_L/U\tRELEASE XK_Left/h XK_a".toList ∧
      Output.ofTokens editingKeys true (Token.all (line editingKeys editingSteps)) =
        ⟨[.down ⟨0xffe9⟩, .tap ⟨0x2000004⟩, .up ⟨0xffe9⟩, .boundary, .hold ⟨0xff51⟩, .tap ⟨0x61⟩],
          []⟩ := by
  have hws : ∀ w ∈ editingSteps, w.step.Writable editingKeys true := by
    simp only [editingSteps, List.forall_mem_cons]
    exact ⟨.down ⟨"Alt_L", by decide⟩, .tap ⟨"Scroll_Up", by decide⟩, .up ⟨"Alt_L", by decide⟩,
      .boundary rfl, .hold ⟨"Left", by decide⟩, .tap ⟨"a", by decide⟩,
      List.forall_mem_nil _⟩
  exact ⟨by decide, ofTokens_line faithful_editingKeys hws (by decide)⟩

end Spelling

end JogShuttle
