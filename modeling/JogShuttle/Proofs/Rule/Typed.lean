import JogShuttle.Proofs.Keysym.Character
import JogShuttle.Proofs.Keysym.Naming
import JogShuttle.Proofs.Rule.Placed
import JogShuttle.Proofs.Rule.Tokens
import JogShuttle.Proofs.Sequence.Taps

/-!
# Texts that are typed

A designator is a word without blanks in it, and what stands in quotes behind it is a token of its
own, whatever its characters mean elsewhere. So a line of quoted texts is read as taps of their
printable characters and of nothing else, reports nothing, and binds its slot to them.
-/

set_option autoImplicit false

namespace JogShuttle

section Designators

variable {c : Char} {cs word : List Char} {n : Int} {u : Target}

theorem Text.exists_zero_of_isDigit (h : isDigit c = true) :
    ∃ z ∈ digitZeros, ∃ k < 10, c = Char.ofNat (z + k) := by
  have hplace : ∀ {z}, z ≤ c.toNat → c = Char.ofNat (z + (c.toNat - z)) := by
    intro z hz
    rw [Nat.add_sub_cancel' hz, Char.ofNat_toNat]
  unfold isDigit digitValue? at h
  split at h
  · split at h
    · next hc =>
      have hlow : '0'.toNat ≤ c.toNat := hc.1
      have hhigh : c.toNat ≤ '9'.toNat := hc.2
      change 48 ≤ c.toNat at hlow
      change c.toNat ≤ 57 at hhigh
      exact ⟨48, by decide, c.toNat - 48, by omega, hplace hlow⟩
    · cases h
  · cases hrun : digitZeros.find? fun z => z ≤ c.toNat && c.toNat < z + 10 with
    | none =>
      rw [hrun] at h
      cases h
    | some z =>
      have hz := List.find?_some hrun
      simp only [Bool.and_eq_true, decide_eq_true_eq] at hz
      exact ⟨z, List.mem_of_find?_eq_some hrun, c.toNat - z, by omega, hplace hz.1⟩

theorem Token.isNameChar_of_isDigit (h : Text.isDigit c = true) : isNameChar c = true := by
  have hdigits : ∀ z ∈ Text.digitZeros, ∀ k < 10, isNameChar (Char.ofNat (z + k)) = true := by
    decide +kernel
  obtain ⟨z, hz, k, hk, rfl⟩ := Text.exists_zero_of_isDigit h
  exact hdigits z hz k hk

namespace Target

theorem isNameChar_of_signed? (h : signed? cs = .ok (some n)) :
    ∀ c ∈ cs, Token.isNameChar c = true := by
  have hdigits : ∀ c ∈ (splitSign cs).2, Text.isDigit c = true := by
    unfold signed? at h
    simp only at h
    split at h
    · cases h
    · next hd =>
      rw [Bool.or_eq_true, not_or, Bool.not_eq_true', Bool.not_eq_false] at hd
      exact List.all_eq_true.mp hd.2
  obtain ⟨sign, hsign, hcs⟩ := exists_sign cs
  have hsigns : ∀ sign ∈ [[], ['-'], ['+']], sign.all Token.isNameChar = true := by decide
  rw [hcs]
  refine List.forall_mem_append.mpr ⟨List.all_eq_true.mp (hsigns sign hsign), fun c hc => ?_⟩
  exact Token.isNameChar_of_isDigit (hdigits c hc)

theorem isNameChar_of_ofLetter? {d : Direction}
    (h : Direction.ofLetter? (String.ofList cs) = some d) : ∀ c ∈ cs, Token.isNameChar c = true := by
  have hcs : ∀ {s : String}, String.ofList cs = s → cs = s.toList := by
    rintro s rfl
    simp
  unfold Direction.ofLetter? at h
  split at h
  · next hs =>
    rcases hs with hs | hs
    · rw [hcs hs]
      exact List.all_eq_true.mp (by decide)
    · rw [hcs hs]
      exact List.all_eq_true.mp (by decide)
  · split at h
    · next hs =>
      rcases hs with hs | hs
      · rw [hcs hs]
        exact List.all_eq_true.mp (by decide)
      · rw [hcs hs]
        exact List.all_eq_true.mp (by decide)
    · cases h

/-- A designator is a letter and a word of no blanks. -/
theorem word_of_ofDesignator? (h : ofDesignator? word = .ok (some u)) :
    ∃ c cs, word = c :: cs ∧ c ∈ ['K', 'k', 'S', 's', 'I', 'i', 'J', 'j'] ∧
      ∀ d ∈ c :: cs, Token.isNameChar d = true := by
  have hletters : ∀ c ∈ ['K', 'k', 'S', 's', 'I', 'i', 'J', 'j'], Token.isNameChar c = true :=
    List.all_eq_true.mp (by decide)
  cases word with
  | nil => cases h
  | cons c cs =>
    suffices hword : c ∈ ['K', 'k', 'S', 's', 'I', 'i', 'J', 'j'] ∧
        ∀ d ∈ cs, Token.isNameChar d = true from
      ⟨c, cs, rfl, hword.1, List.forall_mem_cons.mpr ⟨hletters c hword.1, hword.2⟩⟩
    unfold ofDesignator? at h
    simp only at h
    split at h
    · next hc =>
      refine ⟨List.mem_append_left ['I', 'i', 'J', 'j'] ((numbered_letter_iff c).mp hc), ?_⟩
      cases hn : signed? cs with
      | error k =>
        rw [hn] at h
        cases h
      | ok number =>
        rw [hn] at h
        have hbind : number.bind (ofNumber c.toUpper) = some u := Except.ok.inj h
        obtain ⟨n, rfl, -⟩ := Option.bind_eq_some_iff.mp hbind
        exact isNameChar_of_signed? hn
    · split at h
      · next hc =>
        refine ⟨List.mem_append_right ['K', 'k', 'S', 's'] ((directed_letter_iff c).mp hc), ?_⟩
        obtain ⟨d, hd, -⟩ := Option.map_eq_some_iff.mp (Except.ok.inj h)
        exact isNameChar_of_ofLetter? hd
      · cases h

end Target

end Designators

/-- A text in quotes, with the blanks in front of it. -/
structure Quotation where
  gap : List Char
  text : List Char
  gap_subset : gap ⊆ [' ', '\t']
  closed : ∀ c ∈ text, c ≠ '"'
  unbroken : Text.Unbroken text

namespace Quotation

variable {q : Quotation} {qs : List Quotation} {names : KeysymTable} {isKey : Bool}

def line (qs : List Quotation) : List Char := qs.flatMap fun q => q.gap ++ '"' :: (q.text ++ ['"'])

/-- The characters that some quoted texts type. -/
def typed (qs : List Quotation) : List Char := (qs.flatMap (·.text)).filter Text.isPrintable

theorem gap_char (q : Quotation) : ∀ c ∈ q.gap, c = ' ' ∨ c = '\t' := by
  intro c hc
  simpa using q.gap_subset hc

theorem line_cons (q : Quotation) (qs : List Quotation) :
    line (q :: qs) = q.gap ++ '"' :: (q.text ++ '"' :: line qs) := by
  simp [line]

theorem getLast?_line : ∀ c ∈ (line qs).getLast?, c = '"' := by
  intro c hc
  rcases List.eq_nil_or_concat' qs with rfl | ⟨init, q, rfl⟩
  · cases hc
  · have hlast : line (init ++ [q]) = (line init ++ (q.gap ++ '"' :: q.text)) ++ ['"'] := by
      simp [line]
    rw [hlast, List.getLast?_concat] at hc
    exact (Option.some.inj hc).symm

theorem unbroken_line : Text.Unbroken (line qs) := by
  intro c hc
  obtain ⟨q, -, hc⟩ := List.mem_flatMap.mp hc
  rcases List.mem_append.mp hc with hc | hc
  · rcases q.gap_char c hc with rfl | rfl <;> rfl
  rcases List.mem_cons.mp hc with rfl | hc
  · rfl
  rcases List.mem_append.mp hc with hc | hc
  · exact q.unbroken c hc
  · rw [List.mem_singleton.mp hc]
    rfl

theorem items_line (qs : List Quotation) :
    Output.items (Token.all (line qs)) = qs.map fun q => .typed q.text := by
  induction qs with
  | nil =>
    change Output.items (Token.all []) = []
    rw [Token.all_of_next?_none rfl, Output.items]
  | cons q qs ih =>
    have hgap : ∀ c ∈ q.gap, Token.isGap c = true := by
      intro c hc
      rcases q.gap_char c hc with rfl | rfl <;> rfl
    have htext : ∀ c ∈ q.text, Token.isTextChar c = true := by
      intro c hc
      refine Token.isTextChar_iff.mpr ⟨q.closed c hc, ?_⟩
      rintro rfl
      cases q.unbroken '\n' hc
    have hstop : ∀ c, ('"' :: line qs).head? = some c → Token.isTextChar c = false := by
      rintro c ⟨⟩
      rfl
    rw [line_cons, Token.all_gap_append hgap,
      Token.all_of_next?_some (Token.next?_quote_append htext hstop), Output.items]
    exact congrArg (.typed q.text :: ·) ih

theorem typed_cons (q : Quotation) (qs : List Quotation) :
    typed (q :: qs) = q.text.filter Text.isPrintable ++ typed qs := by
  rw [typed, List.flatMap_cons, List.filter_append]
  rfl

theorem ofTokens_quotations (names : KeysymTable) (isKey : Bool) (qs : List Quotation) :
    Output.ofTokens names isKey (Token.all (line qs)) =
      ⟨(typed qs).map fun c => .tap (.ofChar c), []⟩ := by
  rw [Output.ofTokens_eq, items_line, List.map_map]
  induction qs with
  | nil => rfl
  | cons q qs ih =>
    rw [List.map_cons, List.foldr_cons, ih, typed_cons, List.map_append]
    rfl

/-- A designator ends where the first gap begins or the first quote opens. -/
theorem exists_all_word_line {word : List Char} (hne : word ≠ [])
    (hword : ∀ c ∈ word, Token.isWordChar c = true) (qs : List Quotation) :
    ∃ first, Token.all (word ++ line qs) = first :: Token.all (line qs) ∧ first.text = word ∧
      first.quoted = false := by
  have hspace : ∀ {rest : List Char}, (∀ c, rest.head? = some c → Token.isSpace c = true) →
      ∃ first, Token.all (word ++ rest) = first :: Token.all rest ∧ first.text = word ∧
        first.quoted = false := by
    intro rest hrest
    obtain ⟨first, hall, htext, hquoted, -⟩ := Token.all_word_append hne hword hrest
    exact ⟨first, hall, htext, hquoted⟩
  cases qs with
  | nil => exact hspace (by simp [line])
  | cons q qs =>
    rw [line_cons]
    cases hgap : q.gap with
    | nil =>
      have hstop : ∀ c, ('"' :: (q.text ++ '"' :: line qs)).head? = some c →
          Token.isWordChar c = false := by
        rintro c ⟨⟩
        rfl
      exact ⟨_, Token.all_of_next?_some (Token.next?_word_append hne hword hstop), rfl, rfl⟩
    | cons d gap =>
      refine hspace ?_
      rintro c ⟨⟩
      rcases q.gap_char d (by rw [hgap]; exact List.mem_cons_self) with rfl | rfl <;> rfl

end Quotation

/-- A line that types texts: a designator and texts in quotes, between blanks. -/
structure TypingLine where
  lead : List Char
  word : List Char
  target : Target
  quotations : List Quotation
  trail : List Char
  lead_blank : ∀ c ∈ lead, Text.isBlank c = true
  lead_unbroken : Text.Unbroken lead
  designates : Target.ofDesignator? word = .ok (some target)
  trail_blank : ∀ c ∈ trail, Text.isBlank c = true
  trail_unbroken : Text.Unbroken trail

namespace TypingLine

open Rule

variable {w : TypingLine} {v : Vocabulary} {debug : DebugFlags} {a b : String} {l : Line}

/-- The line without the blanks around it. -/
def core (w : TypingLine) : List Char := w.word ++ Quotation.line w.quotations

def text (w : TypingLine) : String := String.ofList (w.lead ++ (w.core ++ w.trail))

/-- The symbols that the line types. -/
def symbols (w : TypingLine) : List Symbol := (Quotation.typed w.quotations).map .ofChar

theorem word_char (w : TypingLine) :
    w.word ≠ [] ∧ ∀ c ∈ w.word, Token.isWordChar c = true ∧ Text.isBlank c = false := by
  obtain ⟨c, cs, hword, -, hchars⟩ := Target.word_of_ofDesignator? w.designates
  rw [hword]
  exact ⟨List.cons_ne_nil _ _, Token.word_of_all_isNameChar (List.all_eq_true.mpr hchars)⟩

theorem head?_core (w : TypingLine) :
    ∃ c, w.core.head? = some c ∧ c ∈ ['K', 'k', 'S', 's', 'I', 'i', 'J', 'j'] := by
  obtain ⟨c, cs, hword, hletter, -⟩ := Target.word_of_ofDesignator? w.designates
  exact ⟨c, by rw [core, hword]; rfl, hletter⟩

theorem trim_text (w : TypingLine) : Text.trim w.text.toList = w.core := by
  obtain ⟨hne, hword⟩ := w.word_char
  have hhead : ∀ c ∈ w.core.head?, Text.isBlank c = false := by
    intro c hc
    rw [core, List.head?_append_of_ne_nil _ hne] at hc
    exact (hword c (List.mem_of_mem_head? hc)).2
  have hlast : ∀ c ∈ w.core.getLast?, Text.isBlank c = false := by
    intro c hc
    rw [core, List.getLast?_append] at hc
    rcases Option.or_eq_some_iff.mp hc with hc | ⟨-, hc⟩
    · rw [Quotation.getLast?_line c hc]
      rfl
    · exact (hword c (List.mem_of_mem_getLast? hc)).2
  rw [text, String.toList_ofList, Text.trim_blank_append w.lead_blank,
    Text.trim_append_blank hhead hlast w.trail_blank]

theorem placed (w : TypingLine) (ha : Text.EndsLine a.toList)
    (hb : Text.BeginsWithBreak b.toList) : Placed a w.text b where
  before := ha
  ne_nil := by
    intro hnil
    have htrim := w.trim_text
    rw [hnil] at htrim
    exact w.word_char.1 (List.append_eq_nil_iff.mp htrim.symm).1
  unbroken := by
    rw [text, String.toList_ofList]
    refine Text.unbroken_append.mpr ⟨w.lead_unbroken, Text.unbroken_append.mpr ⟨?_, w.trail_unbroken⟩⟩
    refine Text.unbroken_append.mpr ⟨fun c hc => ?_, Quotation.unbroken_line⟩
    exact Text.isLineBreak_of_not_isBlank (w.word_char.2 c hc).2
  behind := hb

theorem isHeader_eq_false (hl : l.text = w.core) : l.isHeader = false := by
  obtain ⟨c, hc, hletter⟩ := w.head?_core
  have hbracket : c ≠ '[' := by
    rintro rfl
    exact absurd hletter (by decide)
  rw [Line.isHeader, hl, hc]
  simpa using hbracket

theorem definition?_eq (hl : l.text = w.core) :
    l.definition? = some (w.target, Token.all (Quotation.line w.quotations)) := by
  obtain ⟨hne, hword⟩ := w.word_char
  obtain ⟨first, hall, htext, hquoted⟩ :=
    Quotation.exists_all_word_line hne (fun c hc => (hword c hc).1) w.quotations
  refine Line.definition?_of_some (by rw [hl]; exact hall) hquoted ?_
  rw [htext]
  exact w.designates

theorem diagnostics_eq_nil (hl : l.text = w.core) {above : List Line}
    (hfirst : ∀ l' ∈ above, ∀ more, l'.definition? ≠ some (w.target, more)) (name : String) :
    l.diagnostics v name above = [] := by
  refine Line.diagnostics_of_definition? (definition?_eq hl) hfirst ?_ name
  rw [Line.outputProblems, ← Output.problems_ofTokens, Quotation.ofTokens_quotations]

theorem eq_taps_of_built {r : Halves}
    (h : Built v w.target (Token.all (Quotation.line w.quotations)) r) :
    r = Halves.taps w.target.isKey w.symbols := by
  rw [Built, Quotation.ofTokens_quotations] at h
  have htaps := Build.halves_of_taps w.target.isKey w.symbols
  rw [symbols, List.map_map] at htaps
  exact Except.ok.inj (h.symm.trans htaps)

end TypingLine

namespace Rule

variable {v : Vocabulary} {debug : DebugFlags} {a b : String}

/-- A first line for its slot in an open section, with texts in quotes and nothing else behind the
designator, types their printable characters one after another: it reports nothing, and its slot is
bound to the taps, of which the second half of a key gets the last release. The reading of the file
goes on as it does over a blank line. -/
theorem quoted_texts_typed (v : Vocabulary) (debug : DebugFlags) (a b : String) (w : TypingLine)
    (above : List Block) (o : Block) (t₀ : Table) (ha : Text.EndsLine a.toList)
    (hb : Text.BeginsWithBreak b.toList) (hopen : headed (linesOf a) = above ++ [o])
    (ho : o.header.Accepted v)
    (hfirst : ∀ l ∈ o.body, ∀ tokens, l.definition? ≠ some (w.target, tokens))
    (hrest : (compile v debug (a ++ " " ++ b)).result = .ok t₀) :
    (∃ t s, (compile v debug (a ++ w.text ++ b)).result = .ok t ∧
      t.sections[(above.filter (·.header.Accepted v)).length]? = some s ∧
      ∀ slot, w.target.covers slot = true → s.binding slot =
        Section.bound? ((Halves.taps w.target.isKey w.symbols).half slot)) ∧
    (∀ d ∈ (compile v debug (a ++ w.text ++ b)).diagnostics, d.line ≠ (linesOf a).length + 1) ∧
    ∀ c, (Symbol.ofChar c).keysym =
      if c.toNat ≤ 0xff then (c.toNat : Int) else characterBase + c.toNat := by
  have hplaced := w.placed ha hb
  have hline : (placedLine a w.text).text = w.core := w.trim_text
  have hheader := TypingLine.isHeader_eq_false hline
  have hdef := TypingLine.definition?_eq hline
  have hblank : Placed a " " b := ⟨ha, by decide, by decide, hb⟩
  have hnofault := firstFault?_placed hblank hplaced hopen rfl hheader
    (Line.fault?_of_definition? hdef) (firstFault?_of_ok hrest)
  obtain ⟨t, ht⟩ := exists_table_of_firstFault? debug hnofault
  refine ⟨?_, ?_, Symbol.keysym_ofChar⟩
  · obtain ⟨s, hs, hbinding⟩ := exists_section_of_placed hplaced hopen ho hheader hdef hfirst ht
    refine ⟨t, s, ht, hs, fun slot hcovers => ?_⟩
    obtain ⟨r, hr, hslot⟩ := hbinding slot hcovers
    rw [hslot, TypingLine.eq_taps_of_built hr]
  · intro d hd hnumber
    rw [diagnostics_of_ok ht] at hd
    have hmem := mem_diagnostics_of_placed hplaced hopen hheader hd hnumber
    rw [TypingLine.diagnostics_eq_nil hline hfirst] at hmem
    cases hmem

/-- A key line with characters in quotes that begin comments, suffixes and headers elsewhere. -/
def signsLine : TypingLine where
  lead := [' ', '\t']
  word := ['k', '+', '0', '1']
  target := .key 1
  quotations := [⟨[' '], ['#', '/'], by simp, by simp, by decide⟩,
    ⟨[], ['\t', '[', '\u20ac'], by simp, by simp, by decide⟩]
  trail := ['\u00a0']
  lead_blank := List.all_eq_true.mp (by decide)
  lead_unbroken := by decide
  designates := by decide +kernel
  trail_blank := List.all_eq_true.mp (by decide)
  trail_unbroken := by decide

/-- A section before the open one, and one line in that. -/
def signsBefore : String := "[A] foo\nK1 \"x\"\n[]\nK2 \"x\"\n"

theorem quoted_texts_typed_of_signs :
    ∃ t s, (compile .standard {} (signsBefore ++ signsLine.text ++ "\nK1 \"y\"\n")).result = .ok t ∧
      t.sections[1]? = some s ∧
      s.binding (.keyDown 1) = some [.press ⟨0x23⟩, .release ⟨0x23⟩, .press ⟨0x2f⟩,
        .release ⟨0x2f⟩, .press ⟨0x5b⟩, .release ⟨0x5b⟩, .press ⟨0x10020ac⟩] ∧
      s.binding (.keyUp 1) = some [.release ⟨0x10020ac⟩] := by
  let above : List Block := [⟨⟨1, "[A] foo".toList⟩, [⟨2, "K1 \"x\"".toList⟩]⟩]
  let o : Block := ⟨⟨3, "[]".toList⟩, [⟨4, "K2 \"x\"".toList⟩]⟩
  have hopen : headed (linesOf signsBefore) = above ++ [o] := by decide +kernel
  have ho : o.header.Accepted .standard := by decide +kernel
  have hother : ∀ l ∈ o.body, l.definition?.map Prod.fst ≠ some signsLine.target := by
    decide +kernel
  have hfirst : ∀ l ∈ o.body, ∀ tokens, l.definition? ≠ some (signsLine.target, tokens) :=
    fun l hl tokens h => hother l hl (by rw [h]; rfl)
  obtain ⟨t₀, ht₀, -⟩ := Reading.exists_of_any
    (r := compile .standard {} (signsBefore ++ " " ++ "\nK1 \"y\"\n")) (p := fun _ => true)
    (by decide +kernel)
  obtain ⟨⟨t, s, ht, hs, hbinding⟩, -⟩ := quoted_texts_typed .standard {} signsBefore
    "\nK1 \"y\"\n" signsLine above o t₀ (by decide +kernel) (by decide +kernel) hopen ho hfirst ht₀
  have hindex : (above.filter (·.header.Accepted .standard)).length = 1 := by decide +kernel
  rw [hindex] at hs
  refine ⟨t, s, ht, hs, ?_, ?_⟩
  · rw [hbinding (.keyDown 1) rfl]
    decide +kernel
  · rw [hbinding (.keyUp 1) rfl]
    decide +kernel

end Rule

end JogShuttle
