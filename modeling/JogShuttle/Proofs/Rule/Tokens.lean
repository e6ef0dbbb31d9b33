import JogShuttle.Proofs.Text.Decimal
import JogShuttle.Rule.Token
import Mathlib.Data.List.TakeWhile

/-!
# Lines as they are cut into tokens

A line is put together from gaps and tokens, and it is cut into them in one way only: what a token
does not keep is a gap in front of it, its quotes, or the one character that closes it. Nothing of a
line is dropped, and every token takes some of it.
-/

set_option autoImplicit false

namespace JogShuttle.Token

variable {line word text gap own rest : List Char} {c : Char} {t : Token} {ts : List Token}

section Reading

theorem next?_gap_append (h : ∀ c ∈ gap, isGap c = true) (cs : List Char) :
    next? (gap ++ cs) = next? cs := by
  unfold next?
  rw [List.dropWhile_append_of_pos h]

theorem all_gap_append (h : ∀ c ∈ gap, isGap c = true) (cs : List Char) :
    all (gap ++ cs) = all cs := by
  cases hcs : next? cs with
  | none => rw [all_of_next?_none hcs, all_of_next?_none ((next?_gap_append h cs).trans hcs)]
  | some t => rw [all_of_next?_some hcs, all_of_next?_some ((next?_gap_append h cs).trans hcs)]

theorem all_gap_cons (h : isGap c = true) (cs : List Char) : all (c :: cs) = all cs := by
  have hgap : ∀ d ∈ [c], isGap d = true := List.forall_mem_singleton.mpr h
  exact all_gap_append hgap cs

/-- A word goes on to the first character that is none of a word. -/
theorem next?_word_append (hne : word ≠ []) (hword : ∀ c ∈ word, isWordChar c = true)
    (hrest : ∀ c, rest.head? = some c → isWordChar c = false) :
    next? (word ++ rest) = some (ofWord word rest) := by
  obtain ⟨htake, hdrop⟩ := Text.takeWhile_dropWhile_append hword hrest
  obtain ⟨c, cs, rfl⟩ := List.exists_cons_of_ne_nil hne
  obtain ⟨hgap, hquote⟩ : isGap c = false ∧ c ≠ '"' := by
    simpa [isWordChar] using hword c List.mem_cons_self
  unfold next?
  rw [List.cons_append] at htake hdrop ⊢
  rw [List.dropWhile_cons, if_neg (by simp [hgap])]
  split
  · next h => cases h
  · next h => exact absurd (List.cons.inj h).1 hquote
  · rw [htake, hdrop]

theorem all_word_append (hne : word ≠ []) (hword : ∀ c ∈ word, isWordChar c = true)
    (hrest : ∀ c, rest.head? = some c → isSpace c = true) :
    ∃ t, all (word ++ rest) = t :: all rest ∧
      t.text = word ∧ t.quoted = false ∧ t.hasSuffix = false := by
  have hstop : ∀ c, rest.head? = some c → isWordChar c = false := fun c hc => by
    simp [isWordChar, isGap, hrest c hc]
  refine ⟨ofWord word rest, ?_⟩
  rw [all_of_next?_some (next?_word_append hne hword hstop)]
  cases rest with
  | nil => exact ⟨rfl, rfl, rfl, rfl⟩
  | cons c rest =>
    have hc : isSpace c = true := hrest c rfl
    have hquote : c ≠ '"' := by
      rintro rfl
      cases hc
    have hslash : c ≠ '/' := by
      rintro rfl
      cases hc
    rw [all_gap_cons (by simp [isGap, hc])]
    simp [ofWord, hquote, hslash, quoted, hasSuffix]

theorem all_word_slash (hne : word ≠ []) (hword : ∀ c ∈ word, isWordChar c = true)
    (rest : List Char) :
    ∃ t, all (word ++ '/' :: rest) = t :: all rest ∧
      t.text = word ∧ t.quoted = false ∧ t.hasSuffix = true := by
  have hstop : ∀ c, ('/' :: rest).head? = some c → isWordChar c = false := by
    intro c hc
    cases hc
    rfl
  exact ⟨ofWord word ('/' :: rest), all_of_next?_some (next?_word_append hne hword hstop), rfl,
    rfl, rfl⟩

/-- A quoted text goes on to the first character that is none of a text. -/
theorem next?_quote_append (htext : ∀ c ∈ text, isTextChar c = true)
    (hrest : ∀ c, rest.head? = some c → isTextChar c = false) :
    next? ('"' :: (text ++ rest)) = some ⟨text, .quote, rest.drop 1⟩ := by
  obtain ⟨htake, hdrop⟩ := Text.takeWhile_dropWhile_append htext hrest
  have hnext : next? ('"' :: (text ++ rest)) = some (ofQuoted (text ++ rest)) := rfl
  rw [hnext, ofQuoted, htake, hdrop]

end Reading

section Writing

/-- The characters that may stand between tokens. -/
def gapChars : List Char := [' ', '\t', '\n', '/']

theorem isGap_iff : isGap c = true ↔ c ∈ gapChars := by
  simp [isGap, isSpace, gapChars, or_assoc]

/-- A word is not empty and holds neither gaps nor quotes. -/
structure IsWord (word : List Char) : Prop where
  ne_nil : word ≠ []
  chars : ∀ c ∈ word, c ∉ gapChars ∧ c ≠ '"'

/-- A quoted text holds neither quotes nor newlines. -/
def IsText (text : List Char) : Prop := ∀ c ∈ text, c ≠ '"' ∧ c ≠ '\n'

/-- The characters of a token and those that open and close it: a text in quotes, which a newline or
the end of the line may close as well, or a word with the blank or the slash behind it, unless a
quote or the end of the line comes next. -/
inductive Written : Token → List Char → Prop where
  | closed {text : List Char} {c : Char} (rest : List Char) (htext : IsText text)
      (hc : c = '"' ∨ c = '\n') : Written ⟨text, .quote, rest⟩ ('"' :: (text ++ [c]))
  | unclosed {text : List Char} (htext : IsText text) :
      Written ⟨text, .quote, []⟩ ('"' :: text)
  | blank {word : List Char} {c : Char} (rest : List Char) (hword : IsWord word)
      (hc : c = ' ' ∨ c = '\t' ∨ c = '\n') : Written ⟨word, .blank c, rest⟩ (word ++ [c])
  | slash {word : List Char} (rest : List Char) (hword : IsWord word) :
      Written ⟨word, .slash, rest⟩ (word ++ ['/'])
  | quote {word : List Char} (rest : List Char) (hword : IsWord word) :
      Written ⟨word, .open, '"' :: rest⟩ word
  | last {word : List Char} (hword : IsWord word) : Written ⟨word, .open, []⟩ word

theorem isTextChar_iff : isTextChar c = true ↔ c ≠ '"' ∧ c ≠ '\n' := by simp [isTextChar]

theorem isTextChar_eq_false_iff : isTextChar c = false ↔ c = '"' ∨ c = '\n' := by
  rw [← Bool.not_eq_true, isTextChar_iff]
  tauto

theorem isWordChar_iff : isWordChar c = true ↔ c ∉ gapChars ∧ c ≠ '"' := by
  rw [← isGap_iff]
  simp [isWordChar]

theorem isWordChar_eq_false_iff : isWordChar c = false ↔ c ∈ gapChars ∨ c = '"' := by
  rw [← Bool.not_eq_true, isWordChar_iff]
  tauto

theorem IsText.isTextChar (h : IsText text) : ∀ c ∈ text, isTextChar c = true :=
  fun c hc => isTextChar_iff.mpr (h c hc)

theorem IsWord.isWordChar (h : IsWord word) : ∀ c ∈ word, isWordChar c = true :=
  fun c hc => isWordChar_iff.mpr (h.chars c hc)

theorem written_ofQuoted (cs : List Char) :
    ∃ own, (ofQuoted cs).Written own ∧ '"' :: cs = own ++ (ofQuoted cs).rest := by
  have htext : IsText (cs.takeWhile isTextChar) :=
    fun d hd => isTextChar_iff.mp (List.mem_takeWhile_imp hd)
  have hcs := List.takeWhile_append_dropWhile (p := isTextChar) (l := cs)
  unfold ofQuoted
  cases hd : cs.dropWhile isTextChar with
  | nil =>
    rw [hd, List.append_nil] at hcs
    exact ⟨_, .unclosed htext, by rw [hcs]; simp⟩
  | cons c rest =>
    have hc : c = '"' ∨ c = '\n' := isTextChar_eq_false_iff.mp (not_of_dropWhile_eq_cons hd)
    rw [hd] at hcs
    exact ⟨_, .closed rest htext hc, by simp [hcs]⟩

theorem written_ofWord (hword : IsWord word)
    (hrest : ∀ d, rest.head? = some d → isWordChar d = false) :
    ∃ own, (ofWord word rest).Written own ∧ word ++ rest = own ++ (ofWord word rest).rest := by
  cases rest with
  | nil => exact ⟨word, .last hword, rfl⟩
  | cons c rest =>
    have hc : c ∈ gapChars ∨ c = '"' := isWordChar_eq_false_iff.mp (hrest c rfl)
    unfold ofWord
    by_cases hquote : c = '"'
    · subst c
      exact ⟨word, .quote rest hword, rfl⟩
    · by_cases hslash : c = '/'
      · subst c
        exact ⟨_, .slash rest hword, by simp⟩
      · have hblank : c = ' ' ∨ c = '\t' ∨ c = '\n' := by
          simpa [gapChars, hquote, hslash] using hc
        simp only [if_neg hquote, if_neg hslash]
        exact ⟨_, .blank rest hword hblank, by simp⟩

theorem exists_written_of_next? (h : next? line = some t) :
    ∃ gap own, (∀ c ∈ gap, c ∈ gapChars) ∧ t.Written own ∧ line = gap ++ own ++ t.rest := by
  have hgap : ∀ c ∈ line.takeWhile isGap, c ∈ gapChars :=
    fun c hc => isGap_iff.mp (List.mem_takeWhile_imp hc)
  have hline := List.takeWhile_append_dropWhile (p := isGap) (l := line)
  -- the gap aside, the line begins with the token
  suffices hown : ∃ own, t.Written own ∧ line.dropWhile isGap = own ++ t.rest by
    obtain ⟨own, hwritten, hdrop⟩ := hown
    exact ⟨_, own, hgap, hwritten, by rw [List.append_assoc, ← hdrop, hline]⟩
  unfold next? at h
  split at h
  · cases h
  · next cs hcs =>
    cases h
    rw [hcs]
    exact written_ofQuoted cs
  · next hne hquote =>
    cases h
    obtain ⟨c, cs, hcs⟩ := List.exists_cons_of_ne_nil hne
    have hgapless : isGap c = false := not_of_dropWhile_eq_cons hcs
    have hfirst : isWordChar c = true := by
      simp only [isWordChar, hgapless, Bool.not_false, Bool.true_and, bne_iff_ne, ne_eq]
      rintro rfl
      exact hquote cs hcs
    have hword : IsWord ((line.dropWhile isGap).takeWhile isWordChar) := by
      refine ⟨?_, fun d hd => isWordChar_iff.mp (List.mem_takeWhile_imp hd)⟩
      rw [hcs, List.takeWhile_cons, if_pos hfirst]
      exact List.cons_ne_nil _ _
    have hstop : ∀ d, ((line.dropWhile isGap).dropWhile isWordChar).head? = some d →
        isWordChar d = false := by
      intro d hd
      obtain ⟨r, hr⟩ := List.head?_eq_some_iff.mp hd
      exact not_of_dropWhile_eq_cons hr
    obtain ⟨own, hwritten, hrest⟩ := written_ofWord hword hstop
    rw [List.takeWhile_append_dropWhile] at hrest
    exact ⟨own, hwritten, hrest⟩

theorem next?_of_written (h : t.Written own) : next? (own ++ t.rest) = some t := by
  cases h with
  | @closed text c rest htext hc =>
    have hstop : ∀ d, (c :: rest).head? = some d → isTextChar d = false := by
      rintro d ⟨⟩
      exact isTextChar_eq_false_iff.mpr hc
    rw [List.cons_append, List.append_assoc, List.singleton_append]
    exact next?_quote_append htext.isTextChar hstop
  | @unclosed text htext =>
    have hstop : ∀ d, ([] : List Char).head? = some d → isTextChar d = false := by
      rintro d ⟨⟩
    exact next?_quote_append htext.isTextChar hstop
  | @blank word c rest hword hc =>
    have hstop : ∀ d, (c :: rest).head? = some d → isWordChar d = false := by
      rintro d ⟨⟩
      rcases hc with rfl | rfl | rfl <;> rfl
    rw [List.append_assoc, List.singleton_append,
      next?_word_append hword.ne_nil hword.isWordChar hstop]
    rcases hc with rfl | rfl | rfl <;> rfl
  | slash rest hword =>
    rw [List.append_assoc, List.singleton_append, next?_word_append hword.ne_nil hword.isWordChar]
    · rfl
    · rintro d ⟨⟩
      rfl
  | quote rest hword =>
    rw [next?_word_append hword.ne_nil hword.isWordChar]
    · rfl
    · rintro d ⟨⟩
      rfl
  | last hword =>
    rw [next?_word_append hword.ne_nil hword.isWordChar (by simp)]
    rfl

theorem next?_eq_some_iff : next? line = some t ↔
    ∃ gap own, (∀ c ∈ gap, c ∈ gapChars) ∧ t.Written own ∧ line = gap ++ own ++ t.rest := by
  constructor
  · exact exists_written_of_next?
  · rintro ⟨gap, own, hgap, hwritten, rfl⟩
    rw [List.append_assoc, next?_gap_append (fun c hc => isGap_iff.mpr (hgap c hc))]
    exact next?_of_written hwritten

theorem next?_eq_none_iff : next? line = none ↔ ∀ c ∈ line, c ∈ gapChars := by
  have hdrop : next? line = none ↔ line.dropWhile isGap = [] := by
    unfold next?
    split
    · next h => exact iff_of_true rfl h
    · next h => simp [h]
    · next hne _ => exact iff_of_false (by simp) hne
  rw [hdrop, List.dropWhile_eq_nil_iff]
  exact forall₂_congr fun c _ => isGap_iff

/-- A line put together from tokens with gaps in front of them and a gap at the end. -/
inductive Cover : List Char → List Token → Prop where
  | gap {gap : List Char} (hgap : ∀ c ∈ gap, c ∈ gapChars) : Cover gap []
  | token {gap own : List Char} {t : Token} {ts : List Token} (hgap : ∀ c ∈ gap, c ∈ gapChars)
      (hown : t.Written own) (hrest : Cover t.rest ts) : Cover (gap ++ own ++ t.rest) (t :: ts)

theorem cover_all (line : List Char) : Cover line (all line) := by
  induction line using all.induct with
  | case1 line h =>
    rw [all_of_next?_none h]
    exact .gap (next?_eq_none_iff.mp h)
  | case2 line t h ih =>
    obtain ⟨gap, own, hgap, hwritten, hline⟩ := exists_written_of_next? h
    rw [all_of_next?_some h]
    exact hline ▸ .token hgap hwritten ih

theorem Cover.eq_all (h : Cover line ts) : all line = ts := by
  induction h with
  | gap hgap => exact all_of_next?_none (next?_eq_none_iff.mpr hgap)
  | token hgap hown _ ih =>
    rw [all_of_next?_some (next?_eq_some_iff.mpr ⟨_, _, hgap, hown, rfl⟩), ih]

theorem filter_gap {gap : List Char} (h : ∀ c ∈ gap, c ∈ gapChars) : gap.filter isWordChar = [] :=
  List.filter_eq_nil_iff.mpr fun c hc => by simp [isWordChar_eq_false_iff.mpr (.inl (h c hc))]

theorem Written.filter_eq (h : t.Written own) :
    own.filter isWordChar = t.text.filter isWordChar := by
  cases h with
  | closed rest htext hc => rcases hc with rfl | rfl <;> simp [isWordChar, isGap, isSpace]
  | unclosed htext => simp [isWordChar]
  | blank rest hword hc => rcases hc with rfl | rfl | rfl <;> simp [isWordChar, isGap, isSpace]
  | slash rest hword => simp [isWordChar, isGap, isSpace]
  | quote rest hword => rfl
  | last hword => rfl

/-- All that is no gap and no quote is in the texts of the tokens. -/
theorem Cover.filter_eq (h : Cover line ts) :
    line.filter isWordChar = (ts.flatMap (·.text)).filter isWordChar := by
  induction h with
  | gap hgap => exact filter_gap hgap
  | token hgap hown _ ih =>
    rw [List.filter_append, List.filter_append, filter_gap hgap, hown.filter_eq, ih,
      List.flatMap_cons, List.filter_append, List.nil_append]

/-- The first token of a line is what stands in it behind a gap, and the rest is what follows, which
is shorter; only a line of gaps has none. So a line is put together from its tokens and the gaps
around them, in no other way, and what is neither a gap nor a quote is kept in their texts. -/
theorem tokens_cover_line (line : List Char) :
    (next? line = none ↔ ∀ c ∈ line, c ∈ gapChars) ∧
    (∀ t, next? line = some t ↔
      ∃ gap own, (∀ c ∈ gap, c ∈ gapChars) ∧ t.Written own ∧ line = gap ++ own ++ t.rest) ∧
    (∀ t, next? line = some t → t.rest.length < line.length) ∧
    (∀ ts, all line = ts ↔ Cover line ts) ∧
    ((all line).flatMap (·.text)).filter isWordChar = line.filter isWordChar := by
  refine ⟨next?_eq_none_iff, fun t => next?_eq_some_iff, fun t => length_rest_lt, fun ts => ?_,
    (cover_all line).filter_eq.symm⟩
  constructor
  · rintro rfl
    exact cover_all line
  · exact Cover.eq_all

end Writing

end JogShuttle.Token
