import JogShuttle.Proofs.Rule.Placed
import JogShuttle.Proofs.Rule.Tokens
import Mathlib.Algebra.Group.Even
import Mathlib.Algebra.Group.Nat.Even

/-!
# Comments behind a line

A comment behind a line whose quotes are closed is cut into tokens of its own, behind those of the
line, and a word that begins a comment ends the output. So it changes nothing, unless the output
ends in a name with a slash: there the first word of the comment is taken for the suffix, and the
words behind it are read as output.
-/

set_option autoImplicit false

namespace JogShuttle

namespace Token

variable {line gap cs own : List Char} {t : Token} {ts : List Token}

/-- A token without what follows it on its line. -/
def bare (t : Token) : Token :=
  ⟨t.text, if t.quoted then .quote else if t.hasSuffix then .slash else .open, []⟩

@[simp] theorem bare_text (t : Token) : t.bare.text = t.text := rfl

@[simp] theorem bare_quoted (t : Token) : t.bare.quoted = t.quoted := by
  unfold bare quoted hasSuffix
  cases t.ending <;> rfl

@[simp] theorem bare_hasSuffix (t : Token) : t.bare.hasSuffix = t.hasSuffix := by
  unfold bare quoted hasSuffix
  cases t.ending <;> rfl

theorem text_of_bare {u : Token} (h : t.bare = u.bare) : t.text = u.text := by
  rw [← t.bare_text, h, u.bare_text]

theorem quoted_of_bare {u : Token} (h : t.bare = u.bare) : t.quoted = u.quoted := by
  rw [← t.bare_quoted, h, u.bare_quoted]

theorem IsText.count_quote {text : List Char} (h : IsText text) : text.count '"' = 0 :=
  List.count_eq_zero.mpr fun hmem => (h _ hmem).1 rfl

theorem IsWord.count_quote {word : List Char} (h : IsWord word) : word.count '"' = 0 :=
  List.count_eq_zero.mpr fun hmem => (h.chars _ hmem).2 rfl

theorem count_quote_gap (h : ∀ c ∈ gap, c ∈ gapChars) : gap.count '"' = 0 :=
  List.count_eq_zero.mpr fun hmem => absurd (h _ hmem) (by decide)

section Behind

variable (hgap : gap ≠ []) (hblank : ∀ c ∈ gap, c = ' ' ∨ c = '\t')

include hblank

theorem all_blank_append (cs : List Char) : all (gap ++ cs) = all cs := by
  refine all_gap_append (fun c hc => ?_) cs
  rcases hblank c hc with rfl | rfl <;> rfl

include hgap

/-- A token of a line with closed quotes stays what it is if the line goes on behind a gap. -/
theorem Written.behind_gap (h : t.Written own) (hnewline : '\n' ∉ own)
    (hclosed : Even ((own ++ t.rest).count '"')) (cs : List Char) :
    Even (t.rest.count '"') ∧ ∃ u, next? (own ++ (t.rest ++ (gap ++ cs))) = some u ∧
      u.bare = t.bare ∧ all u.rest = all (t.rest ++ (gap ++ cs)) := by
  rw [List.count_append] at hclosed
  cases h with
  | @closed text c rest htext hc =>
    rcases hc with rfl | rfl
    · have hcount : ('"' :: (text ++ ['"'])).count '"' = 2 := by simp [htext.count_quote]
      rw [hcount, Nat.even_add] at hclosed
      exact ⟨hclosed.mp (by decide), _,
        next?_of_written (.closed (rest ++ (gap ++ cs)) htext (.inl rfl)), rfl, rfl⟩
    · exact absurd (by simp) hnewline
  | @unclosed text htext =>
    have hcount : ('"' :: text).count '"' = 1 := by simp [htext.count_quote]
    rw [hcount] at hclosed
    change Even (1 + 0) at hclosed
    exact absurd hclosed (by decide)
  | @blank word c rest hword hc =>
    have hquote : c ≠ '"' := by
      rcases hc with rfl | rfl | rfl <;> decide
    have hcount : (word ++ [c]).count '"' = 0 := by simp [hword.count_quote, hquote]
    rw [hcount, Nat.zero_add] at hclosed
    exact ⟨hclosed, _, next?_of_written (.blank (rest ++ (gap ++ cs)) hword hc), rfl, rfl⟩
  | @slash word rest hword =>
    have hcount : (word ++ ['/']).count '"' = 0 := by simp [hword.count_quote]
    rw [hcount, Nat.zero_add] at hclosed
    exact ⟨hclosed, _, next?_of_written (.slash (rest ++ (gap ++ cs)) hword), rfl, rfl⟩
  | quote rest hword =>
    rw [hword.count_quote, Nat.zero_add] at hclosed
    exact ⟨hclosed, _, next?_of_written (.quote (rest ++ (gap ++ cs)) hword), rfl, rfl⟩
  | last hword =>
    -- the word was the last of the line and is closed by the gap now
    obtain ⟨d, gap, rfl⟩ := List.exists_cons_of_ne_nil hgap
    obtain ⟨hd, hblank⟩ := List.forall_mem_cons.mp hblank
    have hspace : d = ' ' ∨ d = '\t' ∨ d = '\n' := by
      rcases hd with hd | hd
      · exact .inl hd
      · exact .inr (.inl hd)
    have hgapChar : isGap d = true := by
      rcases hd with rfl | rfl <;> rfl
    have hnext := next?_of_written (.blank (gap ++ cs) hword hspace)
    rw [List.append_assoc] at hnext
    exact ⟨Nat.even_iff.mpr rfl, _, hnext, rfl, (all_gap_cons hgapChar (gap ++ cs)).symm⟩

/-- The tokens of a line with closed quotes come first if the line goes on behind a gap. -/
theorem exists_all_append (hcover : Cover line ts) (hnewline : '\n' ∉ line)
    (hclosed : Even (line.count '"')) (cs : List Char) :
    ∃ front, all (line ++ (gap ++ cs)) = front ++ all cs ∧ front.map bare = ts.map bare := by
  induction hcover with
  | gap hskip =>
    refine ⟨[], ?_, rfl⟩
    rw [all_gap_append (fun c hc => isGap_iff.mpr (hskip c hc)), all_blank_append hblank]
    rfl
  | @token skip own t ts hskip hown _ ih =>
    rw [List.append_assoc] at hnewline hclosed ⊢
    rw [List.mem_append, List.mem_append, not_or, not_or] at hnewline
    rw [List.count_append, count_quote_gap hskip, Nat.zero_add] at hclosed
    obtain ⟨hrest, u, hnext, hbare, hall⟩ :=
      hown.behind_gap hgap hblank hnewline.2.1 hclosed cs
    obtain ⟨front, hfront, hmap⟩ := ih hnewline.2.2 hrest
    refine ⟨u :: front, ?_, by rw [List.map_cons, List.map_cons, hbare, hmap]⟩
    rw [List.append_assoc, all_gap_append (fun c hc => isGap_iff.mpr (hskip c hc)),
      all_of_next?_some hnext, hall, hfront]
    rfl

end Behind

/-- A comment is one word and what is behind it. -/
theorem exists_all_comment (cs : List Char) :
    ∃ word more, all (Output.commentStart :: cs) = word :: more ∧ word.quoted = false ∧
      Output.isComment word.text = true := by
  obtain ⟨word, more, hall, rest, htext⟩ := Rule.Line.all_of_comment cs
  refine ⟨word, more, hall, ?_, by rw [htext]; rfl⟩
  obtain ⟨gap, own, hgap, hown, hline⟩ : ∃ gap own, (∀ c ∈ gap, c ∈ gapChars) ∧ word.Written own ∧
      Output.commentStart :: cs = gap ++ own ++ word.rest := by
    cases hnext : next? (Output.commentStart :: cs) with
    | none =>
      rw [all_of_next?_none hnext] at hall
      cases hall
    | some t =>
      rw [all_of_next?_some hnext] at hall
      cases hall
      exact exists_written_of_next? hnext
  have hnogap : gap = [] := by
    cases gap with
    | nil => rfl
    | cons c gap =>
      rw [List.cons_append, List.cons_append] at hline
      obtain ⟨rfl, -⟩ := List.cons.inj hline
      exact absurd (hgap _ List.mem_cons_self) (by decide)
  subst hnogap
  cases hown with
  | closed rest htext hc => cases hline
  | unclosed htext => cases hline
  | blank rest hword hc => rfl
  | slash rest hword => rfl
  | quote rest hword => rfl
  | last hword => rfl

end Token

namespace Output

variable {ts us more : List Token} {word : Token} {name : String}

/-- The item of a name with a slash, by the suffix that it takes, if there is one. -/
def Item.slashed (name : String) (suffix : Option (List Char)) : Item :=
  if name = boundaryWord then .boundary
  else match suffix with
    | none => .cut name
    | some cs => .suffixed name cs

/-- The name at the end of an output whose suffix is still to come. -/
def awaited? : List Token → Option String
  | [] => none
  | t :: ts =>
    if t.quoted then awaited? ts
    else if isComment t.text then none
    else if t.hasSuffix then
      match ts with
      | [] => some (String.ofList t.text)
      | _ :: rest => awaited? rest
    else awaited? ts

theorem items_bare (ts : List Token) : items (ts.map Token.bare) = items ts := by
  fun_induction items ts with
  | case1 => rfl
  | case2 t ts hq ih => simp [items, hq, ih]
  | case3 t ts hq hc => simp [items, hq, hc]
  | case4 t hq hc name hs => simp [items, hq, hc, hs, name]; rfl
  | case5 t hq hc name hs suffix rest ih => simp [items, hq, hc, hs, ih, name]; rfl
  | case6 t ts hq hc name hs ih => simp [items, hq, hc, hs, ih, name]; rfl

theorem items_congr (h : ts.map Token.bare = us.map Token.bare) : items ts = items us := by
  rw [← items_bare ts, h, items_bare]

theorem awaited?_bare (ts : List Token) : awaited? (ts.map Token.bare) = awaited? ts := by
  fun_induction awaited? ts with
  | case1 => rfl
  | case2 t ts hq ih => rw [List.map_cons, awaited?.eq_def]; simp [hq, ih]
  | case3 t ts hq hc => rw [List.map_cons, awaited?.eq_def]; simp [hq, hc]
  | case4 t hq hc hs => simp [awaited?, hq, hc, hs]
  | case5 t hq hc hs suffix rest ih => simp [awaited?, hq, hc, hs, ih]
  | case6 t ts hq hc hs ih => rw [List.map_cons, awaited?.eq_def]; simp [hq, hc, hs, ih]

theorem awaited?_congr (h : ts.map Token.bare = us.map Token.bare) :
    awaited? ts = awaited? us := by
  rw [← awaited?_bare ts, h, awaited?_bare]

/-- Where no suffix is awaited a comment ends the output. -/
theorem items_append_comment (h : awaited? ts = none) (hquoted : word.quoted = false)
    (hcomment : isComment word.text = true) : items (ts ++ word :: more) = items ts := by
  fun_induction awaited? ts with
  | case1 => simp [items, hquoted, hcomment]
  | case2 t ts hq ih => simp [items, hq, ih h]
  | case3 t ts hq hc => simp [items, hq, hc]
  | case4 t hq hc hs => cases h
  | case5 t hq hc hs suffix rest ih => simp [items, hq, hc, hs, ih h]
  | case6 t ts hq hc hs ih => simp [items, hq, hc, hs, ih h]

/-- A name that awaits its suffix takes the next token for it, whatever it is. -/
theorem items_append_suffix (h : awaited? ts = some name) :
    ∃ front, items ts = front ++ [.slashed name none] ∧ ∀ suffix more,
      items (ts ++ suffix :: more) = front ++ .slashed name (some suffix.text) :: items more := by
  fun_induction awaited? ts with
  | case1 => cases h
  | case2 t ts hq ih =>
    obtain ⟨front, hfront, hmore⟩ := ih h
    exact ⟨.typed t.text :: front, by simp [items, hq, hfront], fun suffix more => by
      simp [items, hq, hmore]⟩
  | case3 t ts hq hc => cases h
  | case4 t hq hc hs =>
    obtain rfl := Option.some.inj h
    exact ⟨[], by simp [items, hq, hc, hs, Item.slashed], fun suffix more => by
      simp [items, hq, hc, hs, Item.slashed]⟩
  | case5 t hq hc hs suffix rest ih =>
    obtain ⟨front, hfront, hmore⟩ := ih h
    exact ⟨_ :: front, by simp [items, hq, hc, hs, hfront]; rfl, fun suffix more => by
      simp [items, hq, hc, hs, hmore]⟩
  | case6 t ts hq hc hs ih =>
    obtain ⟨front, hfront, hmore⟩ := ih h
    exact ⟨_ :: front, by simp [items, hq, hc, hs, hfront]; rfl, fun suffix more => by
      simp [items, hq, hc, hs, hmore]⟩

end Output

namespace Rule

open Reading

variable {v : Vocabulary} {debug : DebugFlags} {l l' : Line} {first first' : Token}
variable {tokens tokens' : List Token} {p c : List Char}

/-- The name whose suffix is still to come at the end of a line that defines a slot. -/
def Line.awaited? (l : Line) : Option String := l.definition?.bind (Output.awaited? ·.2)

/-- What may stand before a comment: a line that is no header, with its quotes closed, with a gap of
spaces and tabs at its end, and with a token in it unless it is blank. -/
structure BeforeComment (p : List Char) : Prop where
  noHeader : (Text.trim p).head? ≠ some '['
  unbroken : Text.Unbroken p
  closed : Even (p.count '"')
  gap : ∃ q gap, p = q ++ gap ∧ gap ≠ [] ∧ (∀ c ∈ gap, c = ' ' ∨ c = '\t') ∧
    ∀ c ∈ q.getLast?, Text.isBlank c = false
  tokens : Text.trim p = [] ∨ Token.all (Text.trim p) ≠ []

theorem slotLine_congr {number : Nat} {s : Section} {defined : List String}
    (hbare : first.bare = first'.bare)
    (hitems : first.quoted = false → ∀ t, Target.ofDesignator? first.text = .ok (some t) →
      Output.items tokens = Output.items tokens') :
    slotLine v debug number s defined first tokens =
      slotLine v debug number s defined first' tokens' := by
  have htext := Token.text_of_bare hbare
  have hquoted := Token.quoted_of_bare hbare
  unfold slotLine
  rw [← htext, ← hquoted]
  cases hq : first.quoted with
  | true => rfl
  | false =>
    simp only [Bool.false_eq_true, if_false]
    cases hd : Target.ofDesignator? first.text with
    | error n => rfl
    | ok target =>
      cases target with
      | none => rfl
      | some t =>
        have hdefine : define v debug number s t tokens = define v debug number s t tokens' := by
          unfold define
          rw [Output.ofTokens_eq, Output.ofTokens_eq, hitems hq t hd]
        change Reading.bind (Reading.ok (some t)) _ = Reading.bind (Reading.ok (some t)) _
        rw [bind_ok, bind_ok]
        simp only [hdefine]

/-- Lines are read alike if their tokens are the same up to what the output makes of them. -/
theorem readsAlike_of_tokens (hnumber : l.number = l'.number) (hheader : l.isHeader = false)
    (hheader' : l'.isHeader = false) (hidle : l.isIdle = l'.isIdle)
    (hall : Token.all l.text = first :: tokens) (hall' : Token.all l'.text = first' :: tokens')
    (hbare : first.bare = first'.bare)
    (hitems : ∀ t, l.definition? = some (t, tokens) → Output.items tokens = Output.items tokens') :
    ReadsAlike v l l' where
  isHeader := by rw [hheader, hheader']
  header h := by
    rw [hheader] at h
    cases h
  body d := by
    have htext := Token.text_of_bare hbare
    have hquoted := Token.quoted_of_bare hbare
    have hslot : ∀ s defined, slotLine v d.debug l.number s defined first tokens =
        slotLine v d.debug l'.number s defined first' tokens' := by
      intro s defined
      rw [← hnumber]
      exact slotLine_congr hbare fun hq t hd =>
        hitems t (Line.definition?_of_some hall hq hd)
    unfold bodyLine
    rw [← hidle, hall, hall']
    simp only [← htext, ← hquoted, ← hnumber, hslot]

theorem isBlank_of_spaces {gap : List Char} (h : ∀ c ∈ gap, c = ' ' ∨ c = '\t') :
    ∀ c ∈ gap, Text.isBlank c = true := by
  intro c hc
  rcases h c hc with rfl | rfl <;> rfl

theorem BeforeComment.exists_core (h : BeforeComment p) :
    ∃ lead core gap, p = lead ++ (core ++ gap) ∧ (∀ c ∈ lead, Text.isBlank c = true) ∧
      (∀ c ∈ core.head?, Text.isBlank c = false) ∧ gap ≠ [] ∧ (∀ c ∈ gap, c = ' ' ∨ c = '\t') ∧
      Text.trim p = core := by
  obtain ⟨q, gap, rfl, hgap, hblank, hlast⟩ := h.gap
  have hq := List.takeWhile_append_dropWhile (p := Text.isBlank) (l := q)
  have hlead : ∀ c ∈ q.takeWhile Text.isBlank, Text.isBlank c = true :=
    fun c hc => List.mem_takeWhile_imp hc
  have hhead : ∀ c ∈ (q.dropWhile Text.isBlank).head?, Text.isBlank c = false := by
    intro c hc
    obtain ⟨rest, hrest⟩ := List.head?_eq_some_iff.mp hc
    exact Token.not_of_dropWhile_eq_cons hrest
  have hcore : ∀ c ∈ (q.dropWhile Text.isBlank).getLast?, Text.isBlank c = false := by
    intro c hc
    refine hlast c ?_
    rw [← hq, List.getLast?_append, Option.mem_def.mp hc]
    rfl
  have hp : q ++ gap = q.takeWhile Text.isBlank ++ (q.dropWhile Text.isBlank ++ gap) := by
    rw [← List.append_assoc, hq]
  refine ⟨_, _, gap, hp, hlead, hhead, hgap, hblank, ?_⟩
  rw [hp, Text.trim_blank_append hlead, Text.trim_append_blank hhead hcore
    (isBlank_of_spaces hblank)]

/-- A comment is trimmed by itself, unless the line before it is blank. -/
theorem BeforeComment.trim_comment (h : BeforeComment p) (cs : List Char) :
    ∃ gap, gap ≠ [] ∧ (∀ c ∈ gap, c = ' ' ∨ c = '\t') ∧
      Text.trim (p ++ Output.commentStart :: cs) =
        if Text.trim p = [] then Text.trim (Output.commentStart :: cs)
        else Text.trim p ++ (gap ++ Text.trim (Output.commentStart :: cs)) := by
  obtain ⟨lead, core, gap, rfl, hlead, hhead, hgap, hblank, htrim⟩ := h.exists_core
  have hstart : ∀ c ∈ (Output.commentStart :: cs).head?, Text.isBlank c = false := by
    rintro c ⟨⟩
    rfl
  refine ⟨gap, hgap, hblank, ?_⟩
  rw [htrim, List.append_assoc, Text.trim_blank_append hlead]
  split
  · next hcore =>
    rw [hcore, List.nil_append, Text.trim_blank_append (isBlank_of_spaces hblank)]
  · next hcore =>
    have hfirst : ∀ c ∈ (core ++ gap).head?, Text.isBlank c = false := by
      intro c hc
      rw [List.head?_append_of_ne_nil _ hcore] at hc
      exact hhead c hc
    rw [Text.trim_append hfirst (List.cons_ne_nil _ _) hstart, List.append_assoc]

/-- Trimming takes no quotes away, so those of the line stay closed. -/
theorem BeforeComment.closed_trim (h : BeforeComment p) :
    '\n' ∉ Text.trim p ∧ Even ((Text.trim p).count '"') := by
  obtain ⟨lead, core, gap, hp, hlead, -, -, hblank, hcore⟩ := h.exists_core
  have hzero : lead.count '"' = 0 := List.count_eq_zero.mpr fun hmem => by cases hlead _ hmem
  have hzero' : gap.count '"' = 0 :=
    List.count_eq_zero.mpr fun hmem => absurd (hblank _ hmem) (by decide)
  have hclosed := h.closed
  rw [hp, List.count_append, List.count_append, hzero, hzero', Nat.zero_add, Nat.add_zero]
    at hclosed
  rw [hcore]
  refine ⟨fun hmem => ?_, hclosed⟩
  exact absurd (h.unbroken '\n' (by rw [hp]; simp [hmem])) (by decide)

/-- The tokens of a line before a comment are those of the line alone, up to the characters that
follow them. -/
theorem BeforeComment.exists_tokens (h : BeforeComment p) (hne : Text.trim p ≠ [])
    (cs : List Char) :
    ∃ first tokens first' front word more, Token.all (Text.trim p) = first :: tokens ∧
      Token.all (Text.trim (p ++ Output.commentStart :: cs)) = first' :: (front ++ word :: more) ∧
      first.bare = first'.bare ∧ tokens.map Token.bare = front.map Token.bare ∧
      Token.all (Text.trim (Output.commentStart :: cs)) = word :: more ∧ word.quoted = false ∧
      Output.isComment word.text = true := by
  obtain ⟨first, tokens, hall⟩ := List.exists_cons_of_ne_nil (h.tokens.resolve_left hne)
  obtain ⟨rest, hrest⟩ := Text.trim_cons (c := Output.commentStart) rfl cs
  obtain ⟨word, more, hword, hquoted, hcomment⟩ := Token.exists_all_comment rest
  obtain ⟨gap, hgap, hblank, htrim⟩ := h.trim_comment cs
  rw [if_neg hne] at htrim
  obtain ⟨hnewline, hclosed⟩ := h.closed_trim
  obtain ⟨all', hall', hmap⟩ := Token.exists_all_append hgap hblank (Token.cover_all _) hnewline
    hclosed (Text.trim (Output.commentStart :: cs))
  rw [hall] at hmap
  obtain ⟨first', front, rfl, hfirst, hfront⟩ := List.map_eq_cons_iff.mp hmap
  refine ⟨first, tokens, first', front, word, more, hall, ?_, hfirst.symm, hfront.symm,
    by rw [hrest, hword], hquoted, hcomment⟩
  rw [htrim, hall', hrest, hword]
  rfl

theorem definition?_of_bare (n : Nat) {text text' : List Char}
    (hall : Token.all text = first :: tokens) (hall' : Token.all text' = first' :: tokens')
    (hbare : first.bare = first'.bare) :
    (Line.mk n text').definition? = (Line.mk n text).definition?.map fun d => (d.1, tokens') := by
  have htext := Token.text_of_bare hbare
  have hquoted := Token.quoted_of_bare hbare
  unfold Line.definition?
  simp only [hall, hall', ← htext, ← hquoted]
  cases first.quoted with
  | true => rfl
  | false =>
    cases Target.ofDesignator? first.text with
    | error n => rfl
    | ok target => cases target <;> rfl

theorem BeforeComment.readsAlike (h : BeforeComment p) (v : Vocabulary) (n : Nat) (cs : List Char)
    (hawaited : (Line.mk n (Text.trim p)).awaited? = none) :
    ReadsAlike v ⟨n, Text.trim p⟩ ⟨n, Text.trim (p ++ Output.commentStart :: cs)⟩ := by
  obtain ⟨gap, hgap, hblank, htrim⟩ := h.trim_comment cs
  by_cases hne : Text.trim p = []
  · -- a blank line says as little as a comment
    obtain ⟨rest, hrest⟩ := Text.trim_cons (c := Output.commentStart) rfl cs
    rw [if_pos hne, hrest] at htrim
    rw [hne, htrim]
    exact ⟨rfl, (fun hheader => nomatch hheader), fun d => rfl⟩
  · obtain ⟨first, tokens, first', front, word, more, hall, hall', hbare, hmap, -, hquoted,
      hcomment⟩ := h.exists_tokens hne cs
    rw [if_neg hne] at htrim
    have hhead : (Text.trim (p ++ Output.commentStart :: cs)).head? = (Text.trim p).head? := by
      rw [htrim, List.head?_append_of_ne_nil _ hne]
    have hnoHeader : (Line.mk n (Text.trim p)).isHeader = false := by
      simpa [Line.isHeader] using h.noHeader
    refine readsAlike_of_tokens rfl hnoHeader ?_ ?_ hall hall' hbare ?_
    · rw [← hnoHeader, Line.isHeader, Line.isHeader, hhead]
    · have hne' : Text.trim (p ++ Output.commentStart :: cs) ≠ [] := by
        intro hnil
        rw [hnil, List.head?_nil, eq_comm, List.head?_eq_none_iff] at hhead
        exact hne hhead
      unfold Line.isIdle Output.isComment
      rw [hhead, List.isEmpty_eq_false_iff.mpr hne, List.isEmpty_eq_false_iff.mpr hne']
    · intro t ht
      have hnone : Output.awaited? front = none := by
        rw [← Output.awaited?_congr hmap, ← hawaited, Line.awaited?, ht]
        rfl
      rw [Output.items_append_comment hnone hquoted hcomment, Output.items_congr hmap]

/-- A line whose output awaits a suffix takes the first word of the comment for it. -/
theorem BeforeComment.takes_suffix (h : BeforeComment p) (n : Nat) (cs : List Char) {name : String}
    (hawaited : (Line.mk n (Text.trim p)).awaited? = some name) :
    ∃ t tokens tokens' front word more,
      (Line.mk n (Text.trim p)).definition? = some (t, tokens) ∧
      (Line.mk n (Text.trim (p ++ Output.commentStart :: cs))).definition? = some (t, tokens') ∧
      Token.all (Text.trim (Output.commentStart :: cs)) = word :: more ∧
      Output.items tokens = front ++ [.slashed name none] ∧
      Output.items tokens' = front ++ .slashed name (some word.text) :: Output.items more := by
  obtain ⟨⟨t, tokens⟩, hdef, hname⟩ := Option.bind_eq_some_iff.mp hawaited
  have hne : Text.trim p ≠ [] := by
    intro hnil
    rw [hnil, Line.definition?_of_nil (Token.all_of_next?_none rfl)] at hdef
    cases hdef
  obtain ⟨first, tokens₀, first', back, word, more, hall, hall', hbare, hmap, hcomment, -⟩ :=
    h.exists_tokens hne cs
  have hdef' := definition?_of_bare n hall hall' hbare
  have hself := definition?_of_bare n hall hall rfl
  rw [hdef] at hdef' hself
  obtain rfl : tokens = tokens₀ := congrArg Prod.snd (Option.some.inj hself)
  have hback : Output.awaited? back = some name := by
    rw [← Output.awaited?_congr hmap, hname]
  obtain ⟨front, hfront, hmore⟩ := Output.items_append_suffix hback
  exact ⟨t, tokens, _, front, word, more, hdef, hdef', hcomment,
    by rw [Output.items_congr hmap, hfront], hmore word more⟩

/-- A comment behind a line with closed quotes and a gap changes neither the table nor the notes of a
rule file, unless the output of the line ends in a name with a slash. Such a name takes the first
word of the comment for its suffix, and what is behind that word is read as output. -/
theorem comment_inert_unless_suffix_awaited (v : Vocabulary) (debug : DebugFlags)
    (a p b comment : String) (hplaced : Placed a p b) (hp : BeforeComment p.toList)
    (hcomment : Text.Unbroken comment.toList) :
    ((placedLine a p).awaited? = none →
      compile v debug (a ++ (p ++ "#" ++ comment) ++ b) = compile v debug (a ++ p ++ b)) ∧
    ∀ name, (placedLine a p).awaited? = some name →
      ∃ t tokens tokens' front word more,
        (placedLine a p).definition? = some (t, tokens) ∧
        (placedLine a (p ++ "#" ++ comment)).definition? = some (t, tokens') ∧
        Token.all (Text.trim ('#' :: comment.toList)) = word :: more ∧
        Output.items tokens = front ++ [.slashed name none] ∧
        Output.items tokens' = front ++ .slashed name (some word.text) :: Output.items more := by
  have hlist : (p ++ "#" ++ comment).toList = p.toList ++ Output.commentStart :: comment.toList := by
    rw [String.toList_append, String.toList_append, List.append_assoc]
    rfl
  have hline : placedLine a (p ++ "#" ++ comment) = ⟨(linesOf a).length + 1,
      Text.trim (p.toList ++ Output.commentStart :: comment.toList)⟩ := by
    rw [placedLine, hlist]
  constructor
  · intro hawaited
    have hplaced' : Placed a (p ++ "#" ++ comment) b := by
      refine ⟨hplaced.before, ?_, ?_, hplaced.behind⟩
      · rw [hlist]
        simp
      · rw [hlist]
        exact Text.unbroken_append.mpr
          ⟨hplaced.unbroken, List.forall_mem_cons.mpr ⟨rfl, hcomment⟩⟩
    refine (compile_placed_congr hplaced hplaced' ?_).symm
    rw [hline]
    exact hp.readsAlike v _ _ hawaited
  · intro name hawaited
    rw [hline]
    exact hp.takes_suffix _ _ hawaited

/-- A line with a hash in quotes, and one that ends in a name with a slash. -/
def hashLine : String := "K1 \"#\" RELEASE XK_Left/d "

def slashLine : String := "S1 XK_Alt_L/ "

theorem beforeComment_of_space {q : List Char} (hspace : p = q ++ [' '])
    (hlast : ∀ c ∈ q.getLast?, Text.isBlank c = false) (hunbroken : Text.Unbroken p)
    (hclosed : Even (p.count '"')) (hheader : (Text.trim p).head? ≠ some '[')
    (htokens : Token.all (Text.trim p) ≠ []) : BeforeComment p where
  noHeader := hheader
  unbroken := hunbroken
  closed := hclosed
  gap := ⟨q, [' '], hspace, List.cons_ne_nil _ _, List.forall_mem_singleton.mpr (.inl rfl), hlast⟩
  tokens := .inr htokens

theorem beforeComment_hashLine : BeforeComment hashLine.toList := by
  have hspace : hashLine.toList = "K1 \"#\" RELEASE XK_Left/d".toList ++ [' '] := by decide
  refine beforeComment_of_space hspace ?_ (by decide +kernel) (by decide +kernel)
    (by decide +kernel) (by decide +kernel)
  rintro c ⟨⟩
  rfl

theorem beforeComment_slashLine : BeforeComment slashLine.toList := by
  have hspace : slashLine.toList = "S1 XK_Alt_L/".toList ++ [' '] := by decide
  refine beforeComment_of_space hspace ?_ (by decide +kernel) (by decide +kernel)
    (by decide +kernel) (by decide +kernel)
  rintro c ⟨⟩
  rfl

theorem placed_in_default {p : String} (h : BeforeComment p.toList) : Placed "[]\n" p "\n" where
  before := by decide
  ne_nil := by
    obtain ⟨q, gap, hp, hgap, -⟩ := h.gap
    rw [hp]
    exact List.append_ne_nil_of_right_ne_nil q hgap
  unbroken := h.unbroken
  behind := by decide

theorem comment_inert_unless_suffix_awaited_of_lines :
    compile .standard {} ("[]\n" ++ (hashLine ++ "#" ++ " \"XK_b/ ") ++ "\n") =
        compile .standard {} ("[]\n" ++ hashLine ++ "\n") ∧
      ∃ t tokens tokens' front word more,
        (placedLine "[]\n" slashLine).definition? = some (t, tokens) ∧
        (placedLine "[]\n" (slashLine ++ "#" ++ "x")).definition? = some (t, tokens') ∧
        Token.all (Text.trim ('#' :: "x".toList)) = word :: more ∧
        Output.items tokens = front ++ [.slashed "XK_Alt_L" none] ∧
        Output.items tokens' = front ++ .slashed "XK_Alt_L" (some word.text) :: Output.items more :=
  ⟨(comment_inert_unless_suffix_awaited .standard {} "[]\n" hashLine "\n" " \"XK_b/ "
      (placed_in_default beforeComment_hashLine) beforeComment_hashLine (by decide)).1
      (by decide +kernel),
    (comment_inert_unless_suffix_awaited .standard {} "[]\n" slashLine "\n" "x"
      (placed_in_default beforeComment_slashLine) beforeComment_slashLine (by decide)).2 _
      (by decide +kernel)⟩

/-- A comment behind a slash is not inert. -/
theorem comment_taken_for_suffix :
    (compile .standard {} ("[]\n" ++ slashLine ++ "\n")).diagnostics =
        [⟨2, .missingModifier "XK_Alt_L", some "", some "S1"⟩] ∧
      (compile .standard {} ("[]\n" ++ (slashLine ++ "#" ++ "x") ++ "\n")).diagnostics =
        [⟨2, .invalidModifier "#x", some "", some "S1"⟩] := by
  decide +kernel

end Rule

end JogShuttle
