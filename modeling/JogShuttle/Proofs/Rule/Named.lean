import JogShuttle.Proofs.Keysym.Character
import JogShuttle.Proofs.Rule.KeyHalves
import JogShuttle.Proofs.Rule.Placed
import JogShuttle.Proofs.Sequence.Symbols

/-!
# Where symbols come from

A symbol gets into a sequence in one of two ways: a quoted text types one of its characters, or a
word outside of quotes names the symbol. Characters have no pointer symbols, so whatever a table
sends on a pointer button was named by such a word, in a line of the rule file that defines a slot.
-/

set_option autoImplicit false

namespace JogShuttle

namespace Output

variable {names : KeysymTable} {isKey : Bool} {mark : Mark} {name : String} {suffix : List Char}
variable {tokens : List Token} {t : Step} {m : Symbol}

/-- Some token outside of quotes names a symbol. -/
def Names (names : KeysymTable) (tokens : List Token) (m : Symbol) : Prop :=
  ∃ word ∈ tokens, word.quoted = false ∧ names.resolve (String.ofList word.text) = some m

theorem Names.cons (h : Names names tokens m) (first : Token) : Names names (first :: tokens) m := by
  obtain ⟨word, hword, hm⟩ := h
  exact ⟨word, List.mem_cons_of_mem first hword, hm⟩

theorem resolve_of_mem_ofName (ht : t ∈ (ofName names mark name).steps) (hm : t.symbol = some m) :
    names.resolve name = some m := by
  unfold ofName at ht
  cases hname : names.resolve name with
  | none =>
    rw [hname] at ht
    cases ht
  | some s =>
    rw [hname] at ht
    rw [List.mem_singleton.mp ht] at hm
    exact hm

theorem resolve_of_mem_ofSuffixed (ht : t ∈ (ofSuffixed names name suffix).steps)
    (hm : t.symbol = some m) : names.resolve name = some m := by
  unfold ofSuffixed at ht
  split at ht
  · exact resolve_of_mem_ofName ht hm
  · exact resolve_of_mem_ofName ht hm

theorem symbol_of_mem_boundary (ht : t ∈ (boundary isKey).steps) : t.symbol = none := by
  unfold boundary at ht
  split at ht
  · rw [List.mem_singleton.mp ht]
    rfl
  · cases ht

/-- Every step of an output types a character or has a symbol that some word names. -/
theorem typed_or_named (ht : t ∈ (ofTokens names isKey tokens).steps) (hm : t.symbol = some m) :
    (∃ c, m = .ofChar c) ∨ Names names tokens m := by
  fun_induction ofTokens names isKey tokens with
  | case1 => cases ht
  | case2 quotation rest hq ih =>
    rcases List.mem_append.mp ht with ht | ht
    · obtain ⟨c, -, rfl⟩ := List.mem_map.mp ht
      exact Or.inl ⟨c, (Option.some.inj hm).symm⟩
    · exact (ih ht).imp_right fun h => h.cons quotation
  | case3 => cases ht
  | case4 =>
    rw [symbol_of_mem_boundary ht] at hm
    cases hm
  | case5 => cases ht
  | case6 word hq hc name hs suffix rest ih =>
    rcases List.mem_append.mp ht with ht | ht
    · split at ht
      · rw [symbol_of_mem_boundary ht] at hm
        cases hm
      · exact Or.inr ⟨word, List.mem_cons_self, by simpa using hq,
          resolve_of_mem_ofSuffixed ht hm⟩
    · exact (ih ht).imp_right fun h => (h.cons suffix).cons word
  | case7 word rest hq hc name hs ih =>
    rcases List.mem_append.mp ht with ht | ht
    · split at ht
      · rw [symbol_of_mem_boundary ht] at hm
        cases hm
      · exact Or.inr ⟨word, List.mem_cons_self, by simpa using hq, resolve_of_mem_ofName ht hm⟩
    · exact (ih ht).imp_right fun h => h.cons word

/-- Texts in quotes bring no button into the halves of an output: a word names every button there. -/
theorem names_of_button {r : Halves} {k : Stroke} {n : Nat}
    (h : Halves.ofSteps? isKey (ofTokens names isKey tokens).steps = .ok r)
    (hk : k ∈ r.press ++ r.release) (hn : k.symbol.button? = some n) :
    Names names tokens k.symbol := by
  obtain ⟨t, ht, hsymbol⟩ := Build.exists_step_of_mem_halves h hk
  rcases typed_or_named ht hsymbol with ⟨c, hc⟩ | hnamed
  · rw [hc, Symbol.button?_ofChar] at hn
    cases hn
  · exact hnamed

end Output

/-- Typing a text adds no stroke on a button of its own. -/
theorem Build.sent_typed {b b' : Build} {cs : List Char} (hb : b.Filed)
    (h : b.steps (Output.ofText cs).steps = .ok b') :
    ∃ ss, b'.sent = b.sent ++ ss ∧
      ∀ k ∈ ss, k ∈ b.represses ∨ k ∈ b.ordinaryReleases ∨ k.symbol.button? = none := by
  have hsteps : (Output.ofText cs).steps = ((cs.filter Text.isPrintable).map .ofChar).map .tap := by
    rw [List.map_map]
    rfl
  rw [hsteps] at h
  refine sent_taps (p := fun m => m.button? = none) hb ?_ h
  intro m hm
  obtain ⟨c, -, rfl⟩ := List.mem_map.mp hm
  exact Symbol.button?_ofChar c

/-- What a slot sends is bound to it in some section. -/
theorem Table.exists_bindingAt_of_mem_resolve {t : Table} {i : Option Nat} {slot : Slot} {k : Stroke}
    (hk : k ∈ t.resolve i slot) : ∃ j strokes, t.bindingAt j slot = some strokes ∧ k ∈ strokes := by
  change k ∈ (t.bindingAt i slot <|> t.bindingAt t.default slot).getD [] at hk
  cases hown : t.bindingAt i slot with
  | some own =>
    rw [hown] at hk
    exact ⟨i, own, hown, hk⟩
  | none =>
    rw [hown] at hk
    cases hfallback : t.bindingAt t.default slot with
    | some fallback =>
      rw [hfallback] at hk
      exact ⟨t.default, fallback, hfallback, hk⟩
    | none =>
      rw [hfallback] at hk
      cases hk

namespace Rule

variable {v : Vocabulary} {debug : DebugFlags} {text : String} {t : Table} {b : Block} {s : Section}
variable {slot : Slot} {i : Option Nat} {k : Stroke} {n : Nat}

/-- Some word outside of quotes names a symbol, behind the designator of a line. -/
def NamedIn (v : Vocabulary) (ls : List Line) (m : Symbol) : Prop :=
  ∃ l ∈ ls, ∃ u tokens, l.definition? = some (u, tokens) ∧ Output.Names v.keysyms tokens m

theorem body_subset_of_mem_headed {ls : List Line} (hb : b ∈ headed ls) : b.body ⊆ ls := by
  intro l hl
  rw [headed_eq] at hb
  apply (blocksOf_subset ls).2
  exact List.mem_flatMap.mpr ⟨b, hb, List.mem_cons_of_mem _ hl⟩

theorem SectionOf.namedIn_of_button (h : SectionOf v b s) {strokes : List Stroke}
    (hs : s.binding slot = some strokes) (hk : k ∈ strokes) (hn : k.symbol.button? = some n) :
    NamedIn v b.body k.symbol := by
  have hbound := h.bound slot
  rw [hs] at hbound
  obtain ⟨l, hl, u, tokens, r, hdef, -, hr, rfl, -⟩ := hbound.exists_built
  exact ⟨l, hl, u, tokens, hdef, Output.names_of_button hr (Halves.mem_of_mem_half hk) hn⟩

theorem namedIn_of_mem_bindingAt (h : (compile v debug text).result = .ok t)
    {strokes : List Stroke} (hs : t.bindingAt i slot = some strokes) (hk : k ∈ strokes)
    (hn : k.symbol.button? = some n) : NamedIn v (linesOf text) k.symbol := by
  obtain ⟨s, hsection, hbinding⟩ := Option.bind_eq_some_iff.mp hs
  obtain ⟨j, rfl, hj⟩ := Option.bind_eq_some_iff.mp hsection
  obtain ⟨b, hb, -, hsec⟩ := (tableOf_compile h).exists_block (List.mem_of_getElem? hj)
  obtain ⟨l, hl, hnamed⟩ := hsec.namedIn_of_button hbinding hk hn
  exact ⟨l, body_subset_of_mem_headed hb hl, hnamed⟩

/-- A button that a compiled table sends was named in a line of its text. -/
theorem namedIn_of_mem_resolve (h : (compile v debug text).result = .ok t)
    (hk : k ∈ t.resolve i slot) (hn : k.symbol.button? = some n) :
    NamedIn v (linesOf text) k.symbol := by
  obtain ⟨j, strokes, hs, hmem⟩ := Table.exists_bindingAt_of_mem_resolve hk
  exact namedIn_of_mem_bindingAt h hs hmem hn

end Rule

end JogShuttle
