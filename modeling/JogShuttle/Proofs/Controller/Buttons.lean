import JogShuttle.Proofs.Controller.Motion
import JogShuttle.Proofs.Rule.Named

/-!
# Characters and pointer buttons

Different characters are typed by different keysyms, and none of them is a pointer symbol. So a text
in quotes brings no pointer button into play: when a button is pressed or let go of at a display, a
rule file that was read on the way has a word for it outside of quotes.
-/

set_option autoImplicit false

namespace JogShuttle

variable {d : Display} {n : Nat}

/-- A table sends strokes on a pointer button. -/
def Table.SendsButton (t : Table) (n : Nat) : Prop :=
  ∃ i slot, ∃ k ∈ t.resolve i slot, k.symbol.button? = some n

/-- A file can be read, and a word in it names a pointer button. -/
def FileView.NamesButton (v : Vocabulary) (f : FileView) (n : Nat) : Prop :=
  ∃ text, f.read = .ok text ∧ ∃ m, m.button? = some n ∧ Rule.NamedIn v (Rule.linesOf text) m

namespace Display

theorem button?_of_inputOf? {k : Stroke} {pressed : Bool}
    (h : d.inputOf? k = some (.button n, pressed)) : k.symbol.button? = some n := by
  obtain ⟨q, hq, hpoint⟩ := Option.map_eq_some_iff.mp h
  obtain ⟨rfl, -⟩ := Prod.mk.inj hpoint
  unfold point? at hq
  split at hq
  · next number hbutton =>
    cases hq
    exact hbutton
  · split at hq
    · cases hq
    · cases hq

/-- Whatever the keymap is, a stroke on a character is no input at a button. -/
theorem not_mem_inputs_ofChar (d : Display) (c : Char) (pressed : Bool) (n : Nat) (down : Bool) :
    (.button n, down) ∉ inputs (d.strike ⟨.ofChar c, pressed⟩) := by
  intro h
  rw [inputs_strike, Option.mem_toList] at h
  have hbutton := button?_of_inputOf? h
  rw [Symbol.button?_ofChar] at hbutton
  cases hbutton

end Display

namespace Controller

variable {c : Controller} {s : Setup} {a : Arrival} {as : List Arrival} {k : Stroke}

theorem not_sendsButton_initial (s : Setup) (n : Nat) :
    ¬(initial s).rules.table.SendsButton n := by
  rintro ⟨i, slot, k, hk, -⟩
  change k ∈ (RuleFile.initial s.source).table.resolve i slot at hk
  rw [RuleFile.resolve_initial] at hk
  cases hk

/-- What an event sends is bound to some slot of the table that is then in effect. -/
theorem exists_resolve_of_mem_handle
    (hk : k ∈ (c.handle s a.file a.window a.event).strokes) :
    ∃ i slot, k ∈ (c.handle s a.file a.window a.event).controller.rules.table.resolve i slot := by
  by_cases hstop : (c.handle s a.file a.window a.event).stop = none
  · obtain ⟨o, -, -, hsound⟩ := handle_of_unstopped hstop
    have hsent := hsound.sent
    change (c.handle s a.file a.window a.event).strokes = _ at hsent
    rw [hsent] at hk
    obtain ⟨slot, -, hslot⟩ := List.mem_flatMap.mp hk
    exact ⟨_, slot, hslot⟩
  · rw [(uneventful_of_stopped hstop).strokes] at hk
    cases hk

/-- A button gets into the table in effect with a file that names it. -/
theorem sendsButton_handle
    (h : (c.handle s a.file a.window a.event).controller.rules.table.SendsButton n) :
    c.rules.table.SendsButton n ∨ a.file.NamesButton s.source.vocabulary n := by
  rw [rules_handle] at h
  split at h
  · rcases RuleFile.refresh_cases c.rules s.source a.file with ⟨htable, -, -⟩ | ⟨text, htext, ht, -⟩
    · rw [htable] at h
      exact Or.inl h
    · obtain ⟨i, slot, k, hk, hn⟩ := h
      exact Or.inr ⟨text, htext, k.symbol, hn, Rule.namedIn_of_mem_resolve ht hk hn⟩
  · exact Or.inl h

theorem namesButton_of_mem_sent (hk : k ∈ c.sent s as) (hn : k.symbol.button? = some n) :
    c.rules.table.SendsButton n ∨ ∃ a ∈ as, a.file.NamesButton s.source.vocabulary n := by
  induction as generalizing c with
  | nil => cases hk
  | cons a as ih =>
    have hfirst : (c.handle s a.file a.window a.event).controller.rules.table.SendsButton n →
        c.rules.table.SendsButton n ∨ ∃ a' ∈ a :: as, a'.file.NamesButton s.source.vocabulary n :=
      fun h => (sendsButton_handle h).imp_right fun hnames => ⟨a, List.mem_cons_self, hnames⟩
    rw [sent_cons] at hk
    rcases List.mem_append.mp hk with hk | hk
    · obtain ⟨i, slot, hslot⟩ := exists_resolve_of_mem_handle hk
      exact hfirst ⟨i, slot, k, hslot, hn⟩
    · rcases ih hk with hsends | ⟨a', ha', hnames⟩
      · exact hfirst hsends
      · exact Or.inr ⟨a', List.mem_cons_of_mem a ha', hnames⟩

/-- An input at a button during a run was named in a file that was read during the run. -/
theorem namesButton_of_mem_inputs {pressed : Bool}
    (h : (.button n, pressed) ∈ Display.inputs (((initial s).acts s as).flatMap d.perform)) :
    ∃ a ∈ as, a.file.NamesButton s.source.vocabulary n := by
  rw [Display.inputs_perform] at h
  obtain ⟨k, hk, hinput⟩ := List.mem_filterMap.mp h
  rcases namesButton_of_mem_sent hk (Display.button?_of_inputOf? hinput) with hsends | hnames
  · exact absurd hsends (not_sendsButton_initial s n)
  · exact hnames

/-- Different code points have different keysyms, and none of them is a pointer symbol; this holds of
all characters and of the surrogates. A stroke on a character is no input at a button of any
display. Behind any steps, a text in quotes presses the modifiers that are pending again and lets go
of the symbol tapped before; all else that it sends is on no button. And whenever a run presses or
lets go of a button, a file that could be read on the way names it outside of quotes. -/
theorem characters_apart_from_buttons (s : Setup) (as : List Arrival) (d : Display) :
    (∀ m n, m < codeSpace → n < codeSpace →
      (Symbol.ofCodePoint m).keysym = (Symbol.ofCodePoint n).keysym → m = n) ∧
    (∀ n, n < codeSpace → (Symbol.ofCodePoint n).button? = none) ∧
    (∀ x y, (Symbol.ofChar x = .ofChar y → x = y) ∧
      (x ≠ y → (Symbol.ofChar x).keysym ≠ (Symbol.ofChar y).keysym)) ∧
    (∀ x, Symbol.ofChar x = .ofCodePoint x.toNat ∧ (Symbol.ofChar x).button? = none ∧
      ∀ pressed n down, (.button n, down) ∉ Display.inputs (d.strike ⟨.ofChar x, pressed⟩)) ∧
    (∀ split ts b xs b', Build.steps { split } ts = .ok b →
      b.steps (Output.ofText xs).steps = .ok b' → ∃ ss, b'.sent = b.sent ++ ss ∧
        ∀ k ∈ ss, k ∈ b.represses ∨ k ∈ b.ordinaryReleases ∨ k.symbol.button? = none) ∧
    ∀ n down, (.button n, down) ∈ Display.inputs (((initial s).acts s as).flatMap d.perform) →
      ∃ a ∈ as, a.file.NamesButton s.source.vocabulary n := by
  refine ⟨?_, ?_, ?_, ?_, ?_, fun n down => namesButton_of_mem_inputs⟩
  · exact fun m n hm hn => Symbol.keysym_ofCodePoint_injective hm hn
  · exact fun n hn => Symbol.button?_ofCodePoint hn
  · intro x y
    refine ⟨fun h => Symbol.keysym_ofChar_inj.mp (congrArg Symbol.keysym h), fun hne h => ?_⟩
    exact hne (Symbol.keysym_ofChar_inj.mp h)
  · exact fun x => ⟨Symbol.ofChar_eq_ofCodePoint x, Symbol.button?_ofChar x,
      fun pressed n down => d.not_mem_inputs_ofChar x pressed n down⟩
  · intro split ts b xs b' hb htyped
    exact Build.sent_typed (Build.sound_of_steps hb).filed htyped

/-- A key for the euro sign, here in the three bytes of its encoding, and a button for the ring. -/
def euroRules : FileView := plainRules "[]\nK1 \"\u00e2\u0082\u00ac\"\nS3 Button_1\n" 1

/-- The key goes down and up, and the ring goes to the right. -/
def euroArrivals : List Arrival :=
  [⟨euroRules, {}, ⟨1, 256, 1, Signal.millis 0⟩⟩, ⟨euroRules, {}, ⟨1, 256, 0, Signal.millis 1⟩⟩,
    ⟨euroRules, {}, ⟨2, 8, 3, Signal.millis 2⟩⟩]

/-- The euro sign has a key of its own. -/
def euroKeys : Display := { keycodes := [(0x10020ac, 26)] }

theorem characters_apart_from_buttons_of_euro :
    0xdfff < codeSpace ∧ (Symbol.ofCodePoint 0xdfff).button? = none ∧
      (Symbol.ofChar '\u20ac').keysym ≠ (Symbol.ofChar '\u00ac').keysym ∧
      Display.inputs (((initial quietSetup).acts quietSetup euroArrivals).flatMap euroKeys.perform) =
        [(.key 26, true), (.key 26, false), (.button 1, true), (.button 1, false)] ∧
      ∃ a ∈ euroArrivals, a.file.NamesButton .standard 1 := by
  have hspace : 0xdfff < codeSpace := by decide
  have hinputs :
      Display.inputs (((initial quietSetup).acts quietSetup euroArrivals).flatMap euroKeys.perform) =
        [(.key 26, true), (.key 26, false), (.button 1, true), (.button 1, false)] := by
    decide +kernel
  obtain ⟨-, hbutton, hchars, -, -, hrun⟩ :=
    characters_apart_from_buttons quietSetup euroArrivals euroKeys
  refine ⟨hspace, hbutton _ hspace, (hchars _ _).2 (by decide), hinputs, hrun 1 true ?_⟩
  rw [hinputs]
  decide

end Controller

end JogShuttle
