import JogShuttle.Controller
import JogShuttle.Proofs.Rule.KeyHalves

/-!
# What a key leaves pressed

A key that is pressed and released in one window under one table sends what its two slots resolve
to. Every symbol is let go of in the end, except where the governing section binds the second half
alone and the default section supplies the first.
-/

set_option autoImplicit false

namespace JogShuttle

open Stroke

/-- The stroke that an act sends, if it sends one. -/
def Act.stroke? : Act → Option Stroke
  | .stroke s => some s
  | _ => none

def Handled.strokes (h : Handled) : List Stroke := h.acts.filterMap Act.stroke?

namespace Controller

variable {c : Controller} {s : Setup} {w : Focused} {e : Event} {n : Int} {pressed : Bool}

/-- The strokes of events that arrive under the same rules and in the same window. -/
def strokes (c : Controller) (s : Setup) (w : Focused) : List Event → List Stroke
  | [] => []
  | e :: es => (c.route s w e).strokes ++ (c.route s w e).controller.strokes s w es

theorem strokes_logs (logs : List Record) : (logs.map Act.log).filterMap Act.stroke? = [] := by
  induction logs with
  | nil => rfl
  | cons r rs ih => exact ih

theorem strokes_traceLookup (c : Controller) (w : Focused) :
    (c.traceLookup w).filterMap Act.stroke? = [] := by
  unfold traceLookup
  split <;> rfl

theorem strokes_send (names : KeysymTable) (t : Table) (i : Option Nat) (slot : Slot) :
    (send names t i slot).filterMap Act.stroke? = t.resolve i slot := by
  have hmap : ∀ ss : List Stroke, (ss.map Act.stroke).filterMap Act.stroke? = ss := by
    intro ss
    induction ss with
    | nil => rfl
    | cons x xs ih => exact congrArg (x :: ·) ih
  unfold send
  simp only
  split
  · rename_i hempty
    rw [List.isEmpty_iff.mp hempty]
    rfl
  · rw [List.filterMap_append, List.filterMap_append, hmap]
    split <;> exact List.append_nil _

/-- A key event sends what its slot resolves to. -/
theorem strokes_route (hw : c.rules.table.crosses (windowTitle w) = false) (hn : n ∈ Slot.keys)
    (he : e.meaning = .sample (.key n pressed)) :
    (c.route s w e).strokes =
      c.rules.table.resolve (c.governing w) (if pressed then .keyDown n else .keyUp n) := by
  have hevent : c.signal.event s.timeout (c.rules.table.isBound (c.governing w)) e =
      .ok { signal := c.signal, slots := [if pressed then .keyDown n else .keyUp n] } := by
    rw [Signal.event, he]
    change Except.ok (c.signal.key n pressed) = _
    rw [Signal.key, if_pos (Slot.mem_keys.mp hn)]
  rw [route, hw, if_neg Bool.false_ne_true, routeIn]
  simp only [governing, lookupKey] at hevent ⊢
  rw [hevent]
  simp only [Handled.strokes, List.filterMap_append, strokes_traceLookup, strokes_logs,
    List.nil_append, List.flatMap_singleton, strokes_send]

theorem rules_route (c : Controller) (s : Setup) (w : Focused) (e : Event) :
    (c.route s w e).controller.rules = c.rules := by
  unfold route routeIn
  split
  · rfl
  · simp only
    split <;> rfl

/-- A key that goes down and comes up sends what its two slots resolve to, one after the other. What
it leaves pressed is what the first half of the default section leaves pressed and the second half
of the governing section, bound there alone, does not mention. -/
theorem key_lets_go_unless_split (v : Vocabulary) (debug : DebugFlags) (text : String) (t : Table)
    (h : (Rule.compile v debug text).result = .ok t) (w : Focused) (n : Int) (hn : n ∈ Slot.keys) :
    (∀ (c : Controller) (s : Setup) (down up : Event), c.rules.table = t →
      t.crosses (windowTitle w) = false → down.meaning = .sample (.key n true) →
      up.meaning = .sample (.key n false) →
      c.strokes s w [down, up] = t.keyStrokes (windowTitle w) n) ∧
    ∀ m, Pressed m (t.keyStrokes (windowTitle w) n) ↔
      ∃ p q, t.Splits (t.sectionFor (windowTitle w)) n p q ∧ Pressed m p ∧
        ∀ k ∈ q, k.symbol ≠ m := by
  refine ⟨?_, Table.pressed_keyStrokes_iff h (windowTitle w) n⟩
  intro c s down up hc hw hdown hup
  subst t
  have hrules := rules_route c s w down
  have hw' : (c.route s w down).controller.rules.table.crosses (windowTitle w) = false := by
    rwa [hrules]
  rw [strokes, strokes, strokes, strokes_route hw hn hdown, strokes_route hw' hn hup, governing,
    governing, hrules, List.append_nil, if_pos rfl, if_neg Bool.false_ne_true]
  rfl

/-- Rules whose governing section for one title binds the second half of a key only. -/
def splitRules : String := "[A] foo\nK1 RELEASE \"q\"\n[]\nK1 \"x\"\n"

theorem key_lets_go_unless_split_at_split :
    ∃ t, (Rule.compile .standard {} splitRules).result = .ok t ∧
      (∀ s : Setup, strokes { rules := { table := t } } s { title := some "foo" }
        [⟨1, 256, 1, default⟩, ⟨1, 256, 0, default⟩] = t.keyStrokes "foo" 1) ∧
      Pressed (.ofChar 'x') (t.keyStrokes "foo" 1) ∧
      ∃ p q, t.Splits (t.sectionFor "foo") 1 p q ∧ Pressed (.ofChar 'x') p ∧
        ∀ k ∈ q, k.symbol ≠ .ofChar 'x' := by
  obtain ⟨t, ht, hp⟩ := Reading.exists_of_any (r := Rule.compile .standard {} splitRules)
    (p := fun t => decide (Pressed (.ofChar 'x') (t.keyStrokes "foo" 1)) && !t.crosses "foo")
    (by decide +kernel)
  rw [Bool.and_eq_true, decide_eq_true_eq, Bool.not_eq_true'] at hp
  obtain ⟨hsent, hpressed⟩ :=
    key_lets_go_unless_split _ _ _ t ht { title := some "foo" } 1 (by decide)
  exact ⟨t, ht, fun s => hsent _ s _ _ rfl hp.2 rfl rfl, hp.1, (hpressed _).mp hp.1⟩

/-- The symbol that the first half presses is never let go of. -/
theorem key_of_split_rules_stays_pressed :
    ∃ t, (Rule.compile .standard {} splitRules).result = .ok t ∧
      t.keyStrokes "foo" 1 =
        [.press (.ofChar 'x'), .press (.ofChar 'q'), .release (.ofChar 'q')] ∧
      ¬Settled (t.keyStrokes "foo" 1) := by
  obtain ⟨t, ht, hp⟩ := Reading.exists_of_any (r := Rule.compile .standard {} splitRules)
    (p := fun t => t.keyStrokes "foo" 1 ==
      [.press (.ofChar 'x'), .press (.ofChar 'q'), .release (.ofChar 'q')])
    (by decide +kernel)
  have hsent := beq_iff_eq.mp hp
  refine ⟨t, ht, hsent, ?_⟩
  rw [hsent, settled_iff]
  intro h
  exact h (.ofChar 'x') (by decide)

end Controller

end JogShuttle
