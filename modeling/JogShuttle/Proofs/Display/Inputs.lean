import JogShuttle.Display.Sink
import JogShuttle.Proofs.Controller.KeyStrokes

/-!
# What a display is left with

Strokes become inputs at keys and pointer buttons, and several symbols may share a key. The last
input at a point is that of the last stroke on one of its symbols, which is also the last stroke on
this symbol. So strokes that let go of every symbol let go of every key and button.
-/

set_option autoImplicit false

namespace JogShuttle

open Stroke

/-- What an input presses or lets go of. -/
inductive Point where
  | key (code : Nat)
  | button (number : Nat)
deriving DecidableEq

/-- The point of an input, and whether it is pressed there. -/
def DisplayAct.input? : DisplayAct → Option (Point × Bool)
  | .call (.input .keyPress code) => some (.key code, true)
  | .call (.input .keyRelease code) => some (.key code, false)
  | .call (.input .buttonPress number) => some (.button number, true)
  | .call (.input .buttonRelease number) => some (.button number, false)
  | _ => none

namespace Display

variable {d : Display} {p : Point} {acts : List Act}

/-- The inputs among what is done at a display. -/
def inputs (acts : List DisplayAct) : List (Point × Bool) := acts.filterMap DisplayAct.input?

/-- Whether the last input at a point presses it. -/
def LeavesPressed (acts : List DisplayAct) (p : Point) : Prop :=
  (inputs acts).reverse.find? (·.1 == p) = some (p, true)

/-- Where a symbol is typed, if it can be. -/
def point? (d : Display) (m : Symbol) : Option Point :=
  match m.button? with
  | some number => some (.button number)
  | none =>
    if d.keycode m.keysym = 0 then none else some (.key (d.keycode m.keysym))

/-- The input that a stroke becomes. -/
def inputOf? (d : Display) (s : Stroke) : Option (Point × Bool) :=
  (d.point? s.symbol).map (·, s.pressed)

theorem inputs_strike (d : Display) (s : Stroke) :
    inputs (d.strike s) = (d.inputOf? s).toList := by
  unfold strike inputOf? point?
  cases s.symbol.button? with
  | some number => cases s.pressed <;> rfl
  | none =>
    by_cases hcode : d.keycode s.symbol.keysym = 0
    · simp [hcode, inputs, DisplayAct.input?]
    · cases hp : s.pressed <;> simp [hcode, inputs, DisplayAct.input?]

/-- The inputs at a display are those of the strokes that are sent. -/
theorem inputs_perform (d : Display) (acts : List Act) :
    inputs (acts.flatMap d.perform) = (acts.filterMap Act.stroke?).filterMap d.inputOf? := by
  induction acts with
  | nil => rfl
  | cons act acts ih =>
    rw [List.flatMap_cons, inputs, List.filterMap_append]
    change inputs (d.perform act) ++ inputs (acts.flatMap d.perform) = _
    rw [ih]
    cases act with
    | log r => rfl
    | flush => rfl
    | stroke s =>
      change inputs (d.strike s) ++ _ = (s :: acts.filterMap Act.stroke?).filterMap d.inputOf?
      rw [inputs_strike, List.filterMap_cons]
      cases d.inputOf? s <;> rfl

/-- A point that is left pressed has a symbol that is. -/
theorem exists_pressed_of_leavesPressed (h : LeavesPressed (acts.flatMap d.perform) p) :
    ∃ m, d.point? m = some p ∧ Pressed m (acts.filterMap Act.stroke?) := by
  unfold LeavesPressed at h
  rw [inputs_perform, List.find?_eq_some_iff_append] at h
  obtain ⟨-, after, before, hinputs, hafter⟩ := h
  have hsplit : (acts.filterMap Act.stroke?).filterMap d.inputOf? =
      before.reverse ++ (p, true) :: after.reverse := by
    rw [← List.reverse_reverse (List.filterMap d.inputOf? _), hinputs]
    simp
  obtain ⟨front, rest, hstrokes, -, hrest⟩ := List.filterMap_eq_append_iff.mp hsplit
  obtain ⟨silent, s, back, rfl, -, hs, hback⟩ := List.filterMap_eq_cons_iff.mp hrest
  obtain ⟨q, hq, hsp⟩ := Option.map_eq_some_iff.mp hs
  obtain ⟨rfl, hpressed⟩ := Prod.mk.inj hsp
  refine ⟨s.symbol, hq, lastOn_eq_some_iff.mpr ⟨rfl, front ++ silent, back, ?_, ?_⟩⟩
  · rw [hstrokes, List.append_assoc]
    obtain ⟨m, pressed⟩ := s
    cases hpressed
    rfl
  · -- a later stroke on the symbol would be a later input at its point
    intro t ht hsymbol
    have hinput : d.inputOf? t = some (q, t.pressed) := by
      rw [inputOf?, hsymbol, hq]
      rfl
    have hmem : (q, t.pressed) ∈ after := by
      rw [← List.mem_reverse, ← hback]
      exact List.mem_filterMap.mpr ⟨t, ht, hinput⟩
    simpa using hafter _ hmem

/-- Strokes that leave no symbol pressed leave no key and no button pressed. -/
theorem not_leavesPressed (h : Settled (acts.filterMap Act.stroke?)) (d : Display) (p : Point) :
    ¬LeavesPressed (acts.flatMap d.perform) p := by
  intro hp
  obtain ⟨m, -, hm⟩ := exists_pressed_of_leavesPressed hp
  exact settled_iff.mp h m hm

end Display

end JogShuttle
