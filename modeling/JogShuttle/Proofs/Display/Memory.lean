import JogShuttle.Proofs.Display.FirstNamed
import Mathlib.Data.List.Induction

/-!
# What is remembered of the focus

The focus moves and windows are described anew while it is looked at again and again. A look walks
only if it finds the focus elsewhere than the look before it, and every look tells what the latest
such walk found. So as long as no window on the way up has changed since, it tells what a walk would
find now.
-/

set_option autoImplicit false

namespace JogShuttle

/-- What happens at a display: the focus moves, a window is described anew, the focus is looked
at. -/
inductive Moment where
  | focus (id : Int)
  | define (w : Window)
  | look

namespace Display

def change (d : Display) : Moment → Display
  | .focus id => { d with focus := id }
  | .define w => d.define w
  | .look => d

/-- The display once all has happened. -/
def after (d : Display) (ms : List Moment) : Display := ms.foldl change d

/-- The display as it stands at each look. -/
def looked (d : Display) : List Moment → List Display
  | [] => []
  | .look :: ms => d :: d.looked ms
  | .focus id :: ms => (d.change (.focus id)).looked ms
  | .define w :: ms => (d.change (.define w)).looked ms

/-- The display at the latest look that found the focus elsewhere than the look before it. -/
def LatestTurn (ds : List Display) (d : Display) : Prop :=
  ∃ before after, ds = before ++ d :: after ∧ (∀ p ∈ before.getLast?, p.focus ≠ d.focus) ∧
    ∀ e ∈ after, e.focus = d.focus

end Display

open Display

variable {d d' e p : Display} {ds : List Display} {ms : List Moment} {x : Option Int} {w : Walk}
variable {id : Int} {f : Focus}

namespace Focus

/-- What is remembered after looks at displays. -/
def remembered (ds : List Display) : Focus := ds.foldl (fun f d => (f.look d).focus) {}

theorem remembered_append (ds : List Display) (d : Display) :
    remembered (ds ++ [d]) = ((remembered ds).look d).focus := by
  simp [remembered]

theorem look_of_same (h : f.last = some d.focus) : f.look d = { focus := f } := by
  rw [look, if_pos h]

theorem look_of_moved (h : f.last ≠ some d.focus) : f.look d =
    { focus := ⟨some d.focus, d.focusWalk.found⟩, acts := d.focusWalk.acts } := by
  rw [look, if_neg h]

theorem last_look (f : Focus) (d : Display) : (f.look d).focus.last = some d.focus := by
  by_cases h : f.last = some d.focus
  · rw [look_of_same h, h]
  · rw [look_of_moved h]

theorem last_remembered (ds : List Display) :
    (remembered ds).last = ds.getLast?.map (·.focus) := by
  rcases List.eq_nil_or_concat ds with rfl | ⟨ds, d, rfl⟩
  · rfl
  · rw [List.concat_eq_append, remembered_append, last_look]
    simp

theorem last_remembered_ne_iff : (remembered ds).last ≠ some d.focus ↔
    ∀ p ∈ ds.getLast?, p.focus ≠ d.focus := by
  simp [last_remembered]

end Focus

namespace Display

section LatestTurn

theorem latestTurn_of_moved (h : ∀ p ∈ ds.getLast?, p.focus ≠ e.focus) :
    LatestTurn (ds ++ [e]) e :=
  ⟨ds, [], rfl, h, by simp⟩

theorem LatestTurn.focus_eq (h : LatestTurn ds d) (hp : p ∈ ds.getLast?) : p.focus = d.focus := by
  obtain ⟨before, after, rfl, -, hafter⟩ := h
  rcases List.eq_nil_or_concat after with rfl | ⟨after, e, rfl⟩
  · have hp : p = d := by simpa using hp.symm
    rw [hp]
  · have hlast : (before ++ d :: after.concat e).getLast? = some e := by
      rw [List.concat_eq_append, ← List.cons_append, ← List.append_assoc, List.getLast?_concat]
    rw [← Option.some.inj (hlast.symm.trans hp)]
    exact hafter e (by simp)

theorem LatestTurn.append (h : LatestTurn ds d) (he : e.focus = d.focus) :
    LatestTurn (ds ++ [e]) d := by
  obtain ⟨before, after, rfl, hbefore, hafter⟩ := h
  refine ⟨before, after ++ [e], by simp, hbefore, fun g hg => ?_⟩
  rcases List.mem_append.mp hg with hg | hg
  · exact hafter g hg
  · rw [List.mem_singleton.mp hg]
    exact he

theorem exists_latestTurn (ds : List Display) (hds : ds ≠ []) : ∃ d, LatestTurn ds d := by
  induction ds using List.reverseRecOn with
  | nil => exact absurd rfl hds
  | append_singleton ds e ih =>
    by_cases hmoved : ∀ p ∈ ds.getLast?, p.focus ≠ e.focus
    · exact ⟨e, latestTurn_of_moved hmoved⟩
    · obtain ⟨p, hp, hfocus⟩ : ∃ p ∈ ds.getLast?, p.focus = e.focus := by simpa using hmoved
      have hne : ds ≠ [] := by
        rintro rfl
        cases hp
      obtain ⟨d, hturn⟩ := ih hne
      exact ⟨d, hturn.append (hfocus ▸ hturn.focus_eq hp)⟩

theorem LatestTurn.focused_eq (h : LatestTurn ds d) :
    (Focus.remembered ds).focused = d.focusWalk.found := by
  obtain ⟨before, after, rfl, hbefore, hafter⟩ := h
  induction after using List.reverseRecOn with
  | nil =>
    have hmoved : (Focus.remembered before).last ≠ some d.focus := by
      rw [Focus.last_remembered_ne_iff]
      exact hbefore
    rw [Focus.remembered_append, Focus.look_of_moved hmoved]
  | append_singleton after e ih =>
    have hturn : LatestTurn (before ++ d :: after) d :=
      ⟨before, after, rfl, hbefore, fun g hg => hafter g (by simp [hg])⟩
    have hsame : (Focus.remembered (before ++ d :: after)).last = some e.focus := by
      obtain ⟨p, hp⟩ := Option.isSome_iff_exists.mp
        (List.getLast?_isSome.mpr (by simp : before ++ d :: after ≠ []))
      rw [Focus.last_remembered, hp, Option.map_some, hturn.focus_eq hp, hafter e (by simp)]
    rw [← List.cons_append, ← List.append_assoc, Focus.remembered_append,
      Focus.look_of_same hsame]
    exact ih fun g hg => hafter g (by simp [hg])

end LatestTurn

section Unchanged

theorem above_eq_of_unchanged (h : ∀ k a, d.above k id = some a → d'.window a = d.window a)
    (k : Nat) : d'.above k id = d.above k id := by
  induction k generalizing id with
  | zero => rfl
  | succ k ih =>
    rw [above, above, h 0 id rfl]
    cases hp : (d.window id).parent with
    | none => rfl
    | some p => exact ih fun k a ha => h (k + 1) a (by rw [above, hp]; exact ha)

theorem WalksTo.of_unchanged (hw : d.WalksTo x w)
    (h : ∀ id ∈ x, ∀ k a, d.above k id = some a → d'.window a = d.window a) : d'.WalksTo x w := by
  induction hw with
  | nowhere => exact .nowhere
  | @ends id w hends =>
    have hsame := h id rfl 0 id rfl
    rw [← hsame] at hends
    exact .ends hends
  | @up id w hpassed _ ih =>
    have hsame := h id rfl 0 id rfl
    rw [← hsame] at hpassed ih
    refine .up hpassed (ih ?_)
    intro p hp k a ha
    rw [hsame] at hp
    refine h id rfl (k + 1) a ?_
    rw [above, Option.mem_def.mp hp]
    exact ha

theorem walk_found_of_unchanged
    (h : ∀ k a, d.above k id = some a → d'.window a = d.window a) :
    (d'.walk id).found = (d.walk id).found := by
  have hback : ∀ k a, d'.above k id = some a → d.window a = d'.window a := by
    intro k a ha
    rw [above_eq_of_unchanged h k] at ha
    exact (h k a ha).symm
  rcases walk_cases d id with hwalk | ⟨hnever, hfound⟩
  · rw [(hwalk.of_unchanged (by rintro id ⟨⟩; exact h)).walk_eq]
  · rcases walk_cases d' id with hwalk | ⟨-, hfound'⟩
    · exact absurd (hwalk.of_unchanged (by rintro id ⟨⟩; exact hback)) (hnever _)
    · rw [hfound', hfound]

end Unchanged

theorem looked_append_look (d : Display) (ms : List Moment) :
    d.looked (ms ++ [.look]) = d.looked ms ++ [d.after ms] := by
  induction ms generalizing d with
  | nil => rfl
  | cons m ms ih =>
    cases m with
    | look => exact congrArg (d :: ·) (ih d)
    | focus id => exact ih _
    | define w => exact ih _

/-- A look at the focus once all has happened. -/
def lookAfter (d : Display) (ms : List Moment) : Focus.Look :=
  (Focus.remembered (d.looked ms)).look (d.after ms)

/-- Whatever happens at a display, a look at the focus tells what a walk found at the latest look
that found the focus elsewhere than the look before it. That is what a walk finds now if no window on
the way up has changed since. A look that finds the focus where the last one left it asks nothing and
reports nothing, whatever came of that walk, and any other takes a walk. -/
theorem look_tells_latest_walk (d : Display) (ms : List Moment) :
    (∃ e, LatestTurn (d.looked (ms ++ [.look])) e ∧
      (d.lookAfter ms).focus.focused = e.focusWalk.found ∧
      ((∀ k a, e.above k e.focus = some a → (d.after ms).window a = e.window a) →
        (d.lookAfter ms).focus.focused = (d.after ms).focusWalk.found)) ∧
    ((∃ p ∈ (d.looked ms).getLast?, p.focus = (d.after ms).focus) →
      (d.lookAfter ms).acts = []) ∧
    ((∀ p ∈ (d.looked ms).getLast?, p.focus ≠ (d.after ms).focus) →
      (d.lookAfter ms).acts = (d.after ms).focusWalk.acts) := by
  refine ⟨?_, ?_, ?_⟩
  · rw [looked_append_look]
    obtain ⟨e, hturn⟩ := exists_latestTurn (d.looked ms ++ [d.after ms]) (by simp)
    have hfound := hturn.focused_eq
    rw [Focus.remembered_append] at hfound
    refine ⟨e, hturn, hfound, fun hsame => hfound.trans ?_⟩
    have hfocus : (d.after ms).focus = e.focus := hturn.focus_eq (by simp)
    unfold focusWalk
    rw [hfocus]
    split
    · exact (walk_found_of_unchanged hsame).symm
    · rfl
  · rintro ⟨p, hp, hfocus⟩
    have hlast : (Focus.remembered (d.looked ms)).last = some (d.after ms).focus := by
      rw [Focus.last_remembered, Option.mem_def.mp hp, Option.map_some, hfocus]
    rw [lookAfter, Focus.look_of_same hlast]
  · intro hmoved
    rw [lookAfter, Focus.look_of_moved (Focus.last_remembered_ne_iff.mpr hmoved)]

end Display

end JogShuttle
