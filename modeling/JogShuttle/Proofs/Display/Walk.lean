import JogShuttle.Display.Focus
import Mathlib.Data.List.Perm.Subperm
import Mathlib.Logic.Relation

/-!
# Walks up the tree of windows

A walk is a loop that nothing bounds: it ends because no window lies above itself. The relation
`WalksTo` tells its end by what happens at a single window, without a number of steps. Among finitely
many windows the number that `walk` allows is enough, so `walk` gives the end of every walk that has
one (`WalksTo.walk_eq`), and a walk that meets no window twice has one (`walksTo_walk`).
-/

set_option autoImplicit false

namespace JogShuttle

namespace Window

variable {v : Window} {w : Walk}

/-- A window that a walk goes past: it answers, has no title, and lies below another. -/
structure Passed (v : Window) : Prop where
  nonzero : v.id ≠ 0
  name : v.error? .name = none
  untitled : v.title? = none
  tree : v.error? .tree = none
  below : v.isTop = false

/-- How a walk ends at a window that it does not go past. -/
inductive Ends (v : Window) : Walk → Prop where
  | zero (hid : v.id = 0) : Ends v {}
  | noName {text : String} (hid : v.id ≠ 0) (hname : v.error? .name = some text) :
      Ends v { calls := [.query .name v.id], failed := some ⟨v.id, text⟩ }
  | noClass {title text : String} (hid : v.id ≠ 0) (hname : v.error? .name = none)
      (ht : v.title? = some title) (hclass : v.error? .className = some text) :
      Ends v { calls := [.query .name v.id, .query .className v.id], failed := some ⟨v.id, text⟩ }
  | named {title : String} (hid : v.id ≠ 0) (hname : v.error? .name = none)
      (ht : v.title? = some title) (hclass : v.error? .className = none) :
      Ends v
        { found := ⟨some title, v.classText?⟩
          calls := [.query .name v.id, .query .className v.id] }
  | noTree {text : String} (hid : v.id ≠ 0) (hname : v.error? .name = none)
      (ht : v.title? = none) (htree : v.error? .tree = some text) :
      Ends v { calls := [.query .name v.id, .query .tree v.id], failed := some ⟨v.id, text⟩ }
  | top (hid : v.id ≠ 0) (hname : v.error? .name = none) (ht : v.title? = none)
      (htree : v.error? .tree = none) (htop : v.isTop = true) :
      Ends v { calls := [.query .name v.id, .query .tree v.id] }

theorem ends_or_passed (v : Window) : (∃ w, v.Ends w) ∨ v.Passed := by
  by_cases hid : v.id = 0
  · exact .inl ⟨_, .zero hid⟩
  cases hname : v.error? .name with
  | some text => exact .inl ⟨_, .noName hid hname⟩
  | none =>
    cases ht : v.title? with
    | some title =>
      cases hclass : v.error? .className with
      | some text => exact .inl ⟨_, .noClass hid hname ht hclass⟩
      | none => exact .inl ⟨_, .named hid hname ht hclass⟩
    | none =>
      cases htree : v.error? .tree with
      | some text => exact .inl ⟨_, .noTree hid hname ht htree⟩
      | none =>
        cases htop : v.isTop with
        | true => exact .inl ⟨_, .top hid hname ht htree htop⟩
        | false => exact .inr ⟨hid, hname, ht, htree, htop⟩

theorem Ends.not_passed (h : v.Ends w) : ¬v.Passed := by
  intro hpassed
  cases h with
  | zero hid => exact hpassed.nonzero hid
  | noName _ hname => cases hpassed.name.symm.trans hname
  | noClass _ _ ht _ | named _ _ ht _ => cases hpassed.untitled.symm.trans ht
  | noTree _ _ _ htree => cases hpassed.tree.symm.trans htree
  | top _ _ _ _ htop => cases hpassed.below.symm.trans htop

end Window

namespace Display

open Relation (TransGen ReflTransGen)

variable {d : Display} {x : Option Int} {w w' : Walk} {id a b : Int} {n : Nat}

/-- The end of a walk from a window, or from nowhere, if it has one. -/
inductive WalksTo (d : Display) : Option Int → Walk → Prop where
  | nowhere : WalksTo d none {}
  | ends {id : Int} {w : Walk} (h : (d.window id).Ends w) : WalksTo d (some id) w
  | up {id : Int} {w : Walk} (h : (d.window id).Passed) (hw : WalksTo d (d.window id).parent w) :
      WalksTo d (some id) (w.after [.query .name id, .query .tree id])

section Steps

theorem walkFrom_of_ends (h : (d.window id).Ends w) (n : Nat) :
    d.walkFrom (n + 1) (some id) = w := by
  have hsame := d.window_id id
  cases h with
  | zero hid => simp [walkFrom, hsame ▸ hid]
  | noName hid hname =>
    rw [hsame] at hid ⊢
    simp [walkFrom, hid, hname]
  | noClass hid hname ht hclass =>
    rw [hsame] at hid ⊢
    simp [walkFrom, hid, hname, ht, hclass]
  | named hid hname ht hclass =>
    rw [hsame] at hid ⊢
    simp [walkFrom, hid, hname, ht, hclass]
  | noTree hid hname ht htree =>
    rw [hsame] at hid ⊢
    simp [walkFrom, hid, hname, ht, htree]
  | top hid hname ht htree htop =>
    rw [hsame] at hid ⊢
    simp [walkFrom, hid, hname, ht, htree, htop]

theorem walkFrom_of_passed (h : (d.window id).Passed) (n : Nat) :
    d.walkFrom (n + 1) (some id) =
      (d.walkFrom n (d.window id).parent).after [.query .name id, .query .tree id] := by
  have hid : id ≠ 0 := d.window_id id ▸ h.nonzero
  simp [walkFrom, hid, h.name, h.untitled, h.tree, h.below]

theorem walkFrom_none (d : Display) (n : Nat) : d.walkFrom n none = {} := by
  cases n <;> rfl

theorem WalksTo.walkFrom_eq (h : d.WalksTo x w) : ∃ m, ∀ n, d.walkFrom (m + n) x = w := by
  induction h with
  | nowhere => exact ⟨0, fun n => d.walkFrom_none _⟩
  | ends h =>
    refine ⟨1, fun n => ?_⟩
    rw [Nat.add_comm, walkFrom_of_ends h]
  | up h _ ih =>
    obtain ⟨m, hm⟩ := ih
    refine ⟨m + 1, fun n => ?_⟩
    rw [Nat.add_right_comm, walkFrom_of_passed h, hm]

theorem WalksTo.unique (h : d.WalksTo x w) (h' : d.WalksTo x w') : w = w' := by
  obtain ⟨m, hm⟩ := h.walkFrom_eq
  obtain ⟨m', hm'⟩ := h'.walkFrom_eq
  rw [← hm m', ← hm' m, Nat.add_comm]

end Steps

section Termination

/-- A walk goes on from a window to the one above it. -/
def Above (d : Display) (b a : Int) : Prop :=
  (d.window a).Passed ∧ (d.window a).parent = some b

/-- No window that a walk can come to lies above itself. -/
def Loopless (d : Display) (id : Int) : Prop :=
  ∀ a, ReflTransGen d.Above a id → ¬TransGen d.Above a a

/-- A window that was never described is the last one of any walk. -/
theorem mem_windows_of_passed (h : (d.window id).Passed) : id ∈ d.windows.map (·.id) := by
  have hbelow := h.below
  unfold window at hbelow
  cases hfind : d.windows.find? (·.id == id) with
  | none =>
    rw [hfind] at hbelow
    cases hbelow
  | some v =>
    have hv : v.id = id := by simpa using List.find?_some hfind
    exact List.mem_map.mpr ⟨v, List.mem_of_find?_eq_some hfind, hv⟩

theorem walksTo_walkFrom (hloopless : d.Loopless id) (seen : List Int) (hnodup : seen.Nodup)
    (hseen : ∀ s ∈ seen, s ∈ d.windows.map (·.id) ∧ TransGen d.Above id s)
    (hn : d.windows.length < seen.length + n) : d.WalksTo (some id) (d.walkFrom n (some id)) := by
  -- the windows gone past are described and differ, so the steps outnumber those that are left
  induction n generalizing id seen with
  | zero =>
    have hle : seen.length ≤ (d.windows.map (·.id)).length :=
      (hnodup.subperm fun s hs => (hseen s hs).1).length_le
    rw [List.length_map] at hle
    omega
  | succ n ih =>
    rcases (d.window id).ends_or_passed with ⟨w, h⟩ | h
    · rw [walkFrom_of_ends h]
      exact .ends h
    · rw [walkFrom_of_passed h]
      refine .up h ?_
      cases hparent : (d.window id).parent with
      | none =>
        rw [walkFrom_none]
        exact .nowhere
      | some b =>
        have hstep : d.Above b id := ⟨h, hparent⟩
        have hnew : id ∉ seen := by
          intro hmem
          exact hloopless id .refl (hseen id hmem).2
        refine ih ?_ (id :: seen) ?_ ?_ ?_
        · intro a ha
          exact hloopless a (ha.tail hstep)
        · exact List.nodup_cons.mpr ⟨hnew, hnodup⟩
        · intro s hs
          rcases List.mem_cons.mp hs with rfl | hs
          · exact ⟨mem_windows_of_passed h, .single hstep⟩
          · exact ⟨(hseen s hs).1, .head hstep (hseen s hs).2⟩
        · rw [List.length_cons]
          omega

theorem walksTo_walk (h : d.Loopless id) : d.WalksTo (some id) (d.walk id) :=
  walksTo_walkFrom h [] List.nodup_nil (by simp) (by simp)

theorem WalksTo.acc (h : d.WalksTo x w) : ∀ id ∈ x, Acc d.Above id := by
  induction h with
  | nowhere => simp
  | ends h =>
    rintro id ⟨⟩
    exact .intro _ fun b hb => absurd hb.1 h.not_passed
  | up _ _ ih =>
    rintro id ⟨⟩
    exact .intro _ fun b hb => ih b hb.2

theorem loopless_of_acc (h : Acc d.Above id) : d.Loopless id := by
  intro a ha
  have hacc : Acc (TransGen d.Above) a := by
    rcases Relation.reflTransGen_iff_eq_or_transGen.mp ha with rfl | ha
    · exact h.transGen
    · exact h.transGen.inv ha
  clear ha
  induction hacc with
  | intro a _ ih => exact fun hloop => ih a hloop hloop

theorem WalksTo.walk_eq (h : d.WalksTo (some id) w) : d.walk id = w := by
  have hloopless := loopless_of_acc (h.acc id rfl)
  exact (walksTo_walk hloopless).unique h

theorem walkFrom_found (d : Display) (n : Nat) (x : Option Int) :
    d.WalksTo x (d.walkFrom n x) ∨ (d.walkFrom n x).found = {} := by
  induction n generalizing x with
  | zero => exact .inr rfl
  | succ n ih =>
    cases x with
    | none => exact .inr rfl
    | some id =>
      rcases (d.window id).ends_or_passed with ⟨w, h⟩ | h
      · rw [walkFrom_of_ends h]
        exact .inl (.ends h)
      · rw [walkFrom_of_passed h]
        rcases ih (d.window id).parent with hw | hfound
        · exact .inl (.up h hw)
        · exact .inr hfound

theorem walk_cases (d : Display) (id : Int) : d.WalksTo (some id) (d.walk id) ∨
    (∀ w, ¬d.WalksTo (some id) w) ∧ (d.walk id).found = {} := by
  by_cases h : ∃ w, d.WalksTo (some id) w
  · obtain ⟨w, hw⟩ := h
    rw [hw.walk_eq]
    exact .inl hw
  · have hnever : ∀ w, ¬d.WalksTo (some id) w := fun w hw => h ⟨w, hw⟩
    exact .inr ⟨hnever, (walkFrom_found d _ _).resolve_left (hnever _)⟩

end Termination

end Display

end JogShuttle
