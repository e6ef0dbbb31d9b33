import JogShuttle.Proofs.Display.Walk

/-!
# What a walk finds

In a tree of windows without cycles every walk ends. It finds the title and the class of the first
named window on the way up, unless something is in its way: a query that fails, a window that is no
window, or the top of the tree. Then it finds nothing, and it reports a failure exactly if there was
one.
-/

set_option autoImplicit false

namespace JogShuttle

/-- A window that ends a walk with its title. -/
structure Window.Named (v : Window) (title : String) : Prop where
  nonzero : v.id ≠ 0
  name : v.error? .name = none
  titled : v.title? = some title
  className : v.error? .className = none

theorem Window.title?_eq_some_iff {w : Window} {title : String} :
    w.title? = some title ↔ (∃ n ∈ w.name, n.title = title) ∧ title ≠ "" := by
  unfold title?
  cases w.name with
  | none => simp
  | some n =>
    simp only [Option.map_some, Option.mem_def, Option.some.injEq, exists_eq_left',
      ite_eq_iff, reduceCtorEq, and_false, false_or, Bool.not_eq_true, String.isEmpty_eq_false_iff]
    constructor
    · rintro ⟨hne, rfl⟩
      exact ⟨rfl, hne⟩
    · rintro ⟨rfl, hne⟩
      exact ⟨hne, rfl⟩

theorem Window.title?_eq_none_iff {w : Window} :
    w.title? = none ↔ ∀ n ∈ w.name, n.title = "" := by
  unfold title?
  cases w.name with
  | none => simp
  | some n => simp

namespace Display

open Relation (TransGen)

variable {d : Display} {x : Option Int} {w : Walk} {id a b : Int} {k : Nat} {title : String}

/-- The window that many steps above another, by what each window tells of its parent. -/
def above (d : Display) : Nat → Int → Option Int
  | 0, id => some id
  | n + 1, id => (d.window id).parent.bind (d.above n)

/-- No window lies above itself. -/
def Acyclic (d : Display) : Prop := ∀ id n, d.above (n + 1) id ≠ some id

/-- The first window on the way up whose name has any text, and its place on the way. -/
structure FirstNamed (d : Display) (id : Int) (k : Nat) (a : Int) (title : String) : Prop where
  place : d.above k id = some a
  titled : ∃ n ∈ (d.window a).name, n.title = title
  nonempty : title ≠ ""
  first : ∀ i < k, ∀ b ∈ d.above i id, ∀ n ∈ (d.window b).name, n.title = ""

/-- Nothing is in the way to a window: each one up to it is a window that tells its name, those below
it tell where in the tree they are and are not the top, and the window itself tells its class. -/
structure Unhindered (d : Display) (id : Int) (k : Nat) : Prop where
  nonzero : ∀ i ≤ k, ∀ b ∈ d.above i id, b ≠ 0
  name : ∀ i ≤ k, ∀ b ∈ d.above i id, (d.window b).error? .name = none
  tree : ∀ i < k, ∀ b ∈ d.above i id, (d.window b).error? .tree = none
  className : ∀ b ∈ d.above k id, (d.window b).error? .className = none
  root : ∀ i < k, ∀ b ∈ d.above i id,
    (d.window b).root ≠ none ∧ (d.window b).root ≠ some b

section Acyclic

theorem exists_above_of_transGen (h : TransGen d.Above b a) : ∃ n, d.above (n + 1) a = some b := by
  induction h with
  | single hstep => exact ⟨0, by simp [above, hstep.2]⟩
  | tail _ hstep ih =>
    obtain ⟨n, hn⟩ := ih
    exact ⟨n + 1, by rw [above, hstep.2, Option.bind_some, hn]⟩

theorem Acyclic.loopless (hd : d.Acyclic) (id : Int) : d.Loopless id := by
  intro a _ hloop
  obtain ⟨n, hn⟩ := exists_above_of_transGen hloop
  exact hd a n hn

end Acyclic

section Found

/-- A walk comes to a window, past all those below it. -/
def Leads (d : Display) (id : Int) (k : Nat) (a : Int) : Prop :=
  d.above k id = some a ∧ ∀ i < k, ∀ b ∈ d.above i id, (d.window b).Passed

theorem window_id_ne_zero_iff : (d.window b).id ≠ 0 ↔ b ≠ 0 := by
  rw [window_id]

theorem isTop_eq_false_iff : (d.window b).isTop = false ↔
    (d.window b).root ≠ none ∧ (d.window b).root ≠ some b := by
  rw [Window.isTop, window_id]
  cases (d.window b).root <;> simp

/-- The way is clear if each window below is gone past and the window itself answers. -/
theorem leads_named_iff : d.FirstNamed id k a title ∧ d.Unhindered id k ↔
    d.Leads id k a ∧ (d.window a).Named title := by
  constructor
  · rintro ⟨hfirst, hclear⟩
    refine ⟨⟨hfirst.place, ?_⟩, ?_⟩
    · intro i hi b hb
      exact ⟨window_id_ne_zero_iff.mpr (hclear.nonzero i (Nat.le_of_lt hi) b hb),
        hclear.name i (Nat.le_of_lt hi) b hb,
        Window.title?_eq_none_iff.mpr (hfirst.first i hi b hb), hclear.tree i hi b hb,
        isTop_eq_false_iff.mpr (hclear.root i hi b hb)⟩
    · exact ⟨window_id_ne_zero_iff.mpr (hclear.nonzero k (Nat.le_refl k) a hfirst.place),
        hclear.name k (Nat.le_refl k) a hfirst.place,
        Window.title?_eq_some_iff.mpr ⟨hfirst.titled, hfirst.nonempty⟩,
        hclear.className a hfirst.place⟩
  · rintro ⟨⟨hplace, hbelow⟩, hnamed⟩
    obtain ⟨htitled, hnonempty⟩ := Window.title?_eq_some_iff.mp hnamed.titled
    have hat : ∀ b ∈ d.above k id, b = a := by
      intro b hb
      exact Option.some.inj (hb.symm.trans hplace)
    refine ⟨⟨hplace, htitled, hnonempty, ?_⟩, ⟨?_, ?_, ?_, ?_, ?_⟩⟩
    · intro i hi b hb
      exact Window.title?_eq_none_iff.mp (hbelow i hi b hb).untitled
    · intro i hi b hb
      rw [← window_id_ne_zero_iff (d := d)]
      rcases Nat.lt_or_eq_of_le hi with hi | rfl
      · exact (hbelow i hi b hb).nonzero
      · rw [hat b hb]
        exact hnamed.nonzero
    · intro i hi b hb
      rcases Nat.lt_or_eq_of_le hi with hi | rfl
      · exact (hbelow i hi b hb).name
      · rw [hat b hb]
        exact hnamed.name
    · intro i hi b hb
      exact (hbelow i hi b hb).tree
    · intro b hb
      rw [hat b hb]
      exact hnamed.className
    · intro i hi b hb
      exact isTop_eq_false_iff.mp (hbelow i hi b hb).below

theorem leads_succ_iff : d.Leads id (k + 1) a ↔
    (d.window id).Passed ∧ ∃ p, (d.window id).parent = some p ∧ d.Leads p k a := by
  unfold Leads
  rw [above, Option.bind_eq_some_iff, Nat.forall_lt_succ_left]
  constructor
  · rintro ⟨⟨p, hp, hplace⟩, hid, hbelow⟩
    refine ⟨hid id rfl, p, hp, hplace, ?_⟩
    intro i hi b hb
    exact hbelow i hi b (by rw [above, hp]; exact hb)
  · rintro ⟨hpassed, p, hp, hplace, hbelow⟩
    refine ⟨⟨p, hp, hplace⟩, ?_, ?_⟩
    · rintro b ⟨⟩
      exact hpassed
    · intro i hi b hb
      rw [above, hp] at hb
      exact hbelow i hi b hb

theorem exists_walksTo_of_leads (h : d.Leads id k a) (hw : d.WalksTo (some a) w) :
    ∃ w', d.WalksTo (some id) w' ∧ w'.found = w.found := by
  induction k generalizing id with
  | zero =>
    cases h.1
    exact ⟨w, hw, rfl⟩
  | succ k ih =>
    obtain ⟨hpassed, p, hp, hleads⟩ := leads_succ_iff.mp h
    obtain ⟨w', hw', hfound⟩ := ih hleads
    rw [← hp] at hw'
    exact ⟨_, .up hpassed hw', hfound⟩

theorem walksTo_of_named (h : (d.window a).Named title) :
    ∃ w, d.WalksTo (some a) w ∧ w.found = ⟨some title, (d.window a).classText?⟩ :=
  ⟨_, .ends (.named h.nonzero h.name h.titled h.className), rfl⟩

theorem WalksTo.found_cases (h : d.WalksTo x w) : w.found = {} ∨
    ∃ id ∈ x, ∃ k a title, d.Leads id k a ∧ (d.window a).Named title := by
  induction h with
  | nowhere => exact .inl rfl
  | @ends id w h =>
    cases h with
    | @named title hid hname ht hclass =>
      exact .inr ⟨id, rfl, 0, id, title, ⟨rfl, by simp⟩, hid, hname, ht, hclass⟩
    | zero | noName | noClass | noTree | top => exact .inl rfl
  | @up id w hpassed _ ih =>
    rcases ih with hnothing | ⟨p, hp, k, a, title, hleads, hnamed⟩
    · exact .inl hnothing
    · exact .inr ⟨id, rfl, k + 1, a, title, leads_succ_iff.mpr ⟨hpassed, p, hp, hleads⟩, hnamed⟩

end Found

section Reports

theorem WalksTo.failed_eq_some_iff (h : d.WalksTo x w) {text : String} :
    w.failed = some ⟨a, text⟩ ↔
      ∃ q, Call.query q a ∈ w.calls ∧ (d.window a).error? q = some text := by
  induction h with
  | nowhere => simp
  | @ends id w h =>
    have hid := d.window_id id
    cases h with
    | zero => simp
    | noName | noClass | named | noTree | top => grind
  | up hpassed _ ih =>
    -- no query fails on a window that is gone past
    have hname := hpassed.name
    have htree := hpassed.tree
    simp only [Walk.after, List.cons_append, List.nil_append, List.mem_cons]
    grind

theorem WalksTo.reports_eq (h : d.WalksTo x w) {q : Query} {text : String}
    (hq : .query q a ∈ w.calls) (hfails : (d.window a).error? q = some text) :
    w.reports = [WalkError.report ⟨a, text⟩] := by
  rw [Walk.reports, h.failed_eq_some_iff.mpr ⟨q, hq, hfails⟩]
  rfl

theorem WalksTo.reports_eq_nil (h : d.WalksTo x w)
    (hall : ∀ q a, .query q a ∈ w.calls → (d.window a).error? q = none) : w.reports = [] := by
  cases hfailed : w.failed with
  | none =>
    rw [Walk.reports, hfailed]
    rfl
  | some e =>
    obtain ⟨q, hq, hfails⟩ := h.failed_eq_some_iff.mp hfailed
    cases (hall q _ hq).symm.trans hfails

end Reports

/-- In a tree without cycles a walk from any window ends, in one way. It finds the title and the
class of the first named window on the way up if nothing is in the way, be that window the root or
not, and otherwise nothing. If a query fails this is reported once, and nothing is reported else. -/
theorem walk_finds_first_named (d : Display) (hd : d.Acyclic) (id : Int) :
    (∀ w, d.WalksTo (some id) w ↔ w = d.walk id) ∧
    (∀ k a title, d.FirstNamed id k a title → d.Unhindered id k →
      (d.walk id).found = ⟨some title, (d.window a).classText?⟩) ∧
    ((∀ k a title, d.FirstNamed id k a title → ¬d.Unhindered id k) →
      (d.walk id).found = ⟨none, none⟩) ∧
    (∀ q a text, .query q a ∈ (d.walk id).calls → (d.window a).error? q = some text →
      (d.walk id).reports = [WalkError.report ⟨a, text⟩]) ∧
    ((∀ q a, .query q a ∈ (d.walk id).calls → (d.window a).error? q = none) →
      (d.walk id).reports = []) := by
  have hwalk : d.WalksTo (some id) (d.walk id) := walksTo_walk (hd.loopless id)
  refine ⟨fun w => ⟨fun h => h.unique hwalk, fun h => h ▸ hwalk⟩, ?_, ?_, ?_, ?_⟩
  · intro k a title hfirst hclear
    obtain ⟨hleads, hnamed⟩ := leads_named_iff.mp ⟨hfirst, hclear⟩
    obtain ⟨w, hw, hfound⟩ := walksTo_of_named hnamed
    obtain ⟨w', hw', hsame⟩ := exists_walksTo_of_leads hleads hw
    rw [hw'.walk_eq, hsame, hfound]
  · intro hnone
    rcases hwalk.found_cases with hnothing | ⟨_, ⟨⟩, k, a, title, hfound⟩
    · exact hnothing
    · obtain ⟨hfirst, hclear⟩ := leads_named_iff.mpr hfound
      exact absurd hclear (hnone k a title hfirst)
  · exact fun q a text hq hfails => hwalk.reports_eq hq hfails
  · exact fun hall => hwalk.reports_eq_nil hall

/-- Where every window has a greater number than its parent there are no cycles. -/
theorem acyclic_of_parent_lt (h : ∀ w ∈ d.windows, ∀ p ∈ w.parent, p < w.id) : d.Acyclic := by
  have hparent : ∀ id, ∀ p ∈ (d.window id).parent, p < id := by
    intro id p hp
    have hid := d.window_id id
    unfold window at hp hid
    cases hfind : d.windows.find? (·.id == id) with
    | none => simp [hfind] at hp
    | some w =>
      rw [hfind, Option.getD_some] at hp hid
      rw [← hid]
      exact h w (List.mem_of_find?_eq_some hfind) p hp
  have habove : ∀ n id, ∀ b ∈ d.above (n + 1) id, b < id := by
    intro n
    induction n with
    | zero =>
      intro id b hb
      obtain ⟨p, hp, ⟨⟩⟩ := Option.bind_eq_some_iff.mp hb
      exact hparent id _ hp
    | succ n ih =>
      intro id b hb
      obtain ⟨p, hp, hb⟩ := Option.bind_eq_some_iff.mp hb
      exact Int.lt_trans (ih p b hb) (hparent id p hp)
  exact fun id n hcycle => Int.lt_irrefl id (habove n id id hcycle)

/-- A named root with a named frame and a failing window on it, and a nameless child in each. -/
def desktop : Display where
  windows :=
    [{ id := 2, name := some (.text "root"), root := some 2 },
     { id := 10, name := some (.bytes [97, 46, 99]), className := ["emacs", "Emacs"],
       parent := some 2, root := some 2 },
     { id := 11, parent := some 10, root := some 2 },
     { id := 12, name := some (.text ""), parent := some 2, root := some 2 },
     { id := 13, name := some (.text "b.c"), parent := some 2, root := some 2,
       errors := [⟨.className, "BadWindow"⟩] },
     { id := 14, parent := some 13, root := some 2 }]

theorem desktop_acyclic : desktop.Acyclic := acyclic_of_parent_lt (by decide)

/-- A failing class stands in the way of a title, from the window below as well. -/
theorem not_unhindered_desktop {k : Nat} {a : Int} {title : String}
    (h : desktop.FirstNamed 14 k a title) : ¬desktop.Unhindered 14 k := by
  intro hclear
  match k with
  | 0 =>
    cases h.place
    obtain ⟨n, hn, -⟩ := h.titled
    cases hn
  | 1 => cases hclear.className 13 rfl
  | k + 2 => exact absurd (h.first 1 (by omega) 13 rfl _ rfl) (by decide)

theorem walk_finds_first_named_of_desktop :
    desktop.Acyclic ∧
    (desktop.FirstNamed 11 1 10 "a.c" ∧ desktop.Unhindered 11 1 ∧
      (desktop.walk 11).found = ⟨some "a.c", some "emacs.Emacs"⟩) ∧
    (desktop.FirstNamed 12 1 2 "root" ∧ desktop.Unhindered 12 1 ∧
      (desktop.walk 12).found = ⟨some "root", none⟩) ∧
    (desktop.walk 14).found = ⟨none, none⟩ ∧
    (desktop.walk 14).reports = [WalkError.report ⟨13, "BadWindow"⟩] := by
  have hframe : desktop.FirstNamed 11 1 10 "a.c" :=
    ⟨by decide, ⟨_, rfl, by decide +kernel⟩, by decide, by decide +kernel⟩
  have hopen : desktop.Unhindered 11 1 :=
    ⟨by decide, by decide, by decide, by decide, by decide⟩
  have hroot : desktop.FirstNamed 12 1 2 "root" :=
    ⟨by decide, ⟨_, rfl, rfl⟩, by decide, by decide +kernel⟩
  have hopen' : desktop.Unhindered 12 1 :=
    ⟨by decide, by decide, by decide, by decide, by decide⟩
  have hfails : Call.query .className 13 ∈ (desktop.walk 14).calls := by decide +kernel
  obtain ⟨-, hnone, hreports⟩ := (walk_finds_first_named desktop desktop_acyclic 14).2
  refine ⟨desktop_acyclic, ⟨hframe, hopen, ?_⟩, ⟨hroot, hopen', ?_⟩, ?_, ?_⟩
  · exact (walk_finds_first_named desktop desktop_acyclic 11).2.1 1 10 "a.c" hframe hopen
  · exact (walk_finds_first_named desktop desktop_acyclic 12).2.1 1 2 "root" hroot hopen'
  · exact hnone fun k a title h => not_unhindered_desktop h
  · exact hreports.1 .className 13 "BadWindow" hfails rfl

end Display

end JogShuttle
