import JogShuttle.Proofs.Display.Memory

/-!
# Titles and classes of windows

Two displays may differ in what their windows tell of their classes. The titles that are looked up at
both are the same as long as the same walks get an answer about the class. A walk that gets none loses
the title as well.
-/

set_option autoImplicit false

namespace JogShuttle

variable {d d' e : Display} {ds ds' : List Display} {ms ms' : List Moment} {x : Option Int}
variable {v v' : Window} {w w' : Walk} {id : Int}

/-- Windows that differ at most in what they tell of their class: one, none, or no answer. -/
structure Window.SameButClass (v v' : Window) : Prop where
  id : v.id = v'.id
  name : v.name = v'.name
  parent : v.parent = v'.parent
  root : v.root = v'.root
  error : ∀ q, q ≠ .className → v.error? q = v'.error? q

namespace Window.SameButClass

theorem refl (v : Window) : v.SameButClass v := ⟨rfl, rfl, rfl, rfl, fun _ _ => rfl⟩

theorem symm (h : v.SameButClass v') : v'.SameButClass v :=
  ⟨h.id.symm, h.name.symm, h.parent.symm, h.root.symm, fun q hq => (h.error q hq).symm⟩

theorem error_name_eq (h : v.SameButClass v') : v.error? .name = v'.error? .name :=
  h.error .name (by decide)

theorem error_tree_eq (h : v.SameButClass v') : v.error? .tree = v'.error? .tree :=
  h.error .tree (by decide)

theorem title?_eq (h : v.SameButClass v') : v.title? = v'.title? := by
  rw [title?, title?, h.name]

theorem isTop_eq (h : v.SameButClass v') : v.isTop = v'.isTop := by
  rw [isTop, isTop, h.root, h.id]

theorem passed (h : v.SameButClass v') (hv : v.Passed) : v'.Passed :=
  ⟨h.id ▸ hv.nonzero, h.error_name_eq ▸ hv.name, h.title?_eq ▸ hv.untitled,
    h.error_tree_eq ▸ hv.tree, h.isTop_eq ▸ hv.below⟩

end Window.SameButClass

/-- Displays whose windows differ at most in what they tell of their classes. -/
structure Display.SameButClasses (d d' : Display) : Prop where
  focus : d.focus = d'.focus
  window : ∀ id, (d.window id).SameButClass (d'.window id)

/-- The same happens, but for what windows that are described anew tell of their classes. -/
inductive Moment.SameButClasses : Moment → Moment → Prop where
  | focus (id : Int) : SameButClasses (.focus id) (.focus id)
  | define {v v' : Window} (h : v.SameButClass v') : SameButClasses (.define v) (.define v')
  | look : SameButClasses .look .look

/-- The walk ends at a window that does not answer about its class. -/
def Walk.ClassRefused (w : Walk) : Prop :=
  ∃ e ∈ w.failed, Call.query .className e.window ∈ w.calls

instance (w : Walk) : Decidable w.ClassRefused :=
  match h : w.failed with
  | none => isFalse (by simp [Walk.ClassRefused, h])
  | some e =>
    decidable_of_iff (Call.query .className e.window ∈ w.calls) (by simp [Walk.ClassRefused, h])

theorem Walk.classRefused_after :
    (w.after [.query .name id, .query .tree id]).ClassRefused ↔ w.ClassRefused := by
  simp [ClassRefused, after]

/-- Walks end at both windows, with the same title if the class is told at both. -/
theorem Window.SameButClass.ends (h : v.SameButClass v') (hw : v.Ends w) :
    ∃ w', v'.Ends w' ∧ ((w.ClassRefused ↔ w'.ClassRefused) → w.found.title = w'.found.title) := by
  have hid := h.id
  cases hw with
  | zero hzero => exact ⟨_, .zero (hid ▸ hzero), fun _ => rfl⟩
  | noName hne hname =>
    exact ⟨_, .noName (hid ▸ hne) (h.error_name_eq.symm.trans hname), fun _ => rfl⟩
  | noClass hne hname ht _ =>
    have hname' := h.error_name_eq.symm.trans hname
    have ht' := h.title?_eq.symm.trans ht
    cases hclass' : v'.error? .className with
    | some text => exact ⟨_, .noClass (hid ▸ hne) hname' ht' hclass', fun _ => rfl⟩
    | none =>
      refine ⟨_, .named (hid ▸ hne) hname' ht' hclass', fun hsame => ?_⟩
      obtain ⟨_, hfailed, -⟩ := hsame.mp ⟨_, rfl, by simp⟩
      cases hfailed
  | named hne hname ht _ =>
    have hname' := h.error_name_eq.symm.trans hname
    have ht' := h.title?_eq.symm.trans ht
    cases hclass' : v'.error? .className with
    | some text =>
      refine ⟨_, .noClass (hid ▸ hne) hname' ht' hclass', fun hsame => ?_⟩
      obtain ⟨_, hfailed, -⟩ := hsame.mpr ⟨_, rfl, by simp⟩
      cases hfailed
    | none => exact ⟨_, .named (hid ▸ hne) hname' ht' hclass', fun _ => rfl⟩
  | noTree hne hname ht htree =>
    exact ⟨_, .noTree (hid ▸ hne) (h.error_name_eq.symm.trans hname) (h.title?_eq.symm.trans ht)
      (h.error_tree_eq.symm.trans htree), fun _ => rfl⟩
  | top hne hname ht htree htop =>
    exact ⟨_, .top (hid ▸ hne) (h.error_name_eq.symm.trans hname) (h.title?_eq.symm.trans ht)
      (h.error_tree_eq.symm.trans htree) (h.isTop_eq.symm.trans htop), fun _ => rfl⟩

theorem Window.Ends.found_of_failed (h : v.Ends w) (hfailed : w.failed ≠ none) : w.found = {} := by
  cases h with
  | named => exact absurd rfl hfailed
  | zero | noName | noClass | noTree | top => rfl

namespace Display

section Walks

theorem WalksTo.found_of_failed (h : d.WalksTo x w) (hfailed : w.failed ≠ none) : w.found = {} := by
  induction h with
  | nowhere => rfl
  | ends h => exact h.found_of_failed hfailed
  | up _ _ ih => exact ih hfailed

theorem WalksTo.exists_of_sameButClasses (hw : d.WalksTo x w) (h : d.SameButClasses d') :
    ∃ w', d'.WalksTo x w' ∧
      ((w.ClassRefused ↔ w'.ClassRefused) → w.found.title = w'.found.title) := by
  induction hw with
  | nowhere => exact ⟨_, .nowhere, fun _ => rfl⟩
  | @ends id w hends =>
    obtain ⟨w', hends', htitle⟩ := (h.window id).ends hends
    exact ⟨w', .ends hends', htitle⟩
  | @up id w hpassed _ ih =>
    obtain ⟨w', hw', htitle⟩ := ih
    rw [(h.window id).parent] at hw'
    refine ⟨_, .up ((h.window id).passed hpassed) hw', fun hsame => ?_⟩
    rw [Walk.classRefused_after, Walk.classRefused_after] at hsame
    exact htitle hsame

theorem SameButClasses.symm (h : d.SameButClasses d') : d'.SameButClasses d :=
  ⟨h.focus.symm, fun id => (h.window id).symm⟩

theorem SameButClasses.walk_title_eq (h : d.SameButClasses d')
    (hsame : (d.walk id).ClassRefused ↔ (d'.walk id).ClassRefused) :
    (d.walk id).found.title = (d'.walk id).found.title := by
  rcases walk_cases d id with hwalk | ⟨hnever, hfound⟩
  · obtain ⟨w', hw', htitle⟩ := hwalk.exists_of_sameButClasses h
    rw [← hw'.walk_eq] at htitle
    exact htitle hsame
  · rcases walk_cases d' id with hwalk | ⟨-, hfound'⟩
    · obtain ⟨w, hw, -⟩ := hwalk.exists_of_sameButClasses h.symm
      exact absurd hw (hnever w)
    · rw [hfound, hfound']

theorem walk_found_of_classRefused (h : (d.walk id).ClassRefused) : (d.walk id).found = {} := by
  rcases walk_cases d id with hwalk | ⟨-, hfound⟩
  · obtain ⟨a, hfailed, -⟩ := h
    exact hwalk.found_of_failed (by simp [Option.mem_def.mp hfailed])
  · exact hfound

theorem SameButClasses.focusWalk_title_eq (h : d.SameButClasses d')
    (hsame : d.focusWalk.ClassRefused ↔ d'.focusWalk.ClassRefused) :
    d.focusWalk.found.title = d'.focusWalk.found.title := by
  unfold focusWalk at hsame ⊢
  rw [← h.focus] at hsame ⊢
  split
  · rename_i hwindow
    rw [if_pos hwindow, if_pos hwindow] at hsame
    exact h.walk_title_eq hsame
  · rfl

theorem focusWalk_found_of_classRefused (h : d.focusWalk.ClassRefused) :
    d.focusWalk.found = {} := by
  unfold focusWalk at h ⊢
  split
  · rename_i hwindow
    rw [if_pos hwindow] at h
    exact walk_found_of_classRefused h
  · rfl

end Walks

section Histories

theorem SameButClasses.change {m m' : Moment} (h : d.SameButClasses d')
    (hm : m.SameButClasses m') : (d.change m).SameButClasses (d'.change m') := by
  cases hm with
  | focus id => exact ⟨rfl, h.window⟩
  | look => exact h
  | @define v v' hv =>
    refine ⟨h.focus, fun id => ?_⟩
    unfold Display.change
    rw [window_define, window_define, hv.id]
    split
    · exact hv
    · exact h.window id

theorem SameButClasses.looked (h : d.SameButClasses d')
    (hms : List.Forall₂ Moment.SameButClasses ms ms') :
    List.Forall₂ SameButClasses (d.looked ms) (d'.looked ms') := by
  induction hms generalizing d d' with
  | nil => exact .nil
  | cons hm _ ih =>
    have hnext := ih (h.change hm)
    cases hm with
    | look => exact .cons h hnext
    | focus id => exact hnext
    | define hv => exact hnext

theorem SameButClasses.map_focus (h : List.Forall₂ SameButClasses ds ds') :
    ds.map (·.focus) = ds'.map (·.focus) := by
  induction h with
  | nil => rfl
  | cons hd _ ih => rw [List.map_cons, List.map_cons, hd.focus, ih]

theorem LatestTurn.exists_of_sameButClasses (hds : List.Forall₂ SameButClasses ds ds')
    (h : LatestTurn ds e) : ∃ e', LatestTurn ds' e' ∧ e.SameButClasses e' := by
  obtain ⟨before, after, rfl, hbefore, hafter⟩ := h
  have htake := (List.forall₂_take_append ds' before (e :: after) hds.flip).flip
  have hdrop := List.forall₂_drop_append ds' before (e :: after) hds.flip
  obtain ⟨e', after', he, hrest, hsplit⟩ := List.forall₂_cons_right_iff.mp hdrop
  have hlast := congrArg List.getLast? (SameButClasses.map_focus htake)
  rw [List.getLast?_map, List.getLast?_map] at hlast
  refine ⟨e', ⟨ds'.take before.length, after', ?_, ?_, ?_⟩, he⟩
  · rw [← hsplit, List.take_append_drop]
  · intro p' hp' hsame
    rw [Option.mem_def.mp hp', Option.map_some] at hlast
    obtain ⟨p, hp, hfocus⟩ := Option.map_eq_some_iff.mp hlast
    exact hbefore p hp (hfocus.trans (hsame.trans he.focus.symm))
  · intro g' hg'
    have hmem : g'.focus ∈ after.map (·.focus) := by
      rw [SameButClasses.map_focus hrest.flip]
      exact List.mem_map_of_mem hg'
    obtain ⟨g, hg, hfocus⟩ := List.mem_map.mp hmem
    rw [← hfocus, hafter g hg, he.focus]

theorem forall₂_append_look (h : List.Forall₂ Moment.SameButClasses ms ms') :
    List.Forall₂ Moment.SameButClasses (ms ++ [.look]) (ms' ++ [.look]) :=
  List.rel_append h (.cons .look .nil)

theorem lookAfter_focused_of_latestTurn (h : LatestTurn (d.looked (ms ++ [.look])) e) :
    (d.lookAfter ms).focus.focused = e.focusWalk.found := by
  rw [← h.focused_eq, looked_append_look, Focus.remembered_append]
  rfl

end Histories

/-- Over displays and whatever happens at them that differ only in what windows tell of their
classes, the walks that two looks tell of are taken at the same time. The looks tell the same title
if these walks agree in whether they were refused a class, and a walk that was tells nothing. -/
theorem title_independent_of_told_classes (hd : d.SameButClasses d')
    (hms : List.Forall₂ Moment.SameButClasses ms ms') :
    ∃ e e', LatestTurn (d.looked (ms ++ [.look])) e ∧
      LatestTurn (d'.looked (ms' ++ [.look])) e' ∧ e.SameButClasses e' ∧
      ((e.focusWalk.ClassRefused ↔ e'.focusWalk.ClassRefused) →
        (d.lookAfter ms).focus.focused.title = (d'.lookAfter ms').focus.focused.title) ∧
      (e.focusWalk.ClassRefused → (d.lookAfter ms).focus.focused = ⟨none, none⟩) ∧
      (e'.focusWalk.ClassRefused → (d'.lookAfter ms').focus.focused = ⟨none, none⟩) := by
  have hlooked := hd.looked (forall₂_append_look hms)
  obtain ⟨e, he⟩ := exists_latestTurn (d.looked (ms ++ [.look])) (by simp [looked_append_look])
  obtain ⟨e', he', hsame⟩ := he.exists_of_sameButClasses hlooked
  rw [lookAfter_focused_of_latestTurn he, lookAfter_focused_of_latestTurn he']
  exact ⟨e, e', he, he', hsame, hsame.focusWalk_title_eq, focusWalk_found_of_classRefused,
    focusWalk_found_of_classRefused⟩

theorem sameButClasses_of_windows (hfocus : d.focus = d'.focus)
    (h : List.Forall₂ Window.SameButClass d.windows d'.windows) : d.SameButClasses d' := by
  refine ⟨hfocus, fun id => ?_⟩
  unfold window
  generalize d.windows = vs at h ⊢
  generalize d'.windows = vs' at h ⊢
  induction h with
  | nil => exact .refl _
  | cons hv _ ih =>
    rw [List.find?_cons, List.find?_cons, hv.id]
    split
    · exact hv
    · exact ih

/-- The focus is on a named window that may have a class or refuse to tell it. -/
def namedDisplay (className : List String) (errors : List QueryError) : Display where
  windows := [{ id := 2, name := some (.text "a.c"), className, root := some 2, errors }]
  focus := 2

def refusedClass : QueryError := ⟨.className, "BadWindow"⟩

theorem namedDisplay_sameButClasses : (namedDisplay ["emacs", "Emacs"] []).SameButClasses
    (namedDisplay [] [refusedClass]) := by
  refine sameButClasses_of_windows rfl (.cons ⟨rfl, rfl, rfl, rfl, fun q hq => ?_⟩ .nil)
  cases q with
  | className => exact absurd rfl hq
  | name | tree => rfl

/-- A window that comes up later and gets the focus. -/
def laterWindow (className : List String) : Window :=
  { id := 3, name := some (.text "b.c"), className, parent := some 2, root := some 2 }

def laterMoments (className : List String) : List Moment :=
  [.look, .define (laterWindow className), .focus 3]

theorem laterMoments_sameButClasses :
    List.Forall₂ Moment.SameButClasses (laterMoments ["vim", "Vim"]) (laterMoments []) :=
  .cons .look (.cons (.define ⟨rfl, rfl, rfl, rfl, fun _ _ => rfl⟩)
    (.cons (.focus 3) .nil))

/-- Once the focus has moved on, the titles agree again. -/
theorem title_independent_of_told_classes_later :
    (namedDisplay ["emacs", "Emacs"] []).SameButClasses (namedDisplay [] [refusedClass]) ∧
    List.Forall₂ Moment.SameButClasses (laterMoments ["vim", "Vim"]) (laterMoments []) ∧
    (∃ e e',
      LatestTurn ((namedDisplay ["emacs", "Emacs"] []).looked
        (laterMoments ["vim", "Vim"] ++ [.look])) e ∧
      LatestTurn ((namedDisplay [] [refusedClass]).looked (laterMoments [] ++ [.look])) e' ∧
      ((e.focusWalk.ClassRefused ↔ e'.focusWalk.ClassRefused) →
        ((namedDisplay ["emacs", "Emacs"] []).lookAfter
            (laterMoments ["vim", "Vim"])).focus.focused.title =
          ((namedDisplay [] [refusedClass]).lookAfter (laterMoments [])).focus.focused.title)) ∧
    ((namedDisplay [] [refusedClass]).lookAfter (laterMoments [])).focus.focused =
      ⟨some "b.c", none⟩ := by
  obtain ⟨e, e', he, he', -, htitle, -⟩ :=
    title_independent_of_told_classes namedDisplay_sameButClasses laterMoments_sameButClasses
  exact ⟨namedDisplay_sameButClasses, laterMoments_sameButClasses, ⟨e, e', he, he', htitle⟩,
    by decide +kernel⟩

/-- A class that is refused takes the title with it. -/
theorem title_lost_with_refused_class :
    (namedDisplay ["emacs", "Emacs"] []).SameButClasses (namedDisplay [] [refusedClass]) ∧
    ((namedDisplay ["emacs", "Emacs"] []).lookAfter []).focus.focused.title = some "a.c" ∧
    ((namedDisplay [] [refusedClass]).lookAfter []).focus.focused.title = none :=
  ⟨namedDisplay_sameButClasses, by decide +kernel, by decide +kernel⟩

end Display

end JogShuttle
