import JogShuttle.Proofs.Controller.Interpretation
import JogShuttle.Proofs.Display.Inputs
import JogShuttle.Proofs.Rule.SingleSlots

/-!
# What dial and ring leave pressed

Events of dial and ring stand for slots that belong to no key, and each of these lets go of what it
presses. Reloads and windows only choose among such sequences. So from a state in which nothing is
pressed a run without key events leaves nothing pressed after any event: no symbol, and no key and
no button at the display.
-/

set_option autoImplicit false

namespace JogShuttle

open Stroke

variable {c : Controller} {s : Setup} {a : Arrival} {as bs : List Arrival}

namespace Signal

variable {signal : Signal} {timeout : Duration} {isBound : Slot → Bool} {o : Outcome} {slot : Slot}

theorem isKey_of_mem_turnTo {position : Int} (h : slot ∈ signal.turnTo position) :
    slot.isKey = false := by
  obtain ⟨d, rfl⟩ := mem_turnTo h
  rfl

theorem isKey_of_mem_ringSlots {level : Int} (h : slot ∈ signal.ringSlots level isBound) :
    slot.isKey = false := by
  unfold ringSlots levelSlots at h
  split at h
  · cases h
  · rcases List.mem_cons.mp h with rfl | h
    · rfl
    · split at h
      · rw [List.eq_of_mem_replicate h]
        rfl
      · cases h

/-- Only samples of keys stand for slots of keys. -/
theorem isKey_of_sample {x : Sample} (h : signal.sample timeout isBound x = .ok o)
    (hx : ∀ n pressed, x ≠ .key n pressed) : ∀ slot ∈ o.slots, slot.isKey = false := by
  cases x with
  | key n pressed => exact absurd rfl (hx n pressed)
  | shuttle level time =>
    cases h
    intro slot hslot
    by_cases hl : -(outerLevel : Int) ≤ level ∧ level ≤ outerLevel
    · rw [shuttle_of_inRange signal time isBound hl] at hslot
      exact isKey_of_mem_ringSlots hslot
    · rw [(shuttle_of_not_inRange signal time isBound hl).2] at hslot
      cases hslot
  | jog value time =>
    have hc := comparable_of_jog h
    by_cases hd : signal.Due timeout time
    · rw [sample, jog_of_due hc hd] at h
      cases h
      intro slot hslot
      rcases List.mem_append.mp hslot with hslot | hslot
      · exact isKey_of_mem_ringSlots hslot
      · exact isKey_of_mem_turnTo hslot
    · rw [sample, jog_of_not_due hc hd] at h
      cases h
      exact fun slot hslot => isKey_of_mem_turnTo hslot

/-- Only key events stand for slots of keys. -/
theorem isKey_of_event {e : Event} (h : signal.event timeout isBound e = .ok o)
    (he : e.type ≠ Event.typeKey) : ∀ slot ∈ o.slots, slot.isKey = false := by
  unfold event at h
  split at h
  · cases h
    exact List.forall_mem_nil _
  · next x hmeaning =>
    refine isKey_of_sample h ?_
    rintro n pressed rfl
    rw [Event.meaning, if_neg he] at hmeaning
    repeat' split at hmeaning
    all_goals cases hmeaning
  · cases h
    exact List.forall_mem_nil _

end Signal

namespace Controller

/-- The state after some events. -/
def after (c : Controller) (s : Setup) (as : List Arrival) : Controller :=
  as.foldl (fun c a => (c.handle s a.file a.window a.event).controller) c

/-- Everything done over some events. -/
def acts (c : Controller) (s : Setup) (as : List Arrival) : List Act :=
  (c.episodes s as).flatMap (·.handled.acts)

/-- The strokes sent over some events. -/
def sent (c : Controller) (s : Setup) (as : List Arrival) : List Stroke :=
  (c.acts s as).filterMap Act.stroke?

theorem sent_cons (c : Controller) (s : Setup) (a : Arrival) (as : List Arrival) :
    c.sent s (a :: as) =
      (c.handle s a.file a.window a.event).strokes ++
        (c.handle s a.file a.window a.event).controller.sent s as :=
  List.filterMap_append

theorem sent_append (c : Controller) (s : Setup) (as bs : List Arrival) :
    c.sent s (as ++ bs) = c.sent s as ++ (c.after s as).sent s bs := by
  induction as generalizing c with
  | nil => rfl
  | cons a as ih =>
    rw [List.cons_append, sent_cons, sent_cons, ih, List.append_assoc]
    rfl

/-- Handling an event changes the rules by a refresh, if at all. -/
theorem rules_handle (c : Controller) (s : Setup) (f : FileView) (w : Focused) (e : Event) :
    (c.handle s f w e).controller.rules =
      if e.isInput then (c.rules.refresh s.source f).file else c.rules := by
  unfold handle
  split
  · dsimp only
    split
    · rfl
    · exact rules_route _ s w e
  · rfl

theorem logged_traceLookup (c : Controller) (w : Focused) :
    ∃ logs : List Record, c.traceLookup w = logs.map Act.log := by
  unfold traceLookup
  split
  · exact ⟨[_], rfl⟩
  · exact ⟨[], rfl⟩

theorem uneventful_of_routeIn_stopped {w : Focused} {e : Event}
    (h : (c.routeIn s w e).stop ≠ none) : Uneventful c (c.routeIn s w e) := by
  unfold routeIn at *
  dsimp only at *
  split at h
  · exact ⟨logged_traceLookup c w, rfl⟩
  · exact absurd rfl h

theorem uneventful_of_route_stopped {w : Focused} {e : Event} (h : (c.route s w e).stop ≠ none) :
    Uneventful c (c.route s w e) := by
  unfold route at *
  split at h
  · next hcross =>
    rw [if_pos hcross]
    exact ⟨⟨[], rfl⟩, rfl⟩
  · next hcross =>
    rw [if_neg hcross]
    exact uneventful_of_routeIn_stopped h

/-- What stops an event comes before its slots, and nothing is sent. -/
theorem uneventful_of_stopped {f : FileView} {w : Focused} {e : Event}
    (h : (c.handle s f w e).stop ≠ none) : Uneventful c (c.handle s f w e) := by
  unfold handle at *
  split
  · next hinput =>
    rw [if_pos hinput] at h
    dsimp only at h ⊢
    split
    · exact ⟨⟨_, rfl⟩, rfl⟩
    · next hstop =>
      rw [hstop] at h
      obtain ⟨⟨logs, hlogs⟩, hsignal⟩ := uneventful_of_route_stopped h
      refine ⟨⟨(c.rules.refresh s.source f).logs ++ logs, ?_⟩, hsignal⟩
      rw [hlogs, List.map_append]
      rfl
  · exact uneventful_skip c e

theorem settlesSingles_handle (hc : c.rules.table.SettlesSingles) (s : Setup) (f : FileView)
    (w : Focused) (e : Event) : (c.handle s f w e).controller.rules.table.SettlesSingles := by
  rw [rules_handle]
  split
  · exact RuleFile.settlesSingles_refresh hc s.source f
  · exact hc

theorem settlesSingles_after (hc : c.rules.table.SettlesSingles) (s : Setup) (as : List Arrival) :
    (c.after s as).rules.table.SettlesSingles := by
  induction as generalizing c with
  | nil => exact hc
  | cons a as ih => exact ih (settlesSingles_handle hc s a.file a.window a.event)

theorem isKey_of_outcome {o : Signal.Outcome} (h : c.outcome s a = .ok o)
    (ha : a.event.type ≠ Event.typeKey) : ∀ slot ∈ o.slots, slot.isKey = false := by
  unfold outcome at h
  split at h
  · exact Signal.isKey_of_event h ha
  · cases h
    exact List.forall_mem_nil _

/-- What one event without a key sends lets go of everything. -/
theorem settled_handle (hc : c.rules.table.SettlesSingles) (ha : a.event.type ≠ Event.typeKey) :
    Settled (c.handle s a.file a.window a.event).strokes := by
  by_cases hstop : (c.handle s a.file a.window a.event).stop = none
  · obtain ⟨o, ho, -, hsound⟩ := handle_of_unstopped hstop
    have hslots := isKey_of_outcome ho ha
    have htable := settlesSingles_handle hc s a.file a.window a.event
    rw [hsound.sent]
    exact settled_flatMap fun slot hslot => htable _ slot (hslots slot hslot)
  · rw [(uneventful_of_stopped hstop).strokes]
    exact settled_nil

theorem settled_sent (hc : c.rules.table.SettlesSingles)
    (has : ∀ a ∈ as, a.event.type ≠ Event.typeKey) : Settled (c.sent s as) := by
  induction as generalizing c with
  | nil => exact settled_nil
  | cons a as ih =>
    obtain ⟨ha, has⟩ := List.forall_mem_cons.mp has
    rw [sent_cons]
    exact (settled_handle hc ha).append
      (ih (settlesSingles_handle hc s a.file a.window a.event) has)

/-- When nothing is left pressed and only dial and ring are moved from then on, nothing is left
pressed after any event, whatever rules are loaded and whatever windows have the focus: no symbol,
and no key and no button of any display, even where symbols share a key. -/
theorem motion_leaves_nothing_pressed (s : Setup) (before as : List Arrival)
    (hbefore : Settled ((initial s).sent s before))
    (has : ∀ a ∈ as, a.event.type ≠ Event.typeKey) :
    ∀ done, done <+: as →
      Settled ((initial s).sent s (before ++ done)) ∧
        ∀ (d : Display) (p : Point),
          ¬Display.LeavesPressed (((initial s).acts s (before ++ done)).flatMap d.perform) p := by
  intro done hdone
  have hinitial : (initial s).rules.table.SettlesSingles := RuleFile.settlesSingles_initial s.source
  have hsent : Settled ((initial s).sent s (before ++ done)) := by
    rw [sent_append]
    exact hbefore.append (settled_sent (settlesSingles_after hinitial s before)
      fun a ha => has a (hdone.subset ha))
  exact ⟨hsent, Display.not_leavesPressed hsent⟩

/-- Rules for one window with rules for all others behind. -/
def twoSections : FileView :=
  plainRules "[A] foo\nK1 \"q\"\nS3 Alt_L/D \"x\"\n[]\nIR \"X\" Alt_L/H\n" 1

/-- A key goes down and up. -/
def keyArrivals : List Arrival :=
  [⟨twoSections, { title := some "foo" }, ⟨1, 256, 1, Signal.millis 0⟩⟩,
    ⟨twoSections, { title := some "foo" }, ⟨1, 256, 0, Signal.millis 1⟩⟩]

/-- The ring goes right and back and the dial turns, with other rules from the second event on. -/
def movedArrivals : List Arrival :=
  [⟨twoSections, { title := some "foo" }, ⟨2, 8, 3, Signal.millis 2⟩⟩,
    ⟨plainRules "[]\nJR \"xX\"\nS0 Button_1\n" 2, {}, ⟨2, 7, 10, Signal.millis 4⟩⟩,
    ⟨.missing "rules", { title := some "foo" }, ⟨2, 7, 12, Signal.millis 9⟩⟩]

/-- Small and capital letters are on the same key. -/
def sharedKeys : Display := { keycodes := [(0x78, 53), (0x58, 53), (0xffe9, 64)] }

theorem ring_and_dial_leave_shared_key :
    Settled ((initial quietSetup).sent quietSetup keyArrivals) ∧
      (∀ a ∈ movedArrivals, a.event.type ≠ Event.typeKey) ∧
      ((initial quietSetup).sent quietSetup (keyArrivals ++ movedArrivals)).map (·.symbol.keysym) =
        [0x71, 0x71, 0xffe9, 0x78, 0xffe9, 0x78, 0x58, 0xffe9, 0xffe9, 0x58, 0x58, 0xffe9, 0xffe9,
          0x58, 0x58, 0xffe9, 0xffe9, 0x58, 0x2000001, 0x2000001, 0x78, 0x78, 0x58, 0x58, 0x78,
          0x78, 0x58, 0x58] ∧
      ¬Display.LeavesPressed
        (((initial quietSetup).acts quietSetup (keyArrivals ++ movedArrivals)).flatMap
          sharedKeys.perform) (.key 53) := by
  have hbefore : Settled ((initial quietSetup).sent quietSetup keyArrivals) := by decide +kernel
  have hmoved : ∀ a ∈ movedArrivals, a.event.type ≠ Event.typeKey := by decide
  obtain ⟨-, hpoints⟩ := motion_leaves_nothing_pressed quietSetup keyArrivals movedArrivals hbefore
    hmoved movedArrivals List.prefix_rfl
  exact ⟨hbefore, hmoved, by decide +kernel, hpoints sharedKeys (.key 53)⟩

end Controller

end JogShuttle
