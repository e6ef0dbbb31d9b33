import JogShuttle.Proofs.Controller.Calls

/-!
# Malformed events

An event is well-formed if it is of a kind that the device has and carries a value that this kind
has. Any other event leaves the state of the device as it is and calls nothing, with one exception:
of the values of a key only those of a release and of a repeat are told apart, and whatever else an
event of a key carries is taken for a press.
-/

set_option autoImplicit false

namespace JogShuttle

namespace Event

/-- A key that goes down or comes up, the dial, or the ring at one of its levels. -/
def WellFormed (e : Event) : Prop :=
  (e.type = typeKey ∧ 256 ≤ e.code ∧ e.code ≤ 270 ∧ (e.value = 0 ∨ e.value = 1)) ∨
  (e.type = typeRelative ∧ e.code = codeDial) ∨
  (e.type = typeRelative ∧ e.code = codeRing ∧ -7 ≤ e.value ∧ e.value ≤ 7)

instance (e : Event) : Decidable e.WellFormed := inferInstanceAs (Decidable (_ ∨ _))

/-- A key that neither goes down nor comes up nor repeats. -/
def Stray (e : Event) : Prop :=
  e.type = typeKey ∧ 256 ≤ e.code ∧ e.code ≤ 270 ∧ e.value ≠ 0 ∧ e.value ≠ 1 ∧ e.value ≠ 2

instance (e : Event) : Decidable e.Stray := inferInstanceAs (Decidable (_ ∧ _))

variable {e : Event}

theorem type_of_isInput (h : e.isInput = true) : e.type = typeKey ∨ e.type = typeRelative := by
  simpa [isInput] using h

theorem meaning_of_key (htype : e.type = typeKey) (hvalue : e.value ≠ valueRepeated) :
    e.meaning = .sample (.key e.keyNumber (e.value != 0)) := by
  rw [meaning, if_pos htype, if_neg hvalue]

theorem meaning_of_relative (htype : e.type = typeRelative) (hdial : e.code ≠ codeDial) :
    e.meaning = if e.code = codeRing then .sample (.shuttle e.value e.time)
      else if isFineCode e.code then .nothing else .unknown := by
  have hkey : e.type ≠ typeKey := by
    rw [htype]
    decide
  rw [meaning, if_neg hkey, if_neg hdial]

end Event

namespace Signal

variable {s : Signal} {timeout : Duration} {isBound : Slot → Bool} {e : Event}

theorem key_of_malformed (h : ¬e.WellFormed) (hstray : ¬e.Stray) (htype : e.type = Event.typeKey)
    (hvalue : e.value ≠ Event.valueRepeated) (pressed : Bool) :
    (s.key e.keyNumber pressed).slots = [] := by
  unfold key
  split
  · next hn =>
    -- a key that exists with a value that is none of the three
    exfalso
    simp only [Event.keyNumber, Event.firstKeyCode, keyCount] at hn
    have hcode : 256 ≤ e.code ∧ e.code ≤ 270 := by omega
    by_cases hpress : e.value = 0 ∨ e.value = 1
    · exact h (Or.inl ⟨htype, hcode.1, hcode.2, hpress⟩)
    · rw [not_or] at hpress
      exact hstray ⟨htype, hcode.1, hcode.2, hpress.1, hpress.2, hvalue⟩
  · rfl

/-- Nothing is learnt from a malformed event, and it stands for no slot unless it is of a key. -/
theorem event_of_malformed (h : ¬e.WellFormed) (hinput : e.isInput = true) :
    ∃ o, s.event timeout isBound e = .ok o ∧ o.signal = s ∧ (¬e.Stray → o.slots = []) := by
  rcases Event.type_of_isInput hinput with htype | htype
  · by_cases hvalue : e.value = Event.valueRepeated
    · rw [event, Event.meaning, if_pos htype, if_pos hvalue]
      exact ⟨_, rfl, rfl, fun _ => rfl⟩
    · rw [event, Event.meaning_of_key htype hvalue]
      exact ⟨_, rfl, key_signal _ _,
        fun hstray => key_of_malformed h hstray htype hvalue _⟩
  · have hdial : e.code ≠ Event.codeDial := fun hcode => h (Or.inr (Or.inl ⟨htype, hcode⟩))
    rw [event, Event.meaning_of_relative htype hdial]
    by_cases hring : e.code = Event.codeRing
    · have hlevel : ¬(-(outerLevel : Int) ≤ e.value ∧ e.value ≤ outerLevel) :=
        fun hlevel => h (Or.inr (Or.inr ⟨htype, hring, hlevel⟩))
      obtain ⟨hsignal, hslots⟩ := shuttle_of_not_inRange s e.time isBound hlevel
      rw [if_pos hring]
      exact ⟨_, rfl, hsignal, fun _ => hslots⟩
    · rw [if_neg hring]
      by_cases hfine : Event.isFineCode e.code = true
      · rw [if_pos hfine]
        exact ⟨_, rfl, rfl, fun _ => rfl⟩
      · rw [if_neg hfine]
        exact ⟨_, rfl, rfl, fun _ => rfl⟩

/-- A key with a value that is none of the three stands for what a press stands for. -/
theorem event_of_stray (h : e.Stray) (s : Signal) (timeout : Duration) (isBound : Slot → Bool) :
    s.event timeout isBound e = s.event timeout isBound { e with value := 1 } := by
  obtain ⟨htype, -, -, hreleased, -, hrepeated⟩ := h
  have hstray := Event.meaning_of_key htype hrepeated
  have hpress : ({ e with value := 1 } : Event).meaning = .sample (.key e.keyNumber true) :=
    Event.meaning_of_key (e := { e with value := 1 }) htype (by simp [Event.valueRepeated])
  have hdown : (e.value != 0) = true := by simpa using hreleased
  rw [hdown] at hstray
  rw [event, event, hstray, hpress]

end Signal

namespace Controller

variable {c : Controller} {s : Setup} {f : FileView} {w : Focused} {e e' : Event}

theorem outcome_of_malformed (h : ¬e.WellFormed) :
    ∃ o, c.outcome s ⟨f, w, e⟩ = .ok o ∧ o.signal = c.signal ∧ (¬e.Stray → o.slots = []) := by
  unfold outcome
  split
  · next hinput => exact Signal.event_of_malformed h hinput
  · exact ⟨_, rfl, rfl, fun _ => rfl⟩

/-- Two input events that stand for the same are handled alike. -/
theorem handle_congr (he : e.isInput = true) (he' : e'.isInput = true)
    (h : ∀ (signal : Signal) (timeout : Duration) (isBound : Slot → Bool),
      signal.event timeout isBound e = signal.event timeout isBound e') :
    c.handle s f w e = c.handle s f w e' := by
  have hroute : ∀ c : Controller, c.route s w e = c.route s w e' := by
    intro c
    unfold route routeIn
    simp only [h]
  unfold handle
  simp only [if_pos he, if_pos he', hroute]

/-- An event that is not well-formed leaves the state of the device as it is, whatever is in the rule
file and whatever window has the focus. It calls nothing, unless it is of a key and its value is
neither that of a release nor of a press nor of a repeat; then it is handled like a press. -/
theorem malformed_events_idle_or_pressed (c : Controller) (s : Setup) (f : FileView) (w : Focused)
    (e : Event) (h : ¬e.WellFormed) :
    (c.handle s f w e).controller.signal = c.signal ∧
      (¬e.Stray → (c.handle s f w e).calls = []) ∧
      (e.Stray → c.handle s f w e = c.handle s f w { e with value := 1 }) := by
  refine ⟨?_, ?_, ?_⟩
  · by_cases hstop : (c.handle s f w e).stop = none
    · obtain ⟨o, ho, hsignal, -⟩ := handle_of_unstopped (a := ⟨f, w, e⟩) hstop
      obtain ⟨o', ho', hkept, -⟩ := outcome_of_malformed (c := c) (s := s) (f := f) (w := w) h
      obtain rfl : o = o' := Except.ok.inj (ho.symm.trans ho')
      exact hsignal.trans hkept
    · exact (uneventful_of_stopped hstop).signal
  · intro hstray
    by_cases hstop : (c.handle s f w e).stop = none
    · obtain ⟨o, ho, -, hnone⟩ := outcome_of_malformed (c := c) (s := s) (f := f) (w := w) h
      have hcalls := calls_of_outcome (a := ⟨f, w, e⟩) hstop ho
      rwa [hnone hstray] at hcalls
    · exact (uneventful_of_stopped hstop).calls
  · intro hstray
    have hinput : e.isInput = true := by simp [Event.isInput, hstray.1]
    exact handle_congr hinput hinput (Signal.event_of_stray hstray)

/-- One key for every window. -/
def keyRules : FileView := plainRules "[]\nK1 \"x\"\nIR \"y\"\n" 1

/-- The ring has gone right. -/
def turnedRing : Controller := (initial quietSetup).after quietSetup
  [⟨keyRules, {}, ⟨2, 8, 3, Signal.millis 0⟩⟩]

/-- A level beyond the last one, and a key with a value of its own. -/
theorem malformed_events_idle_or_pressed_of_turnedRing :
    ¬(⟨2, 8, 8, Signal.millis 1⟩ : Event).WellFormed ∧
    ¬(⟨2, 8, 8, Signal.millis 1⟩ : Event).Stray ∧
    turnedRing.signal = ⟨none, some 3, some (Signal.millis 0), true⟩ ∧
    (turnedRing.handle quietSetup keyRules {} ⟨2, 8, 8, Signal.millis 1⟩).calls = [] ∧
    (turnedRing.handle quietSetup keyRules {} ⟨2, 8, 8, Signal.millis 1⟩).controller.signal =
      turnedRing.signal ∧
    ¬(⟨1, 256, -1, Signal.millis 1⟩ : Event).WellFormed ∧
    (⟨1, 256, -1, Signal.millis 1⟩ : Event).Stray ∧
    turnedRing.handle quietSetup keyRules {} ⟨1, 256, -1, Signal.millis 1⟩ =
      turnedRing.handle quietSetup keyRules {} ⟨1, 256, 1, Signal.millis 1⟩ := by
  have hlevel : ¬(⟨2, 8, 8, Signal.millis 1⟩ : Event).WellFormed := by decide
  have hlevel' : ¬(⟨2, 8, 8, Signal.millis 1⟩ : Event).Stray := by decide
  have hkey : ¬(⟨1, 256, -1, Signal.millis 1⟩ : Event).WellFormed := by decide
  have hkey' : (⟨1, 256, -1, Signal.millis 1⟩ : Event).Stray := by decide
  obtain ⟨hsignal, hcalls, -⟩ :=
    malformed_events_idle_or_pressed turnedRing quietSetup keyRules {} _ hlevel
  obtain ⟨-, -, hpressed⟩ :=
    malformed_events_idle_or_pressed turnedRing quietSetup keyRules {} _ hkey
  exact ⟨hlevel, hlevel', by decide +kernel, hcalls hlevel', hsignal, hkey, hkey', hpressed hkey'⟩

/-- A key event that is neither a press nor a release is sent all the same. -/
theorem stray_key_event_sent :
    ¬(⟨1, 256, 3, Signal.millis 0⟩ : Event).WellFormed ∧
    ((initial quietSetup).handle quietSetup keyRules {} ⟨1, 256, 3, Signal.millis 0⟩).stop = none ∧
    ((initial quietSetup).handle quietSetup keyRules {} ⟨1, 256, 3, Signal.millis 0⟩).calls =
      [.stroke (.press ⟨0x78⟩), .flush] :=
  ⟨by decide, by decide +kernel, by decide +kernel⟩

end Controller

end JogShuttle
