import JogShuttle.Proofs.Sequence.Reachable

/-!
# In which order a tap lets go and presses again

A tap lets go of the symbol that was tapped before, and the first one behind a boundary presses the
pending modifiers again. The boundary itself lets go of the tapped symbol, so in a build that steps
can reach a tap never has both to do, and their order does not matter.
-/

set_option autoImplicit false

namespace JogShuttle.Build

variable {b : Build} {split : Bool} {ts : List Step}

/-- A tap that lets go of the symbol tapped before ahead of pressing the pending modifiers. -/
def tapReleasingFirst (b : Build) (s : Symbol) : Build :=
  { b.releaseOrdinary.repress.emit (.press s) with ordinary := some s }

theorem repress_eq_self (hs : b.startsRelease = false) : b.repress = b := by
  simp [repress, hs]

theorem releaseOrdinary_eq_self (ho : b.ordinary = none) : b.releaseOrdinary = b := by
  simp [releaseOrdinary, ho]

/-- Where the two never have both something to do they can change places. -/
theorem releaseOrdinary_repress (h : b.startsRelease = true → b.ordinary = none) :
    b.releaseOrdinary.repress = b.repress.releaseOrdinary := by
  cases hs : b.startsRelease with
  | false =>
    have hs' : b.releaseOrdinary.startsRelease = false := by simpa using hs
    rw [repress_eq_self hs, repress_eq_self hs']
  | true =>
    have ho := h hs
    have ho' : b.repress.ordinary = none := by simpa using ho
    rw [releaseOrdinary_eq_self ho, releaseOrdinary_eq_self ho']

theorem Sound.starts_of_mem (hb : b.Sound) {e : Symbol × Hold} (he : e ∈ b.modifiers)
    (hp : e.2 = .pending) : b.startsRelease = true := by
  apply hb.starts_of_pending (m := e.1)
  apply lookup_of_mem hb.nodup
  rw [← hp]
  exact he

/-- In every build that steps lead to: between a boundary and the next tap the release half has been
entered and no symbol is tapped; modifiers are pending only there; nothing is in the release half
before it is entered, and only a key enters it. So it is one and the same to a tap, in its strokes
and in what it leaves, whether the pending modifiers are pressed again before or after the symbol
tapped before is let go of. -/
theorem reachable_taps_order_indifferent (h : Build.steps { split } ts = .ok b) :
    (b.startsRelease = true → b.inRelease = true ∧ b.ordinary = none) ∧
    (∀ e ∈ b.modifiers, e.2 = .pending → b.startsRelease = true) ∧
    (b.inRelease = false → b.released = []) ∧
    (b.inRelease = true → split = true) ∧
    ∀ s, b.tapReleasingFirst s = b.tap s := by
  have hb := sound_of_steps h
  have hsplit := split_of_steps h
  refine ⟨?_, ?_, hb.filed, ?_, ?_⟩
  · intro hs
    exact ⟨hb.inRelease_of_starts hs, hb.ordinary_of_starts hs⟩
  · intro e he hp
    exact hb.starts_of_mem he hp
  · intro hr
    rw [← hsplit]
    exact hb.split_of_inRelease hr
  · intro s
    rw [tapReleasingFirst, tap, releaseOrdinary_repress hb.ordinary_of_starts]

/-- A symbol is tapped on either side of a boundary, and the second one while a modifier is
pending. -/
def tapsAroundBoundary : List Step := [.down ⟨1⟩, .hold ⟨2⟩, .tap ⟨3⟩, .boundary, .up ⟨4⟩]

theorem reachable_taps_order_indifferent_behind_boundary :
    ∃ b, Build.steps { split := true } tapsAroundBoundary = .ok b ∧
      b.holdOf ⟨1⟩ = some .pending ∧ b.startsRelease = true ∧ b.ordinary = none ∧
      b.tapReleasingFirst ⟨3⟩ = b.tap ⟨3⟩ ∧
      (b.tap ⟨3⟩).released.reverse =
        [.release ⟨3⟩, .release ⟨1⟩, .release ⟨4⟩, .press ⟨1⟩, .press ⟨3⟩] := by
  have hsteps : Build.steps { split := true } tapsAroundBoundary = .ok
      { split := true
        modifiers := [(⟨1⟩, .pending), (⟨2⟩, .held), (⟨4⟩, .released)]
        inRelease := true
        startsRelease := true
        pressed := [.press ⟨3⟩, .press ⟨2⟩, .press ⟨1⟩]
        released := [.release ⟨4⟩, .release ⟨1⟩, .release ⟨3⟩] } := by decide
  obtain ⟨hstarts, -, -, -, htap⟩ := reachable_taps_order_indifferent hsteps
  exact ⟨_, hsteps, rfl, rfl, (hstarts rfl).2, htap ⟨3⟩, by decide⟩

/-- No steps lead to a build with both to do, and there the order matters. -/
example :
    let b : Build :=
      { split := true, modifiers := [(⟨1⟩, .pending)], ordinary := some ⟨2⟩, startsRelease := true }
    b.tapReleasingFirst ⟨3⟩ ≠ b.tap ⟨3⟩ := by decide

end JogShuttle.Build
