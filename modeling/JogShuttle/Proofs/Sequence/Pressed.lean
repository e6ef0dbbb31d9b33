import JogShuttle.Proofs.Sequence.Reachable
import JogShuttle.Proofs.Stroke.Last

/-!
# What is pressed during a build

Whether a symbol is pressed after an operation depends on that symbol alone: on whether it was
pressed before, whether it is the tapped one, and its state as a modifier. One equivalence for each
operation says how.
-/

set_option autoImplicit false

namespace JogShuttle.Build

open Stroke

variable {b : Build} {m : Symbol}

theorem pressed_append_ordinaryReleases {ss : List Stroke} :
    Pressed m (ss ++ b.ordinaryReleases) ↔ b.ordinary ≠ some m ∧ Pressed m ss := by
  rw [ordinaryReleases, pressed_append_releases]
  simp

theorem pressed_append_represses (hk : (keys b.modifiers).Nodup) {ss : List Stroke} :
    Pressed m (ss ++ b.represses) ↔
      b.startsRelease = true ∧ b.holdOf m = some .pending ∨ Pressed m ss := by
  unfold represses
  split
  · rename_i hs
    rw [pressed_append_presses]
    simp [mem_modifiersWhere hk, hs]
  · rename_i hs
    simp [hs]

theorem pressed_tap (hb : b.Sound) (s : Symbol) :
    Pressed m (b.tap s).sent ↔
      s = m ∨ s ≠ m ∧ b.ordinary ≠ some m ∧
        (b.startsRelease = true ∧ b.holdOf m = some .pending ∨ Pressed m b.sent) := by
  rw [sent_tap hb.filed, pressed_append_singleton, pressed_append_ordinaryReleases,
    pressed_append_represses hb.nodup]
  simp

theorem pressed_setModifier (hb : b.Filed) (s : Stroke) (h : Hold) :
    Pressed m (b.setModifier s h).sent ↔
      s.symbol = m ∧ s.pressed = true ∨ s.symbol ≠ m ∧ Pressed m b.sent := by
  rw [sent_setModifier hb, pressed_append_singleton]

theorem pressed_cross (hb : b.Sound) :
    Pressed m b.cross.sent ↔
      b.holdOf m ≠ some .down ∧ b.ordinary ≠ some m ∧ Pressed m b.sent := by
  rw [sent_cross, pressed_append_releases, pressed_append_ordinaryReleases,
    mem_modifiersWhere hb.nodup]
  simp

theorem pressed_releaseOrdinary (hb : b.Filed) :
    Pressed m b.releaseOrdinary.sent ↔ b.ordinary ≠ some m ∧ Pressed m b.sent := by
  rw [sent_releaseOrdinary hb, pressed_append_ordinaryReleases]

theorem pressed_releaseModifiers (hb : b.Filed) (hk : (keys b.modifiers).Nodup) :
    Pressed m b.releaseModifiers.sent ↔
      b.holdOf m ≠ some .down ∧ b.holdOf m ≠ some .held ∧ Pressed m b.sent := by
  rw [sent_releaseModifiers hb, pressed_append_releases, mem_modifiersWhere hk]
  cases b.holdOf m with
  | none => simp
  | some h => cases h <;> simp

end JogShuttle.Build
