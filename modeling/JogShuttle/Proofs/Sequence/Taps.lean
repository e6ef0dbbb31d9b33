import JogShuttle.Proofs.Sequence.Modes
import Mathlib.Data.List.Basic

/-!
# Taps alone

Symbols that are tapped one after another are pressed and let go of in turn. What a build has sent
on the way lacks the release of the last of them, which comes with the next tap or at the end; a key
keeps it for its second half.
-/

set_option autoImplicit false

namespace JogShuttle

/-- Every symbol pressed and let go of before the next. -/
def Stroke.taps (ss : List Symbol) : List Stroke := ss.flatMap fun s => [.press s, .release s]

/-- What taps alone send: for a key the last release is all of the second half. -/
def Halves.taps (split : Bool) (ss : List Symbol) : Halves :=
  if split then ⟨(Stroke.taps ss).dropLast, ss.getLast?.toList.map .release⟩
  else ⟨Stroke.taps ss, []⟩

theorem Stroke.taps_append_singleton (ss : List Symbol) (s : Symbol) :
    Stroke.taps (ss ++ [s]) = Stroke.taps ss ++ [.press s, .release s] := by
  unfold Stroke.taps
  rw [List.flatMap_append, List.flatMap_singleton]

namespace Build

variable {b : Build} {ss : List Symbol} {split : Bool}

/-- A build that has tapped some symbols and has marked none. -/
structure Tapped (ss : List Symbol) (b : Build) : Prop where
  modifiers : b.modifiers = []
  inRelease : b.inRelease = false
  startsRelease : b.startsRelease = false
  ordinary : b.ordinary = ss.getLast?
  sent : b.sent ++ b.ordinaryReleases = Stroke.taps ss

theorem Tapped.tap (h : Tapped ss b) (hb : b.Filed) (s : Symbol) :
    Tapped (ss ++ [s]) (b.tap s) where
  modifiers := by simp [Build.tap, repress_modifiers, h.modifiers, h.startsRelease]
  inRelease := by simp [Build.tap, h.inRelease]
  startsRelease := by simp [Build.tap]
  ordinary := by rw [List.getLast?_concat]; rfl
  sent := by
    have hnone : b.represses = [] := by simp [represses, h.startsRelease]
    have hlast : (b.tap s).ordinaryReleases = [.release s] := rfl
    rw [sent_tap hb, hnone, List.append_nil, h.sent, hlast, List.append_assoc,
      Stroke.taps_append_singleton]
    rfl

theorem exists_tapped (split : Bool) (ss : List Symbol) :
    ∃ b, Build.steps { split } (ss.map Step.tap) = .ok b ∧ Tapped ss b := by
  induction ss using List.reverseRecOn with
  | nil => exact ⟨_, rfl, rfl, rfl, rfl, rfl, rfl⟩
  | append_singleton ss s ih =>
    obtain ⟨b, hb, h⟩ := ih
    refine ⟨b.tap s, ?_, h.tap (sound_of_steps hb).filed s⟩
    rw [List.map_append, steps_append_ok_iff]
    exact ⟨b, hb, rfl⟩

theorem Tapped.modifiersWhere (h : Tapped ss b) (p : Hold → Bool) : b.modifiersWhere p = [] := by
  rw [Build.modifiersWhere, h.modifiers]
  rfl

theorem Tapped.sent_eq (h : Tapped ss b) : b.sent = (Stroke.taps ss).dropLast := by
  rw [← h.sent, ordinaryReleases, h.ordinary]
  rcases List.eq_nil_or_concat' ss with rfl | ⟨init, s, rfl⟩
  · have hnil : b.sent ++ b.ordinaryReleases = [] := h.sent
    rw [(List.append_eq_nil_iff.mp hnil).1]
    rfl
  · rw [List.getLast?_concat]
    exact List.dropLast_concat.symm

theorem halves_of_taps (split : Bool) (ss : List Symbol) :
    Halves.ofSteps? split (ss.map Step.tap) = .ok (Halves.taps split ss) := by
  obtain ⟨b, hb, h⟩ := exists_tapped split ss
  have hsound := sound_of_steps hb
  have hsplit := split_of_steps hb
  have hr := Halves.ofSteps?_ok_iff.mpr ⟨b, hb, rfl⟩
  cases split with
  | true =>
    have hpress := press_finish_of_open hsound.filed hsplit h.inRelease
    have hrelease := release_finish_of_open hsound hsplit h.inRelease
    have hpair : b.finish.halves = ⟨b.finish.halves.press, b.finish.halves.release⟩ := rfl
    rw [h.modifiersWhere, h.modifiersWhere, ordinaryReleases, h.ordinary, List.append_nil,
      List.map_nil, List.append_nil] at hrelease
    rw [hr, hpair, hpress, hrelease, h.sent_eq]
    rfl
  | false =>
    have hsent := sent_finish_of_single hsound.filed hsplit
    rw [h.modifiersWhere, List.map_nil, List.append_nil, h.sent] at hsent
    rw [hr, Except.ok.injEq, halves_eq_of_single hr, halves_append, hsent]
    rfl

end Build

end JogShuttle
