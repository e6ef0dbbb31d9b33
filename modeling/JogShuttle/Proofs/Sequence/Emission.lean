import JogShuttle.Proofs.Sequence.Modifiers

/-!
# What each operation of a build sends

Every operation appends strokes to what has been sent and moves the states of modifiers; nothing
sent is taken back, and the release half stays empty until the boundary. One equation for each
operation says what it sends, and one what becomes of the state of a symbol.
-/

set_option autoImplicit false

namespace JogShuttle.Build

variable {b : Build}

/-- All strokes so far in the order in which they are sent. -/
def sent (b : Build) : List Stroke := b.history.reverse

/-- Nothing is in the release half before the boundary. -/
def Filed (b : Build) : Prop := b.inRelease = false → b.released = []

/-- The strokes that let go of the tapped symbol. -/
def ordinaryReleases (b : Build) : List Stroke := b.ordinary.toList.map .release

/-- The strokes that press pending modifiers again. -/
def represses (b : Build) : List Stroke :=
  if b.startsRelease then (b.modifiersWhere (· == .pending)).map .press else []

theorem halves_append (b : Build) : b.halves.press ++ b.halves.release = b.sent := by
  simp [halves, sent, history]

theorem emitAll_nil (b : Build) : b.emitAll [] = b := rfl

theorem emitAll_cons (b : Build) (s : Stroke) (ss : List Stroke) :
    b.emitAll (s :: ss) = (b.emit s).emitAll ss := rfl

section Fields

@[simp] theorem emit_split (b : Build) (s : Stroke) : (b.emit s).split = b.split := by
  unfold emit; split <;> rfl

@[simp] theorem emit_modifiers (b : Build) (s : Stroke) : (b.emit s).modifiers = b.modifiers := by
  unfold emit; split <;> rfl

@[simp] theorem emit_ordinary (b : Build) (s : Stroke) : (b.emit s).ordinary = b.ordinary := by
  unfold emit; split <;> rfl

@[simp] theorem emit_inRelease (b : Build) (s : Stroke) : (b.emit s).inRelease = b.inRelease := by
  unfold emit; split <;> rfl

@[simp] theorem emit_startsRelease (b : Build) (s : Stroke) :
    (b.emit s).startsRelease = b.startsRelease := by
  unfold emit; split <;> rfl

/-- A field that no stroke changes is changed by no list of strokes. -/
theorem emitAll_field {α : Type} {f : Build → α} (hf : ∀ b s, f (b.emit s) = f b) (b : Build)
    (ss : List Stroke) : f (b.emitAll ss) = f b := by
  induction ss generalizing b with
  | nil => rfl
  | cons s ss ih => rw [emitAll_cons, ih, hf]

@[simp] theorem emitAll_split (b : Build) (ss : List Stroke) : (b.emitAll ss).split = b.split :=
  emitAll_field emit_split b ss

@[simp] theorem emitAll_modifiers (b : Build) (ss : List Stroke) :
    (b.emitAll ss).modifiers = b.modifiers :=
  emitAll_field emit_modifiers b ss

@[simp] theorem emitAll_ordinary (b : Build) (ss : List Stroke) :
    (b.emitAll ss).ordinary = b.ordinary :=
  emitAll_field emit_ordinary b ss

@[simp] theorem emitAll_inRelease (b : Build) (ss : List Stroke) :
    (b.emitAll ss).inRelease = b.inRelease :=
  emitAll_field emit_inRelease b ss

@[simp] theorem emitAll_startsRelease (b : Build) (ss : List Stroke) :
    (b.emitAll ss).startsRelease = b.startsRelease :=
  emitAll_field emit_startsRelease b ss

@[simp] theorem releaseOrdinary_split (b : Build) : b.releaseOrdinary.split = b.split := by
  unfold releaseOrdinary; split <;> simp

@[simp] theorem releaseOrdinary_modifiers (b : Build) :
    b.releaseOrdinary.modifiers = b.modifiers := by
  unfold releaseOrdinary; split <;> simp

@[simp] theorem releaseOrdinary_ordinary (b : Build) : b.releaseOrdinary.ordinary = none := by
  unfold releaseOrdinary; split <;> simp [*]

@[simp] theorem releaseOrdinary_inRelease (b : Build) :
    b.releaseOrdinary.inRelease = b.inRelease := by
  unfold releaseOrdinary; split <;> simp

@[simp] theorem releaseOrdinary_startsRelease (b : Build) :
    b.releaseOrdinary.startsRelease = b.startsRelease := by
  unfold releaseOrdinary; split <;> simp

@[simp] theorem repress_split (b : Build) : b.repress.split = b.split := by
  unfold repress; split <;> simp

@[simp] theorem repress_ordinary (b : Build) : b.repress.ordinary = b.ordinary := by
  unfold repress; split <;> simp

@[simp] theorem repress_inRelease (b : Build) : b.repress.inRelease = b.inRelease := by
  unfold repress; split <;> simp

@[simp] theorem repress_startsRelease (b : Build) : b.repress.startsRelease = false := by
  unfold repress
  split
  · rfl
  · rename_i hs
    simpa using hs

theorem repress_modifiers (b : Build) :
    b.repress.modifiers =
      if b.startsRelease then moveHolds (· == .pending) .down b.modifiers else b.modifiers := by
  unfold repress; split <;> rfl

end Fields

section Sent

theorem Filed.emit (hb : b.Filed) (s : Stroke) : (b.emit s).Filed := by
  intro hr
  rw [emit_inRelease] at hr
  simp [Build.emit, hr, hb hr]

theorem sent_emit (hb : b.Filed) (s : Stroke) : (b.emit s).sent = b.sent ++ [s] := by
  cases hr : b.inRelease with
  | true => simp [sent, history, emit, hr]
  | false => simp [sent, history, emit, hr, hb hr]

theorem Filed.emitAll (hb : b.Filed) (ss : List Stroke) : (b.emitAll ss).Filed := by
  induction ss generalizing b with
  | nil => exact hb
  | cons s ss ih => exact ih (hb.emit s)

theorem sent_emitAll (hb : b.Filed) (ss : List Stroke) : (b.emitAll ss).sent = b.sent ++ ss := by
  induction ss generalizing b with
  | nil => simp [emitAll_nil]
  | cons s ss ih =>
    rw [emitAll_cons, ih (hb.emit s), sent_emit hb]
    simp

theorem releaseOrdinary_eq (b : Build) :
    b.releaseOrdinary = { b.emitAll b.ordinaryReleases with ordinary := none } := by
  unfold releaseOrdinary ordinaryReleases
  cases ho : b.ordinary with
  | none =>
    cases b
    cases ho
    rfl
  | some s => rfl

theorem Filed.releaseOrdinary (hb : b.Filed) : b.releaseOrdinary.Filed := by
  rw [releaseOrdinary_eq]
  exact hb.emitAll _

theorem sent_releaseOrdinary (hb : b.Filed) :
    b.releaseOrdinary.sent = b.sent ++ b.ordinaryReleases := by
  rw [releaseOrdinary_eq]
  exact sent_emitAll hb _

theorem Filed.repress (hb : b.Filed) : b.repress.Filed := by
  unfold Build.repress
  split
  · exact hb.emitAll _
  · exact hb

theorem sent_repress (hb : b.Filed) : b.repress.sent = b.sent ++ b.represses := by
  unfold repress represses
  split
  · exact sent_emitAll hb _
  · simp

theorem Filed.tap (hb : b.Filed) (s : Symbol) : (b.tap s).Filed :=
  hb.repress.releaseOrdinary.emit _

/-- A tap presses pending modifiers again, lets go of the tapped symbol, and presses its own. -/
theorem sent_tap (hb : b.Filed) (s : Symbol) :
    (b.tap s).sent = b.sent ++ b.represses ++ b.ordinaryReleases ++ [.press s] := by
  have ho : b.repress.ordinaryReleases = b.ordinaryReleases := by simp [ordinaryReleases]
  calc
    (b.tap s).sent = b.repress.releaseOrdinary.sent ++ [Stroke.press s] :=
      sent_emit hb.repress.releaseOrdinary (Stroke.press s)
    _ = b.sent ++ b.represses ++ b.ordinaryReleases ++ [Stroke.press s] := by
      rw [sent_releaseOrdinary hb.repress, sent_repress hb, ho]

theorem Filed.setModifier (hb : b.Filed) (s : Stroke) (h : Hold) : (b.setModifier s h).Filed :=
  hb.emit s

theorem sent_setModifier (hb : b.Filed) (s : Stroke) (h : Hold) :
    (b.setModifier s h).sent = b.sent ++ [s] :=
  sent_emit hb s

theorem filed_cross (b : Build) : b.cross.Filed := by
  intro hr
  simp [cross] at hr

/-- The boundary lets go of the tapped symbol and then of the modifiers that are down. -/
theorem sent_cross (b : Build) :
    b.cross.sent =
      b.sent ++ b.ordinaryReleases ++ (b.modifiersWhere (· == .down)).map .release := by
  let c : Build := { b with inRelease := true }
  have hc : c.Filed := fun h => by cases h
  have hm : c.releaseOrdinary.modifiersWhere (· == .down) = b.modifiersWhere (· == .down) := by
    simp [modifiersWhere, c]
  calc
    b.cross.sent =
        c.releaseOrdinary.sent ++
          (c.releaseOrdinary.modifiersWhere (· == .down)).map Stroke.release :=
      sent_emitAll hc.releaseOrdinary _
    _ = c.sent ++ c.ordinaryReleases ++ (b.modifiersWhere (· == .down)).map Stroke.release := by
      rw [sent_releaseOrdinary hc, hm]

theorem Filed.releaseModifiers (hb : b.Filed) : b.releaseModifiers.Filed := hb.emitAll _

theorem sent_releaseModifiers (hb : b.Filed) :
    b.releaseModifiers.sent =
      b.sent ++ (b.modifiersWhere fun h => h == .down || h == .held).map .release :=
  sent_emitAll hb _

end Sent

end JogShuttle.Build
