import JogShuttle.Proofs.Sequence.Reachable

/-!
# Keys and other slots

The same steps may be built for a key, in two halves, or for another slot, in one. As long as no
boundary comes the two builds send the same strokes, and in the end they let go of the same symbols,
though not in the same order. For a key a boundary at the end of the steps is understood, and what
stands behind a boundary has no influence on the first half.
-/

set_option autoImplicit false

namespace JogShuttle.Build

variable {b b' : Build} {ts us rs : List Step} {t : Step}

theorem steps_append (b : Build) (ts us : List Step) :
    b.steps (ts ++ us) = (b.steps ts).bind fun c => c.steps us := by
  induction ts generalizing b with
  | nil => rfl
  | cons t ts ih =>
    rw [List.cons_append, steps_cons, steps_cons]
    cases b.step t with
    | error e => rfl
    | ok c => exact ih c

section Mode

/-- The same build for a key or for another slot. -/
def inMode (k : Bool) (b : Build) : Build := { b with split := k }

theorem emit_inMode (k : Bool) (b : Build) (s : Stroke) :
    (b.inMode k).emit s = (b.emit s).inMode k := by
  cases hr : b.inRelease <;> simp [emit, inMode, hr]

theorem emitAll_inMode (k : Bool) (b : Build) (ss : List Stroke) :
    (b.inMode k).emitAll ss = (b.emitAll ss).inMode k := by
  induction ss generalizing b with
  | nil => rfl
  | cons s ss ih => rw [emitAll_cons, emitAll_cons, emit_inMode, ih]

theorem releaseOrdinary_inMode (k : Bool) (b : Build) :
    (b.inMode k).releaseOrdinary = b.releaseOrdinary.inMode k := by
  rw [releaseOrdinary_eq, releaseOrdinary_eq, emitAll_inMode]
  rfl

theorem repress_inMode (k : Bool) (b : Build) : (b.inMode k).repress = b.repress.inMode k := by
  have hsame : (b.inMode k).startsRelease = b.startsRelease := rfl
  simp only [repress, emitAll_inMode, hsame]
  split <;> rfl

/-- Only a boundary asks whether the steps are those of a key. -/
theorem step_inMode (k : Bool) (b : Build) (ht : t.mark ≠ .release) :
    (b.inMode k).step t = (b.step t).map (inMode k) := by
  obtain ⟨mark, symbol⟩ := t
  cases mark with
  | release => exact absurd rfl ht
  | tap =>
    cases symbol with
    | none => rfl
    | some s =>
      simp only [step, tap, Except.map, repress_inMode, releaseOrdinary_inMode, emit_inMode]
      rfl
  | down | up | hold =>
    cases symbol with
    | none => rfl
    | some s =>
      simp only [step, setModifier, Except.map, emit_inMode]
      rfl

theorem steps_inMode (k : Bool) (b : Build) (hts : ∀ t ∈ ts, t.mark ≠ .release) :
    (b.inMode k).steps ts = (b.steps ts).map (inMode k) := by
  induction ts generalizing b with
  | nil => rfl
  | cons t ts ih =>
    obtain ⟨ht, hts⟩ := List.forall_mem_cons.mp hts
    rw [steps_cons, steps_cons, step_inMode k b ht]
    cases b.step t with
    | error e => rfl
    | ok c => exact ih c hts

end Mode

section Boundary

theorem inRelease_of_step (ht : t.mark ≠ .release) (h : b.step t = .ok b') :
    b'.inRelease = b.inRelease := by
  rcases step_cases h with ⟨hk, _, _⟩ | ⟨s, _, rfl⟩ | ⟨s, p, g, _, _, rfl⟩
  · exact absurd hk ht
  · simp [tap]
  · simp [setModifier]

/-- Without a boundary the second half is not reached. -/
theorem inRelease_of_steps (hts : ∀ t ∈ ts, t.mark ≠ .release) (h : b.steps ts = .ok b') :
    b'.inRelease = b.inRelease := by
  induction ts generalizing b with
  | nil => cases h; rfl
  | cons t ts ih =>
    obtain ⟨ht, hts⟩ := List.forall_mem_cons.mp hts
    obtain ⟨c, hc, hrest⟩ := steps_cons_ok_iff.mp h
    rw [ih hts hrest, inRelease_of_step ht hc]

theorem cross_eq_self (hr : b.inRelease = true) (hs : b.startsRelease = true)
    (ho : b.ordinary = none) (hm : ∀ e ∈ b.modifiers, (e.2 == .down) = false) : b.cross = b := by
  have hsame : ({ b with inRelease := true } : Build).releaseOrdinary = b := by
    cases b
    cases hr
    cases ho
    rfl
  have hnone : b.modifiersWhere (· == .down) = [] := by
    rw [modifiersWhere, List.filter_eq_nil_iff.mpr fun e he => by simp [hm e he], List.map_nil]
  have hmoved : moveHolds (· == .down) .pending b.modifiers = b.modifiers := by
    refine (List.map_congr_left fun e he => ?_).trans (List.map_id _)
    simp [hm e he]
  rw [cross, hsame, hnone, hmoved]
  cases b
  cases hs
  rfl

/-- Behind a boundary a second one finds nothing to let go of. -/
theorem cross_cross (b : Build) : b.cross.cross = b.cross := by
  refine cross_eq_self (by simp [cross]) rfl (cross_ordinary b) fun e he => ?_
  have hmoved : e ∈ moveHolds (· == .down) .pending b.modifiers := by simpa [cross] using he
  obtain ⟨⟨m, g⟩, _, rfl⟩ := List.mem_map.mp hmoved
  cases g <;> rfl

theorem steps_of_boundaries (hs : b.split = true) (hne : rs ≠ [])
    (hrs : ∀ t ∈ rs, t.mark = .release) : b.steps rs = .ok b.cross := by
  induction rs generalizing b with
  | nil => exact absurd rfl hne
  | cons t rs ih =>
    obtain ⟨ht, hrs⟩ := List.forall_mem_cons.mp hrs
    have hstep : b.step t = .ok b.cross := by simp [step, ht, hs]
    rw [steps_cons, hstep]
    cases rs with
    | nil => rfl
    | cons u rs =>
      have hcross : b.cross.split = true := by simpa [cross] using hs
      exact (ih hcross (List.cons_ne_nil u rs) hrs).trans (by rw [cross_cross])

/-- The end of a build crosses the boundary of a key if no step did. -/
theorem finish_cross (hs : b.split = true) (hr : b.inRelease = false) :
    b.cross.finish = b.finish := by
  have hsplit : b.cross.split = true := by simpa [cross] using hs
  have hrelease : b.cross.inRelease = true := by simp [cross]
  simp only [finish, hs, hr, hsplit, hrelease, if_true, Bool.false_eq_true, if_false]

end Boundary

/-- The build is in the second half, and this is the first. -/
structure Closed (ss : List Stroke) (b : Build) : Prop where
  inRelease : b.inRelease = true
  pressed : b.pressed = ss

section Closed

variable {ss : List Stroke}

theorem Closed.emit (hb : b.Closed ss) (s : Stroke) : (b.emit s).Closed ss where
  inRelease := by simpa using hb.inRelease
  pressed := by simpa [Build.emit, hb.inRelease] using hb.pressed

theorem Closed.emitAll (hb : b.Closed ss) (rs : List Stroke) : (b.emitAll rs).Closed ss := by
  induction rs generalizing b with
  | nil => exact hb
  | cons s rs ih => exact ih (hb.emit s)

theorem Closed.releaseOrdinary (hb : b.Closed ss) : b.releaseOrdinary.Closed ss := by
  rw [releaseOrdinary_eq]
  exact ⟨(hb.emitAll _).inRelease, (hb.emitAll _).pressed⟩

theorem Closed.repress (hb : b.Closed ss) : b.repress.Closed ss := by
  unfold Build.repress
  split
  · exact ⟨(hb.emitAll _).inRelease, (hb.emitAll _).pressed⟩
  · exact hb

theorem Closed.releaseModifiers (hb : b.Closed ss) : b.releaseModifiers.Closed ss :=
  ⟨(hb.emitAll _).inRelease, (hb.emitAll _).pressed⟩

/-- A boundary closes the first half. -/
theorem closed_cross (b : Build) : b.cross.Closed b.pressed := by
  have hopen : ({ b with inRelease := true } : Build).Closed b.pressed := ⟨rfl, rfl⟩
  exact ⟨(hopen.releaseOrdinary.emitAll _).inRelease, (hopen.releaseOrdinary.emitAll _).pressed⟩

theorem Closed.step (hb : b.Closed ss) (h : b.step t = .ok b') : b'.Closed ss := by
  rcases step_cases h with ⟨_, _, rfl⟩ | ⟨s, _, rfl⟩ | ⟨s, p, g, _, _, rfl⟩
  · exact hb.pressed ▸ closed_cross b
  · have htap := hb.repress.releaseOrdinary.emit (.press s)
    exact ⟨htap.inRelease, htap.pressed⟩
  · have hmark := hb.emit ⟨s, p⟩
    exact ⟨hmark.inRelease, hmark.pressed⟩

/-- Nothing behind the boundary changes the first half. -/
theorem Closed.steps (hb : b.Closed ss) (h : b.steps ts = .ok b') : b'.Closed ss := by
  induction ts generalizing b with
  | nil =>
    cases h
    exact hb
  | cons t ts ih =>
    obtain ⟨c, hc, hrest⟩ := steps_cons_ok_iff.mp h
    exact ih (hb.step hc) hrest

theorem Closed.finish (hb : b.Closed ss) : b.finish.Closed ss := by
  unfold Build.finish
  split
  · rw [if_pos hb.inRelease]
    exact hb.releaseOrdinary.releaseModifiers.releaseOrdinary
  · exact hb.releaseModifiers.releaseOrdinary

end Closed

section Finish

/-- The modifiers that still have to be let go of behind the boundary. -/
theorem modifiersWhere_cross (b : Build) :
    (b.cross.modifiersWhere fun h => h == .down || h == .held) =
      b.modifiersWhere (· == .held) := by
  have hm : b.cross.modifiers = moveHolds (· == .down) .pending b.modifiers := by simp [cross]
  rw [modifiersWhere, modifiersWhere, hm]
  induction b.modifiers with
  | nil => rfl
  | cons e ms ih =>
    obtain ⟨m, g⟩ := e
    cases g with
    | held => exact congrArg (m :: ·) ih
    | _ => exact ih

/-- Without the order, the modifiers that are down and those that are held are let go of. -/
theorem perm_modifiersWhere (b : Build) :
    (b.modifiersWhere fun h => h == .down || h == .held).Perm
      (b.modifiersWhere (· == .down) ++ b.modifiersWhere (· == .held)) := by
  unfold modifiersWhere
  induction b.modifiers with
  | nil => exact .nil
  | cons e ms ih =>
    obtain ⟨m, g⟩ := e
    cases g with
    | down => exact ih.cons m
    | held => exact (ih.cons m).trans List.perm_middle.symm
    | _ => exact ih

/-- A key whose boundary has not come lets go of the tapped symbol, of the modifiers that are down,
and of those that are held. -/
theorem sent_finish_of_open (hb : b.Sound) (hs : b.split = true) (hr : b.inRelease = false) :
    b.finish.sent = b.sent ++ b.ordinaryReleases ++ (b.modifiersWhere (· == .down)).map .release ++
      (b.modifiersWhere (· == .held)).map .release := by
  have hc := (hb.cross hs).filed
  have hsame : b.cross.releaseOrdinary = b.cross := by simp [releaseOrdinary]
  have hlast : b.cross.releaseModifiers.ordinaryReleases = [] := by
    simp [ordinaryReleases, releaseModifiers]
  have hfinish : b.finish = b.cross.releaseModifiers.releaseOrdinary := by
    simp [finish, hs, hr, hsame]
  rw [hfinish, sent_releaseOrdinary hc.releaseModifiers, hlast, List.append_nil,
    sent_releaseModifiers hc, sent_cross, modifiersWhere_cross]

/-- Another slot lets go of its modifiers first. -/
theorem sent_finish_of_single (hb : b.Filed) (hs : b.split = false) :
    b.finish.sent = b.sent ++
      (b.modifiersWhere fun h => h == .down || h == .held).map .release ++ b.ordinaryReleases := by
  have hsame : b.releaseModifiers.ordinaryReleases = b.ordinaryReleases := by
    simp [ordinaryReleases, releaseModifiers]
  have hfinish : b.finish = b.releaseModifiers.releaseOrdinary := by simp [finish, hs]
  rw [hfinish, sent_releaseOrdinary hb.releaseModifiers, hsame, sent_releaseModifiers hb]

end Finish

section Halves

theorem press_finish_of_open (hb : b.Filed) (hs : b.split = true) (hr : b.inRelease = false) :
    b.finish.halves.press = b.sent := by
  rw [← finish_cross hs hr, halves, (closed_cross b).finish.pressed]
  simp [sent, history, hb hr]

theorem release_finish_of_open (hb : b.Sound) (hs : b.split = true) (hr : b.inRelease = false) :
    b.finish.halves.release = b.ordinaryReleases ++
      (b.modifiersWhere (· == .down) ++ b.modifiersWhere (· == .held)).map .release := by
  refine (List.append_right_inj b.sent).mp ?_
  rw [← press_finish_of_open hb.filed hs hr, halves_append, press_finish_of_open hb.filed hs hr,
    sent_finish_of_open hb hs hr, List.map_append]
  simp only [List.append_assoc]

/-- What is built for a slot of its own is all in the first half. -/
theorem halves_eq_of_single {r : Halves} (h : Halves.ofSteps? false ts = .ok r) :
    r = ⟨r.press ++ r.release, []⟩ := by
  obtain ⟨press, release⟩ := r
  obtain rfl : release = [] := release_eq_nil h
  rw [List.append_nil]

/-- The releases of the two modes are the same but for their order. -/
theorem perm_releases (b : Build) :
    ((b.modifiersWhere fun h => h == .down || h == .held).map Stroke.release ++
      b.ordinaryReleases).Perm
    (b.ordinaryReleases ++
      (b.modifiersWhere (· == .down) ++ b.modifiersWhere (· == .held)).map .release) :=
  List.perm_append_comm.trans ((perm_modifiersWhere b).map _ |>.append_left _)

/-- A key whose boundary has not come. -/
theorem open_of_steps (hts : ∀ t ∈ ts, t.mark ≠ .release)
    (h : Build.steps { split := true } ts = .ok b) :
    b.Sound ∧ b.split = true ∧ b.inRelease = false :=
  ⟨sound_of_steps h, split_of_steps h, inRelease_of_steps hts h⟩

theorem ofSteps?_append_boundaries (hts : ∀ t ∈ ts, t.mark ≠ .release) (hne : rs ≠ [])
    (hrs : ∀ t ∈ rs, t.mark = .release) :
    Halves.ofSteps? true (ts ++ rs) = Halves.ofSteps? true ts := by
  unfold Halves.ofSteps?
  rw [steps_append]
  cases hb : Build.steps { split := true } ts with
  | error e => rfl
  | ok b =>
    obtain ⟨_, hs, hr⟩ := open_of_steps hts hb
    have hboundaries : ((.ok b : Except BuildError Build).bind fun c => c.steps rs) = .ok b.cross :=
      steps_of_boundaries hs hne hrs
    rw [hboundaries]
    exact congrArg (fun c => Except.ok c.halves) (finish_cross hs hr)

theorem exists_press_of_boundary {r : Halves} (hts : ∀ t ∈ ts, t.mark ≠ .release)
    (ht : t.mark = .release) (h : Halves.ofSteps? true (ts ++ t :: us) = .ok r) :
    ∃ s, Halves.ofSteps? true ts = .ok s ∧ s.press = r.press := by
  obtain ⟨c, hc, rfl⟩ := Halves.ofSteps?_ok_iff.mp h
  obtain ⟨b, hb, hc⟩ := steps_append_ok_iff.mp hc
  obtain ⟨_, hs, hr⟩ := open_of_steps hts hb
  obtain ⟨d, hd, hc⟩ := steps_cons_ok_iff.mp hc
  have hstep : b.step t = .ok b.cross := by simp [step, ht, hs]
  obtain rfl : b.cross = d := Except.ok.inj (hstep.symm.trans hd)
  refine ⟨b.finish.halves, Halves.ofSteps?_ok_iff.mpr ⟨b, hb, rfl⟩, ?_⟩
  rw [← finish_cross hs hr, halves, halves, (closed_cross b).finish.pressed,
    ((closed_cross b).steps hc).finish.pressed]

theorem ofSteps?_modes (hts : ∀ t ∈ ts, t.mark ≠ .release) :
    (∃ e, Halves.ofSteps? true ts = .error e ∧ Halves.ofSteps? false ts = .error e) ∨
      ∃ r last, Halves.ofSteps? true ts = .ok r ∧
        Halves.ofSteps? false ts = .ok ⟨r.press ++ last, []⟩ ∧ last.Perm r.release := by
  have hmode : Build.steps { split := false } ts =
      (Build.steps { split := true } ts).map (inMode false) :=
    steps_inMode false { split := true } hts
  cases hb : Build.steps { split := true } ts with
  | error e =>
    refine .inl ⟨e, ?_, ?_⟩
    · rw [Halves.ofSteps?, hb]
      rfl
    · rw [Halves.ofSteps?, hmode, hb]
      rfl
  | ok b =>
    obtain ⟨hsound, hs, hr⟩ := open_of_steps hts hb
    have hfiled : (b.inMode false).Filed := hsound.filed
    have hsingle : Halves.ofSteps? false ts = .ok (b.inMode false).finish.halves :=
      Halves.ofSteps?_ok_iff.mpr ⟨b.inMode false, by rw [hmode, hb]; rfl, rfl⟩
    refine .inr ⟨b.finish.halves, _, Halves.ofSteps?_ok_iff.mpr ⟨b, hb, rfl⟩, ?_,
      release_finish_of_open hsound hs hr ▸ perm_releases b⟩
    rw [hsingle, halves_eq_of_single hsingle, halves_append, sent_finish_of_single hfiled rfl,
      press_finish_of_open hsound.filed hs hr, List.append_assoc]
    rfl

end Halves

/-- For steps without a boundary: boundaries may be added at their end for a key; no steps behind a
boundary change the first half; and what another slot sends is the first half of the key, followed
by a rearrangement of its second half. A step that cannot be built is an error in both modes. -/
theorem key_and_slot_builds_agree (hts : ∀ t ∈ ts, t.mark ≠ .release) :
    (∀ rs, rs ≠ [] → (∀ t ∈ rs, t.mark = .release) →
      Halves.ofSteps? true (ts ++ rs) = Halves.ofSteps? true ts) ∧
    (∀ t us r, t.mark = .release → Halves.ofSteps? true (ts ++ t :: us) = .ok r →
      ∃ s, Halves.ofSteps? true ts = .ok s ∧ s.press = r.press) ∧
    ((∃ e, Halves.ofSteps? true ts = .error e ∧ Halves.ofSteps? false ts = .error e) ∨
      ∃ r last, Halves.ofSteps? true ts = .ok r ∧
        Halves.ofSteps? false ts = .ok ⟨r.press ++ last, []⟩ ∧ last.Perm r.release) :=
  ⟨fun _ => ofSteps?_append_boundaries hts, fun _ _ _ => exists_press_of_boundary hts,
    ofSteps?_modes hts⟩

/-- Two modifiers are down, one between them is held, and a symbol is tapped. -/
def mixedModifiers : List Step := [.down ⟨1⟩, .hold ⟨2⟩, .tap ⟨3⟩, .down ⟨4⟩]

theorem key_and_slot_builds_agree_of_mixedModifiers :
    (∀ t ∈ mixedModifiers, t.mark ≠ .release) ∧
      Halves.ofSteps? true (mixedModifiers ++ [.boundary, .boundary]) =
        Halves.ofSteps? true mixedModifiers ∧
      (∃ s, Halves.ofSteps? true mixedModifiers = .ok s ∧
        s.press = [.press ⟨1⟩, .press ⟨2⟩, .press ⟨3⟩, .press ⟨4⟩]) ∧
      ∃ r last, Halves.ofSteps? true mixedModifiers = .ok r ∧
        Halves.ofSteps? false mixedModifiers = .ok ⟨r.press ++ last, []⟩ ∧
        last.Perm r.release ∧ last ≠ r.release := by
  have hts : ∀ t ∈ mixedModifiers, t.mark ≠ .release := by decide
  obtain ⟨ha, hb, hc⟩ := key_and_slot_builds_agree hts
  have hbehind : Halves.ofSteps? true (mixedModifiers ++ .boundary :: [.up ⟨2⟩, .tap ⟨3⟩]) =
      .ok ⟨[.press ⟨1⟩, .press ⟨2⟩, .press ⟨3⟩, .press ⟨4⟩], [.release ⟨3⟩, .release ⟨1⟩,
        .release ⟨4⟩, .release ⟨2⟩, .press ⟨1⟩, .press ⟨4⟩, .press ⟨3⟩, .release ⟨3⟩, .release ⟨1⟩,
        .release ⟨4⟩]⟩ := by decide
  refine ⟨hts, ha _ (by decide) (by decide), hb .boundary _ _ rfl hbehind, ?_⟩
  rcases hc with ⟨e, he, _⟩ | ⟨r, last, hkey, hslot, hperm⟩
  · have hok : Halves.ofSteps? true mixedModifiers ≠ .error e := by
      intro h
      cases h
    exact absurd he hok
  · refine ⟨r, last, hkey, hslot, hperm, ?_⟩
    rintro rfl
    cases hkey
    cases hslot

end JogShuttle.Build
