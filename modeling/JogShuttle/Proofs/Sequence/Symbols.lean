import JogShuttle.Proofs.Sequence.Reachable

/-!
# The symbols of a build

A build sends strokes on symbols that its steps name and on no others. What holds of all of these
holds of the tapped symbol, of the modifiers and of everything sent: taps and marks bring in their
own symbols, and boundaries, presses of pending modifiers and the end of the build only those that
are there already.
-/

set_option autoImplicit false

namespace JogShuttle.Build

variable {p : Symbol → Prop} {b b' : Build} {t : Step} {ts : List Step}

/-- All symbols of a build satisfy a predicate. -/
structure Within (p : Symbol → Prop) (b : Build) : Prop where
  ordinary : ∀ m ∈ b.ordinary, p m
  modifiers : ∀ m ∈ keys b.modifiers, p m
  sent : ∀ k ∈ b.sent, p k.symbol

theorem within_initial (p : Symbol → Prop) (split : Bool) : Within p { split } where
  ordinary := fun _ h => by cases h
  modifiers := fun _ h => by cases h
  sent := fun _ h => by cases h

theorem forall_mem_map_symbol {f : Symbol → Stroke} (hf : ∀ m, (f m).symbol = m)
    {ms : List Symbol} (h : ∀ m ∈ ms, p m) : ∀ k ∈ ms.map f, p k.symbol := by
  intro k hk
  obtain ⟨m, hm, rfl⟩ := List.mem_map.mp hk
  rw [hf]
  exact h m hm

namespace Within

theorem ordinaryReleases (h : b.Within p) : ∀ k ∈ b.ordinaryReleases, p k.symbol :=
  forall_mem_map_symbol Stroke.release_symbol fun m hm => h.ordinary m (Option.mem_toList.mp hm)

theorem modifiersWhere (h : b.Within p) (q : Hold → Bool) : ∀ m ∈ b.modifiersWhere q, p m := by
  intro m hm
  obtain ⟨e, he, rfl⟩ := List.mem_map.mp hm
  exact h.modifiers e.1 (List.mem_map_of_mem (List.mem_filter.mp he).1)

theorem represses (h : b.Within p) : ∀ k ∈ b.represses, p k.symbol := by
  unfold Build.represses
  split
  · exact forall_mem_map_symbol Stroke.press_symbol (h.modifiersWhere _)
  · exact List.forall_mem_nil _

theorem tap (h : b.Within p) (hb : b.Filed) {s : Symbol} (hs : p s) : (b.tap s).Within p where
  ordinary := by
    rintro m ⟨⟩
    exact hs
  modifiers := by
    rw [keys_tap]
    exact h.modifiers
  sent := by
    rw [sent_tap hb]
    refine List.forall_mem_append.mpr ⟨List.forall_mem_append.mpr ⟨?_, h.ordinaryReleases⟩,
      List.forall_mem_singleton.mpr hs⟩
    exact List.forall_mem_append.mpr ⟨h.sent, h.represses⟩

theorem setModifier (h : b.Within p) (hb : b.Filed) {s : Symbol} (hs : p s) (pressed : Bool)
    (g : Hold) : (b.setModifier ⟨s, pressed⟩ g).Within p where
  ordinary := by simpa [Build.setModifier] using h.ordinary
  modifiers := by
    have hkeys : keys (b.setModifier ⟨s, pressed⟩ g).modifiers = keys (setHold s g b.modifiers) :=
      rfl
    rw [hkeys, keys_setHold]
    split
    · exact h.modifiers
    · exact List.forall_mem_append.mpr ⟨h.modifiers, List.forall_mem_singleton.mpr hs⟩
  sent := by
    rw [sent_setModifier hb]
    exact List.forall_mem_append.mpr ⟨h.sent, List.forall_mem_singleton.mpr hs⟩

theorem cross (h : b.Within p) : b.cross.Within p where
  ordinary := by simp
  modifiers := by
    rw [keys_cross]
    exact h.modifiers
  sent := by
    rw [sent_cross]
    exact List.forall_mem_append.mpr ⟨List.forall_mem_append.mpr ⟨h.sent, h.ordinaryReleases⟩,
      forall_mem_map_symbol Stroke.release_symbol (h.modifiersWhere _)⟩

theorem releaseOrdinary (h : b.Within p) (hb : b.Filed) : b.releaseOrdinary.Within p where
  ordinary := by simp
  modifiers := by simpa using h.modifiers
  sent := by
    rw [sent_releaseOrdinary hb]
    exact List.forall_mem_append.mpr ⟨h.sent, h.ordinaryReleases⟩

theorem releaseModifiers (h : b.Within p) (hb : b.Filed) : b.releaseModifiers.Within p where
  ordinary := by simpa [Build.releaseModifiers] using h.ordinary
  modifiers := by simpa using h.modifiers
  sent := by
    rw [sent_releaseModifiers hb]
    exact List.forall_mem_append.mpr ⟨h.sent,
      forall_mem_map_symbol Stroke.release_symbol (h.modifiersWhere _)⟩

/-- A step brings in no symbol but its own. -/
theorem step (h : b.Within p) (hb : b.Filed) (ht : ∀ m ∈ t.symbol, p m) (hs : b.step t = .ok b') :
    b'.Within p := by
  rcases step_cases hs with ⟨_, _, rfl⟩ | ⟨s, rfl, rfl⟩ | ⟨s, pressed, g, hsymbol, _, rfl⟩
  · exact h.cross
  · exact h.tap hb (ht s rfl)
  · exact h.setModifier hb (ht s hsymbol) pressed g

theorem steps (h : b.Within p) (hb : b.Sound) (hts : ∀ t ∈ ts, ∀ m ∈ t.symbol, p m)
    (hs : b.steps ts = .ok b') : b'.Within p := by
  induction ts generalizing b with
  | nil =>
    cases hs
    exact h
  | cons t ts ih =>
    obtain ⟨ht, hts⟩ := List.forall_mem_cons.mp hts
    obtain ⟨c, hc, hs⟩ := steps_cons_ok_iff.mp hs
    exact ih (h.step hb.filed ht hc) (hb.step hc) hts hs

theorem finish (h : b.Within p) (hb : b.Filed) : b.finish.Within p := by
  have hend : ∀ {c : Build}, c.Within p → c.Filed → c.releaseModifiers.releaseOrdinary.Within p :=
    fun hc hf => (hc.releaseModifiers hf).releaseOrdinary hf.releaseModifiers
  unfold Build.finish
  cases b.split with
  | false => exact hend h hb
  | true =>
    cases b.inRelease with
    | true => exact hend (h.releaseOrdinary hb) hb.releaseOrdinary
    | false =>
      exact hend (h.cross.releaseOrdinary (filed_cross b)) (filed_cross b).releaseOrdinary

end Within

/-- Taps press pending modifiers again and let go of the symbol tapped before; everything else that
they send is on their own symbols. -/
theorem sent_taps {ms : List Symbol} (hb : b.Filed) (hms : ∀ m ∈ ms, p m)
    (h : b.steps (ms.map .tap) = .ok b') :
    ∃ ss, b'.sent = b.sent ++ ss ∧
      ∀ k ∈ ss, k ∈ b.represses ∨ k ∈ b.ordinaryReleases ∨ p k.symbol := by
  induction ms generalizing b with
  | nil =>
    cases h
    exact ⟨[], (List.append_nil _).symm, List.forall_mem_nil _⟩
  | cons m ms ih =>
    obtain ⟨hm, hms⟩ := List.forall_mem_cons.mp hms
    obtain ⟨c, hc, h⟩ := steps_cons_ok_iff.mp h
    cases hc
    obtain ⟨ss, hsent, hss⟩ := ih (hb.tap m) hms h
    refine ⟨b.represses ++ b.ordinaryReleases ++ .press m :: ss, ?_, ?_⟩
    · rw [hsent, sent_tap hb]
      simp
    · -- after the first tap nothing is pending, and the tapped symbol is one of these
      have hpending : (b.tap m).represses = [] := by simp [represses]
      have hordinary : (b.tap m).ordinaryReleases = [.release m] := rfl
      intro k hk
      rcases List.mem_append.mp hk with hk | hk
      · exact (List.mem_append.mp hk).imp_right Or.inl
      · refine Or.inr (Or.inr ?_)
        rcases List.mem_cons.mp hk with rfl | hk
        · exact hm
        · rcases hss k hk with hk | hk | hk
          · rw [hpending] at hk
            cases hk
          · rw [hordinary] at hk
            rw [List.mem_singleton.mp hk]
            exact hm
          · exact hk

/-- Every stroke of the halves is on a symbol that some step names. -/
theorem exists_step_of_mem_halves {split : Bool} {r : Halves} {k : Stroke}
    (h : Halves.ofSteps? split ts = .ok r) (hk : k ∈ r.press ++ r.release) :
    ∃ t ∈ ts, t.symbol = some k.symbol := by
  obtain ⟨b, hb, rfl⟩ := Halves.ofSteps?_ok_iff.mp h
  have hwithin : b.Within fun m => ∃ t ∈ ts, t.symbol = some m :=
    (within_initial _ split).steps (sound_initial split) (fun t ht m hm => ⟨t, ht, hm⟩) hb
  rw [halves_append] at hk
  exact (hwithin.finish (sound_of_steps hb).filed).sent k hk

end JogShuttle.Build
