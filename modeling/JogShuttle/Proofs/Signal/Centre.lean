import JogShuttle.Proofs.Signal.Coherence
import Mathlib.Data.List.Basic

/-!
# The inferred return of the ring

The ring never reports its centre. Whether a dial sample tells that it is back is a matter of the
samples before it alone: the last report of the ring was off the centre, and this is the first dial
sample since to come late enough. The three fields that decide it are related to the samples once,
in `awaitedSince_iff`.
-/

set_option autoImplicit false

namespace JogShuttle

namespace Signal

variable {s : Signal} {timeout since time : Duration} {isBound : Slot → Bool} {o q : Outcome}
variable {xs ys : List Input} {x : Input}

/-- Among some samples the ring reports nothing. -/
def Silent (xs : List Input) : Prop := ∀ x ∈ xs, x.sample.ring? = none

/-- The ring is awaited back at its centre: its last report, at the given time, was off the centre,
and every dial sample since came too early to tell of its return. -/
def AwaitedSince (timeout : Duration) (xs : List Input) (since : Duration) : Prop :=
  ∃ before x after level, xs = before ++ x :: after ∧
    x.sample.ring? = some (level, since) ∧ level ≠ 0 ∧ Silent after ∧
    ∀ y ∈ after, ∀ value time, y.sample = .jog value time →
      time.micros - since.micros < timeout.micros

theorem not_awaitedSince_nil : ¬AwaitedSince timeout [] since := by
  rintro ⟨before, x, after, _, h, _⟩
  cases before <;> cases h

/-- An earlier sample of a longer run is its last one or one of those before. -/
theorem earlier_cases {before after : List Input} {y : Input}
    (h : xs ++ [x] = before ++ y :: after) :
    (after = [] ∧ y = x) ∨ ∃ rest, after = rest ++ [x] ∧ xs = before ++ y :: rest := by
  rcases List.eq_nil_or_concat' after with rfl | ⟨rest, z, rfl⟩
  · obtain ⟨_, hxy⟩ := List.append_inj' h rfl
    exact Or.inl ⟨rfl, by simpa using hxy.symm⟩
  · rw [← List.cons_append, ← List.append_assoc] at h
    obtain ⟨hxs, hxz⟩ := List.append_inj' h rfl
    obtain rfl : x = z := by simpa using hxz
    exact Or.inr ⟨rest, rfl, hxs⟩

/-- A report of the ring decides alone. -/
theorem awaitedSince_concat_ring {level : Int} (hx : x.sample.ring? = some (level, time)) :
    AwaitedSince timeout (xs ++ [x]) since ↔ level ≠ 0 ∧ time = since := by
  constructor
  · rintro ⟨before, y, after, n, h, hy, hn, hsilent, _⟩
    rcases earlier_cases h with ⟨rfl, rfl⟩ | ⟨rest, rfl, _⟩
    · rw [hx] at hy
      cases hy
      exact ⟨hn, rfl⟩
    · -- the report would lie in the silence behind an earlier one
      rw [hsilent x (by simp)] at hx
      cases hx
  · rintro ⟨hlevel, rfl⟩
    exact ⟨xs, x, [], level, rfl, hx, hlevel, by simp [Silent], by simp⟩

/-- Where the ring reports nothing, it is still awaited unless a dial sample was late. -/
theorem awaitedSince_concat_silent (hx : x.sample.ring? = none) :
    AwaitedSince timeout (xs ++ [x]) since ↔ AwaitedSince timeout xs since ∧
      ∀ value time, x.sample = .jog value time →
        time.micros - since.micros < timeout.micros := by
  constructor
  · rintro ⟨before, y, after, level, h, hy, hlevel, hsilent, hearly⟩
    rcases earlier_cases h with ⟨rfl, rfl⟩ | ⟨rest, rfl, hxs⟩
    · rw [hx] at hy
      cases hy
    · obtain ⟨hrest, _⟩ := List.forall_mem_append.mp hsilent
      obtain ⟨hearly, hlast⟩ := List.forall_mem_append.mp hearly
      exact ⟨⟨before, y, rest, level, hxs, hy, hlevel, hrest, hearly⟩, hlast x (by simp)⟩
  · rintro ⟨⟨before, y, after, level, rfl, hy, hlevel, hsilent, hearly⟩, hlast⟩
    refine ⟨before, y, after ++ [x], level, by simp, hy, hlevel, ?_, ?_⟩
    · exact List.forall_mem_append.mpr ⟨hsilent, by simpa using hx⟩
    · exact List.forall_mem_append.mpr ⟨hearly, by simpa using hlast⟩

theorem awaitedSince_append_silent (hys : Silent ys) :
    AwaitedSince timeout (xs ++ ys) since ↔ AwaitedSince timeout xs since ∧
      ∀ y ∈ ys, ∀ value time, y.sample = .jog value time →
        time.micros - since.micros < timeout.micros := by
  induction ys using List.reverseRecOn with
  | nil => simp
  | append_singleton ys y ih =>
    obtain ⟨hys, hy⟩ := List.forall_mem_append.mp hys
    rw [← List.append_assoc, awaitedSince_concat_silent (hy y (by simp)), ih hys, and_assoc,
      List.forall_mem_append, List.forall_mem_singleton]

/-- What the state knows of the ring, in terms of the samples taken. -/
theorem awaitedSince_iff (h : run timeout {} xs = .ok o) : AwaitedSince timeout xs since ↔
    o.signal.needsCenter = true ∧ o.signal.lastShuttle = some since := by
  induction xs using List.reverseRecOn generalizing o with
  | nil =>
    cases h
    simp [not_awaitedSince_nil]
  | append_singleton xs x ih =>
    obtain ⟨p, q, hp, hq, rfl⟩ := run_concat_ok_iff.mp h
    change _ ↔ q.signal.needsCenter = true ∧ q.signal.lastShuttle = some since
    rcases sample_cases hq with ⟨hx, hdial, hs, _⟩ | ⟨level, time, hx, hs, _⟩ |
      ⟨value, time, hx, hd, hs, _⟩ | ⟨value, time, hx, hd, hs, _⟩
    · rw [awaitedSince_concat_silent hx, ih hp, hs]
      exact and_iff_left fun value time hjog => absurd hjog (hdial value time)
    · rw [awaitedSince_concat_ring hx, hs]
      simp [ringAt]
    · -- the return is inferred now, so it is no longer awaited
      have hring : x.sample.ring? = none := by rw [hx]; rfl
      obtain ⟨_, last, hlast, hlate⟩ := hd
      rw [awaitedSince_concat_silent hring, ih hp, hs]
      constructor
      · rintro ⟨⟨_, hsince⟩, hearly⟩
        have := hearly value time hx
        rw [hlast] at hsince
        cases hsince
        omega
      · rintro ⟨hneeds, _⟩
        cases hneeds
    · have hring : x.sample.ring? = none := by rw [hx]; rfl
      rw [awaitedSince_concat_silent hring, ih hp, hs]
      refine and_iff_left_of_imp ?_
      rintro ⟨hneeds, hlast⟩ v t hjog
      rw [hx] at hjog
      cases hjog
      by_contra hlate
      exact hd ⟨hneeds, since, hlast, by omega⟩

/-- The return of the ring comes out first and once. -/
theorem ringSlots_centre {level : Int} (hl : s.shuttleLevel = some level) (h : level ≠ 0)
    (isBound : Slot → Bool) :
    ∃ steps, s.ringSlots 0 isBound = .shuttle 0 :: steps ∧ .shuttle 0 ∉ steps := by
  refine ⟨_, by rw [ringSlots, hl, if_neg (by simpa using h), levelSlots], ?_⟩
  split
  · intro hmem
    cases List.eq_of_mem_replicate hmem
  · exact List.not_mem_nil

theorem shuttle_not_mem_turnTo (s : Signal) (level position : Int) :
    .shuttle level ∉ s.turnTo position := by
  intro hmem
  obtain ⟨d, hd⟩ := mem_turnTo hmem
  cases hd

/-- A dial sample tells of the return of the ring just when it is awaited and the sample is late, and
it does so ahead of its own detents. -/
theorem dial_sample_after_run (h : run timeout {} xs = .ok o) {value : Int}
    (hx : x.sample = .jog value time)
    (hq : o.signal.sample timeout x.isBound x.sample = .ok q) :
    (.shuttle 0 ∈ q.slots ↔ ∃ since, AwaitedSince timeout xs since ∧
      timeout.micros ≤ time.micros - since.micros) ∧
    (.shuttle 0 ∈ q.slots → ∃ rest, q.slots = .shuttle 0 :: rest ∧ .shuttle 0 ∉ rest) := by
  have hdue : (∃ since, AwaitedSince timeout xs since ∧
      timeout.micros ≤ time.micros - since.micros) ↔ o.signal.Due timeout time := by
    simp only [awaitedSince_iff h, Due, and_assoc, exists_and_left]
  rw [hdue]
  rw [hx] at hq
  rcases sample_cases hq with ⟨_, hdial, _⟩ | ⟨level, t, hring, _⟩ |
    ⟨v, t, hjog, hd, _, hslots⟩ | ⟨v, t, hjog, hd, _, hslots⟩
  · exact absurd rfl (hdial value time)
  · cases hring
  · cases hjog
    obtain ⟨level, hl, hne⟩ := (coherent_run h).center.mp hd.1
    obtain ⟨steps, hsteps, hnone⟩ := ringSlots_centre hl hne x.isBound
    rw [hslots, hsteps, List.cons_append]
    refine ⟨iff_of_true List.mem_cons_self hd, fun _ => ⟨_, rfl, ?_⟩⟩
    rw [List.mem_append, not_or]
    exact ⟨hnone, shuttle_not_mem_turnTo _ 0 _⟩
  · cases hjog
    rw [hslots]
    have hnone := shuttle_not_mem_turnTo o.signal 0 (Dial.wrap value)
    exact ⟨iff_of_false hnone hd, fun hmem => absurd hmem hnone⟩

/-- What a sample behind a run comes to. -/
def sampleAfter (timeout : Duration) (xs : List Input) (x : Input) :
    Except Duration.OutOfRange Outcome := do
  (← run timeout {} xs).signal.sample timeout x.isBound x.sample

/-- A sample behind a run tells of the return of the ring. -/
def Recenters (timeout : Duration) (xs : List Input) (x : Input) : Prop :=
  ∃ o, sampleAfter timeout xs x = .ok o ∧ .shuttle 0 ∈ o.slots

theorem sampleAfter_eq (h : run timeout {} xs = .ok o) :
    sampleAfter timeout xs x = o.signal.sample timeout x.isBound x.sample := by
  rw [sampleAfter, h]
  rfl

theorem exists_sampleAfter (timeout : Duration) (ht : Timely (xs ++ x :: ys)) :
    ∃ o q, run timeout {} xs = .ok o ∧
      o.signal.sample timeout x.isBound x.sample = .ok q ∧ sampleAfter timeout xs x = .ok q := by
  have ht' : Timely ((xs ++ [x]) ++ ys) := by simpa using ht
  obtain ⟨o, ho⟩ := exists_run timeout ht'.left.left
  obtain ⟨q, hq⟩ := exists_sample_of_run ht'.left ho
  exact ⟨o, q, ho, hq, by rw [sampleAfter_eq ho, hq]⟩

/-- For a dial sample it is a matter of the samples before it and of its time. -/
theorem recenters_iff {value : Int} (ht : Timely (xs ++ x :: ys)) (hx : x.sample = .jog value time) :
    Recenters timeout xs x ↔ ∃ since, AwaitedSince timeout xs since ∧
      timeout.micros ≤ time.micros - since.micros := by
  obtain ⟨o, q, ho, hq, hafter⟩ := exists_sampleAfter timeout ht
  rw [← (dial_sample_after_run ho hx hq).1]
  constructor
  · rintro ⟨r, hr, hmem⟩
    rw [hafter] at hr
    cases hr
    exact hmem
  · exact fun hmem => ⟨q, hafter, hmem⟩

/-- Every dial sample tells of the return of the ring if and only if the ring is awaited since its
last report and the sample is late by then; it does so ahead of its detents. So the ring reports
anew between any two dial samples that tell of its return, and the wait is counted from its last
report, whatever level that repeats. -/
theorem centre_inferred_from_history (timeout : Duration) (zs : List Input) (ht : Timely zs) :
    (∀ xs x ys value time, zs = xs ++ x :: ys → x.sample = .jog value time →
      ∃ o, sampleAfter timeout xs x = .ok o ∧
        (.shuttle 0 ∈ o.slots ↔ ∃ since, AwaitedSince timeout xs since ∧
          timeout.micros ≤ time.micros - since.micros) ∧
        (.shuttle 0 ∈ o.slots → ∃ rest, o.slots = .shuttle 0 :: rest ∧ .shuttle 0 ∉ rest)) ∧
    (∀ xs x ys y ws value time value' time', zs = xs ++ x :: (ys ++ y :: ws) →
      x.sample = .jog value time → y.sample = .jog value' time' →
      Recenters timeout xs x → Recenters timeout (xs ++ x :: ys) y →
      ∃ r ∈ ys, r.sample.ring?.isSome = true) ∧
    (∀ xs x ys y ws level since value time, zs = xs ++ x :: (ys ++ y :: ws) →
      x.sample.ring? = some (level, since) → (∀ r ∈ ys, r.sample.ring? = none) →
      y.sample = .jog value time → time.micros - since.micros < timeout.micros →
      ¬Recenters timeout (xs ++ x :: ys) y) := by
  refine ⟨?_, ?_, ?_⟩
  · rintro xs x ys value time rfl hx
    obtain ⟨o, q, ho, hq, hafter⟩ := exists_sampleAfter timeout ht
    exact ⟨q, hafter, dial_sample_after_run ho hx hq⟩
  · rintro xs x ys y ws value time value' time' rfl hx hy hfirst hsecond
    have ht' : Timely ((xs ++ x :: ys) ++ y :: ws) := by simpa using ht
    obtain ⟨since, hsince, hlate⟩ := (recenters_iff ht hx).mp hfirst
    obtain ⟨since', hsince', _⟩ := (recenters_iff ht' hy).mp hsecond
    by_contra hnone
    have hsilent : Silent (x :: ys) := by
      refine List.forall_mem_cons.mpr ⟨by rw [hx]; rfl, ?_⟩
      intro r hr
      by_contra hring
      exact hnone ⟨r, hr, Option.isSome_iff_ne_none.mpr hring⟩
    -- both wait for the same report, and the first sample was early for the second
    obtain ⟨hwait, hearly⟩ := (awaitedSince_append_silent hsilent).mp hsince'
    obtain ⟨o, _, ho, _⟩ := exists_sampleAfter timeout ht
    have hlast := ((awaitedSince_iff ho).mp hsince).2
    rw [((awaitedSince_iff ho).mp hwait).2] at hlast
    obtain rfl : since' = since := Option.some.inj hlast
    have := hearly x (by simp) value time hx
    omega
  · rintro xs x ys y ws level since value time rfl hx hys hy hearly hback
    have ht' : Timely ((xs ++ x :: ys) ++ y :: ws) := by simpa using ht
    obtain ⟨since', hsince, hlate⟩ := (recenters_iff ht' hy).mp hback
    rw [← List.singleton_append, ← List.append_assoc] at hsince
    obtain ⟨hwait, _⟩ := (awaitedSince_append_silent hys).mp hsince
    obtain ⟨_, rfl⟩ := (awaitedSince_concat_ring hx).mp hwait
    omega

/-- The ring repeats its level while it is awaited. The second turn of the dial is late for the first
report only, the third is late for the repeated one too. -/
def repeatingRun : List Input :=
  [⟨.shuttle 3 (millis 0), fun _ => false⟩,
   ⟨.jog 10 (millis 2), fun _ => false⟩,
   ⟨.shuttle 3 (millis 4), fun _ => false⟩,
   ⟨.jog 11 (millis 7), fun _ => false⟩,
   ⟨.jog 12 (millis 9), fun _ => false⟩]

theorem centre_inferred_from_history_of_repeating :
    Timely repeatingRun ∧
    ¬Recenters defaultTimeout (repeatingRun.take 3) ⟨.jog 11 (millis 7), fun _ => false⟩ ∧
    ∃ o, sampleAfter defaultTimeout (repeatingRun.take 4)
        ⟨.jog 12 (millis 9), fun _ => false⟩ = .ok o ∧ .shuttle 0 ∈ o.slots := by
  have ht : Timely repeatingRun := by decide
  obtain ⟨hiff, _, hrepeat⟩ := centre_inferred_from_history defaultTimeout repeatingRun ht
  refine ⟨ht, hrepeat (repeatingRun.take 2) _ [] _ _ 3 _ _ _ rfl rfl (by simp) rfl (by decide), ?_⟩
  obtain ⟨o, ho, hback, _⟩ := hiff (repeatingRun.take 4) _ [] 12 _ rfl rfl
  refine ⟨o, ho, hback.mpr ⟨millis 4, ?_, by decide⟩⟩
  refine ⟨repeatingRun.take 2, _, (repeatingRun.drop 3).take 1, 3, rfl, rfl, by decide, ?_, ?_⟩
  · simp [Silent, repeatingRun, Sample.ring?]
  · simp [repeatingRun, defaultTimeout, millis]

end Signal

end JogShuttle
