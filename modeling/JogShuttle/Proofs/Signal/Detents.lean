import JogShuttle.Proofs.Signal.Run
import JogShuttle.Proofs.Signal.Turn

/-!
# Detents of a run

The detents that come out of a run are those of the turns between the positions reported. They do
not depend on how often the dial reports on its way, and over a run in which it never reports zero
they sum to the change of position on a ring without zero, whatever the ring and the keys do.
-/

set_option autoImplicit false

namespace JogShuttle

namespace Slot

def isDetent : Slot → Bool
  | jog _ => true
  | _ => false

theorem isDetent_eq_false_of_isKey {slot : Slot} (h : slot.isKey = true) :
    slot.isDetent = false := by
  cases slot <;> first | rfl | cases h

end Slot

namespace Sample

/-- The position that the dial reports. -/
def dial? : Sample → Option Int
  | jog value _ => some (Dial.wrap value)
  | _ => none

theorem dial?_eq_some_iff {x : Sample} {position : Int} :
    x.dial? = some position ↔ ∃ value time, x = .jog value time ∧ Dial.wrap value = position := by
  cases x <;> simp [dial?]

theorem wrap_of_dial? {x : Sample} {position : Int} (h : x.dial? = some position) :
    Dial.wrap position = position := by
  obtain ⟨value, _, _, rfl⟩ := dial?_eq_some_iff.mp h
  exact Dial.wrap_wrap value

end Sample

namespace Signal

variable {s : Signal} {timeout : Duration} {isBound : Slot → Bool} {o : Outcome}
variable {xs : List Input}

def detents (slots : List Slot) : List Slot := slots.filter Slot.isDetent

/-- The positions that the dial reports among some samples. -/
def dials (xs : List Input) : List Int := xs.filterMap (·.sample.dial?)

theorem detents_append (slots more : List Slot) :
    detents (slots ++ more) = detents slots ++ detents more := List.filter_append ..

theorem detents_eq_nil {slots : List Slot} (h : ∀ slot ∈ slots, slot.isDetent = false) :
    detents slots = [] := by
  rw [detents, List.filter_eq_nil_iff]
  intro slot hs
  simp [h slot hs]

theorem detents_turnTo (s : Signal) (position : Int) :
    detents (s.turnTo position) = s.turnTo position := by
  rw [detents, List.filter_eq_self]
  intro slot hs
  obtain ⟨d, rfl⟩ := mem_turnTo hs
  rfl

theorem detents_ringSlots (s : Signal) (level : Int) (isBound : Slot → Bool) :
    detents (s.ringSlots level isBound) = [] := by
  refine detents_eq_nil ?_
  intro slot hs
  unfold ringSlots levelSlots at hs
  split at hs
  · cases hs
  · rcases List.mem_cons.mp hs with rfl | hs
    · rfl
    · split at hs
      · rw [List.eq_of_mem_replicate hs]
        rfl
      · cases hs

/-- Only a report of the dial has detents and moves the position. -/
theorem detents_sample {x : Sample} (h : s.sample timeout isBound x = .ok o) :
    detents o.slots = (x.dial?.map s.turnTo).getD [] ∧
      o.signal.jogPosition = x.dial?.or s.jogPosition := by
  rcases sample_cases h with ⟨_, hdial, hs, hkeys⟩ | ⟨level, time, hx, hs, hslots⟩ |
    ⟨value, time, rfl, _, hs, hslots⟩ | ⟨value, time, rfl, _, hs, hslots⟩
  · have hx : x.dial? = none := by
      cases x with
      | jog value time => exact absurd rfl (hdial value time)
      | _ => rfl
    rw [hs, hx, detents_eq_nil fun slot hslot => Slot.isDetent_eq_false_of_isKey (hkeys slot hslot)]
    exact ⟨rfl, rfl⟩
  · have hx' : x.dial? = none := by
      cases x with
      | jog value time => cases hx
      | _ => rfl
    rw [hs, hslots, hx', detents_ringSlots]
    exact ⟨rfl, rfl⟩
  · rw [hs, hslots, detents_append, detents_ringSlots, detents_turnTo]
    exact ⟨rfl, rfl⟩
  · rw [hs, hslots, detents_turnTo]
    exact ⟨rfl, rfl⟩

/-- The positions that a run goes through: the one known before it and those reported in it. -/
def positions (s : Signal) (xs : List Input) : List Int := s.jogPosition.toList ++ dials xs

/-- A run has the detents of the turns from each position to the next, and ends at the last one. -/
theorem detents_run (h : run timeout s xs = .ok o) :
    detents o.slots = Dial.turns (s.positions xs) ∧
      o.signal.jogPosition = (s.positions xs).getLast? := by
  induction xs generalizing s o with
  | nil =>
    cases h
    unfold positions dials
    cases s.jogPosition <;> exact ⟨rfl, rfl⟩
  | cons x xs ih =>
    obtain ⟨p, q, hp, hq, rfl⟩ := run_cons_ok_iff.mp h
    obtain ⟨hdetents, hposition⟩ := detents_sample hp
    obtain ⟨hrest, hlast⟩ := ih hq
    change detents (p.slots ++ q.slots) = _ ∧ q.signal.jogPosition = _
    rw [detents_append, hdetents, hrest, hlast]
    unfold positions dials turnTo at *
    rw [hposition, List.filterMap_cons]
    cases x.sample.dial? with
    | none => exact ⟨rfl, rfl⟩
    | some next =>
      cases s.jogPosition with
      | none => exact ⟨rfl, rfl⟩
      | some position => exact ⟨rfl, List.getLast?_cons_cons.symm⟩

/-- Reports of the dial are taken if each could be compared with what is known of the ring at the
start: the first that tells of its return is the last to be compared. -/
theorem exists_run_of_dials (hxs : ∀ x ∈ xs, x.sample.dial?.isSome = true)
    (hc : ∀ time ∈ times xs, s.Comparable time) : ∃ o, run timeout s xs = .ok o := by
  induction xs generalizing s with
  | nil => exact ⟨_, rfl⟩
  | cons x xs ih =>
    obtain ⟨hx, hxs⟩ := List.forall_mem_cons.mp hxs
    obtain ⟨position, hposition⟩ := Option.isSome_iff_exists.mp hx
    obtain ⟨value, t, hsample, _⟩ := Sample.dial?_eq_some_iff.mp hposition
    rw [← List.singleton_append] at hc
    obtain ⟨o, ho⟩ : ∃ o, s.sample timeout x.isBound x.sample = .ok o :=
      exists_sample fun time ht =>
        hc time (mem_times_append.mpr (Or.inl (times_singleton.mpr ht)))
    have hnext : ∀ time ∈ times xs, o.signal.Comparable time := by
      intro time ht
      rw [hsample] at ho
      rcases sample_cases ho with ⟨_, hdial, _⟩ | ⟨_, _, hring, _⟩ |
        ⟨_, _, _, _, hs, _⟩ | ⟨_, _, _, _, hs, _⟩
      · exact absurd rfl (hdial value t)
      · cases hring
      · -- the ring is back at its centre, so that no time is compared any more
        rw [hs]
        intro last hneeds
        cases hneeds
      · rw [hs]
        exact hc time (mem_times_append.mpr (Or.inr ht))
    obtain ⟨q, hq⟩ := ih hxs hnext
    exact ⟨_, run_cons_ok_iff.mpr ⟨o, q, ho, hq, rfl⟩⟩

section Reports

variable {positions : List Int}

theorem dials_of_map (h : xs.map (·.sample.dial?) = positions.map some) : dials xs = positions := by
  have hid : (xs.map (·.sample.dial?)).filterMap id = dials xs := List.filterMap_map
  rw [← hid, h, List.filterMap_map]
  exact List.filterMap_some

theorem isSome_dial?_of_map (h : xs.map (·.sample.dial?) = positions.map some) :
    ∀ x ∈ xs, x.sample.dial?.isSome = true := by
  intro x hx
  have hmem : x.sample.dial? ∈ positions.map some := by
    rw [← h]
    exact List.mem_map_of_mem hx
  obtain ⟨position, _, hposition⟩ := List.mem_map.mp hmem
  rw [← hposition, Option.isSome_some]

end Reports

/-- Where the dial reports positions on its way, in their order and as often as it likes, the
detents are those of the whole turn, one on leaving each position of it but zero, and the position
is the same in the end. -/
theorem detents_independent_of_sampling (timeout : Duration) (s : Signal) (a b : Int)
    (reported : List Int) (xs : List Input) (y : Input)
    (hs : s.jogPosition = some (Dial.wrap a))
    (hreported : Dial.Along (Dial.route (Dial.wrap a) (Dial.wrap b)) reported)
    (hxs : xs.map (·.sample.dial?) = (reported ++ [Dial.wrap b]).map some)
    (hy : y.sample.dial? = some (Dial.wrap b)) :
    (∀ o p, run timeout s xs = .ok o → run timeout s [y] = .ok p →
      detents o.slots = detents p.slots ∧
      detents p.slots = ((Dial.route (Dial.wrap a) (Dial.wrap b)).dropLast.filter (· ≠ 0)).map
        (fun _ => .jog (Dial.direction (Dial.wrap a) (Dial.wrap b))) ∧
      o.signal.jogPosition = some (Dial.wrap b) ∧
      p.signal.jogPosition = some (Dial.wrap b)) ∧
    ((∀ time ∈ times (xs ++ [y]), s.Comparable time) →
      (∃ o, run timeout s xs = .ok o) ∧ ∃ p, run timeout s [y] = .ok p) := by
  have hwhole : s.positions xs = Dial.wrap a :: reported ++ [Dial.wrap b] := by
    rw [positions, hs, dials_of_map hxs]
    rfl
  have hy' : [y].map (·.sample.dial?) = [Dial.wrap b].map some := by
    rw [List.map_singleton, hy, List.map_singleton]
  have hdirect : s.positions [y] = [Dial.wrap a, Dial.wrap b] := by
    rw [positions, hs, dials_of_map hy']
    rfl
  constructor
  · intro o p ho hp
    obtain ⟨hcut, hcutEnd⟩ := detents_run ho
    obtain ⟨hone, honeEnd⟩ := detents_run hp
    rw [hwhole] at hcut hcutEnd
    rw [hdirect] at hone honeEnd
    rw [Dial.turns_along (Dial.wrap_wrap a) (Dial.wrap_wrap b) hreported] at hcut
    rw [Dial.turns, Dial.turns_singleton, List.append_nil] at hone
    refine ⟨hcut.trans hone.symm, hone.trans (Dial.turn_eq_route _ _), ?_, honeEnd⟩
    rw [hcutEnd, List.getLast?_concat]
  · intro hc
    constructor
    · exact exists_run_of_dials (isSome_dial?_of_map hxs)
        fun time ht => hc time (mem_times_append.mpr (Or.inl ht))
    · exact exists_run_of_dials (isSome_dial?_of_map hy')
        fun time ht => hc time (mem_times_append.mpr (Or.inr ht))

def offCentre : Signal where
  jogPosition := some 100
  shuttleLevel := some 3
  lastShuttle := some (millis 0)
  needsCenter := true

/-- Half a turn to the left and through zero, with a position reported twice and with the return of
the ring on the way. -/
def slowHalfTurn : List Input :=
  [⟨.jog 50 (millis 2), fun _ => true⟩,
   ⟨.jog 0 (millis 3), fun _ => true⟩,
   ⟨.jog 256 (millis 7), fun _ => true⟩,
   ⟨.jog 255 (millis 8), fun _ => true⟩,
   ⟨.jog 228 (millis 9), fun _ => true⟩]

theorem detents_independent_of_sampling_across_zero :
    ∃ o p, run defaultTimeout offCentre slowHalfTurn = .ok o ∧
      run defaultTimeout offCentre [⟨.jog (-28) (millis 9), fun _ => false⟩] = .ok p ∧
      detents o.slots = detents p.slots ∧ (detents p.slots).length = 127 ∧
      o.signal.jogPosition = some 228 ∧ p.signal.jogPosition = some 228 := by
  have halong : Dial.Along (Dial.route 100 228) [50, 0, 0, 255] :=
    ⟨[50, 100, 100, 101], by decide, by decide +kernel⟩
  obtain ⟨hsame, hrun⟩ := detents_independent_of_sampling defaultTimeout offCentre 100 228
    [50, 0, 0, 255] slowHalfTurn ⟨.jog (-28) (millis 9), fun _ => false⟩ rfl halong
    (by decide) (by decide)
  have hc : ∀ time ∈ times (slowHalfTurn ++ [⟨.jog (-28) (millis 9), fun _ => false⟩]),
      offCentre.Comparable time := by
    have hrange : ∀ time ∈ times (slowHalfTurn ++ [⟨.jog (-28) (millis 9), fun _ => false⟩]),
        Duration.InRange (time.micros - (millis 0).micros) := by decide
    intro time ht last _ hlast
    cases hlast
    exact hrange time ht
  obtain ⟨⟨o, ho⟩, p, hp⟩ := hrun hc
  obtain ⟨hdetents, hturn, hopos, hppos⟩ := hsame o p ho hp
  refine ⟨o, p, ho, hp, hdetents, ?_, hopos, hppos⟩
  rw [hturn]
  decide +kernel

section Sum

theorem netDetents_detents (slots : List Slot) :
    Dial.netDetents (detents slots) = Dial.netDetents slots := by
  have hcount : ∀ d, (detents slots).count (.jog d) = slots.count (.jog d) :=
    fun d => List.count_filter rfl
  rw [Dial.netDetents, Dial.netDetents, hcount, hcount]

/-- Over a run in which the dial never reports zero, detents to the right less detents to the left
lead from the first position reported to the last, up to whole turns of the positions but zero. -/
theorem detents_sum_to_change_of_position (timeout : Duration) (xs : List Input) (o : Outcome)
    (h : run timeout {} xs = .ok o) (hzero : ∀ position ∈ dials xs, position ≠ 0)
    (first last : Int) (hfirst : (dials xs).head? = some first)
    (hlast : (dials xs).getLast? = some last) :
    (o.slots.count (.jog .right) : Int) - o.slots.count (.jog .left) ≡ last - first [ZMOD 255] := by
  have hpositions : ∀ position ∈ dials xs, Dial.wrap position = position ∧ position ≠ 0 := by
    intro position hp
    obtain ⟨x, _, hx⟩ := List.mem_filterMap.mp hp
    exact ⟨Sample.wrap_of_dial? hx, hzero position hp⟩
  have hsum := Dial.netDetents_turns hpositions hfirst hlast
  have hdetents : detents o.slots = Dial.turns (dials xs) := (detents_run h).1
  rw [← hdetents, netDetents_detents] at hsum
  exact hsum

/-- The dial goes round twice to the right in steps of many sizes, while a key is pressed and the
ring goes off its centre and back. -/
def twiceAround : List Input :=
  [⟨.jog 250 (millis 0), fun _ => true⟩,
   ⟨.jog 5 (millis 1), fun _ => true⟩,
   ⟨.shuttle 3 (millis 2), fun _ => true⟩,
   ⟨.jog 100 (millis 3), fun _ => true⟩,
   ⟨.key 1 true, fun _ => true⟩,
   ⟨.jog 200 (millis 8), fun _ => true⟩,
   ⟨.jog 300 (millis 9), fun _ => true⟩]

theorem detents_sum_to_change_of_position_twice_around :
    ∃ o, run defaultTimeout {} twiceAround = .ok o ∧
      (o.slots.count (.jog .right) : Int) - o.slots.count (.jog .left) = 304 ∧
      (o.slots.count (.jog .right) : Int) - o.slots.count (.jog .left) ≡ 44 - 250 [ZMOD 255] := by
  obtain ⟨o, ho⟩ : ∃ o, run defaultTimeout {} twiceAround = .ok o :=
    exists_run defaultTimeout (by decide)
  have hcount : (run defaultTimeout {} twiceAround).toOption.any
      (fun o => Dial.netDetents o.slots = 304) = true := by decide +kernel
  rw [ho] at hcount
  exact ⟨o, ho, of_decide_eq_true hcount,
    detents_sum_to_change_of_position defaultTimeout twiceAround o ho (by decide) 250 44 rfl rfl⟩

end Sum

end Signal

end JogShuttle
