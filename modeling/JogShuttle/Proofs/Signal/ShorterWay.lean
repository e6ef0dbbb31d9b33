import JogShuttle.Proofs.Signal.Detents
import Mathlib.Data.Int.Bitwise

/-!
# The shorter way round

Distance and direction of a turn come from the low eight bits of a difference of integers of any
size. They are those of a shortest rotation, half a turn counting as left. A dial sample gives one
detent per unit of it, less one where the turn leaves position zero. Where both ends are off zero
and less than half a turn apart, the way back gives as many in the other direction.
-/

set_option autoImplicit false

namespace JogShuttle

def Direction.opposite : Direction → Direction
  | left => right
  | right => left

namespace Dial

variable {d : Direction} {position old new : Int} {n : Nat}

section Masks

/-- A mask of at most eight bits sees of an integer, whatever its sign, what it is modulo the size
of the dial. -/
theorem land_of_lt (n : Int) {m : Nat} (hm : m < 256) :
    n.land m = ((wrap n).toNat &&& m : Nat) := by
  have hbit : ∀ i, 8 ≤ i → m.testBit i = false := fun i hi =>
    Nat.testBit_lt_two_pow (Nat.lt_of_lt_of_le hm (Nat.pow_le_pow_right Nat.zero_lt_two hi))
  cases n with
  | ofNat n =>
    have hwrap : (wrap (.ofNat n)).toNat = n % 2 ^ 8 := by
      unfold wrap size
      simp only [Int.ofNat_eq_natCast]
      omega
    rw [hwrap]
    refine congrArg Int.ofNat (Nat.eq_of_testBit_eq fun i => ?_)
    rw [Nat.testBit_and, Nat.testBit_and, Nat.testBit_mod_two_pow]
    rcases Nat.lt_or_ge i 8 with hi | hi
    · simp [hi]
    · simp [hbit i hi]
  | negSucc n =>
    -- the bits of a negative number are the opposite ones of the natural number behind it
    have hwrap : (wrap (.negSucc n)).toNat = 2 ^ 8 - (n % 2 ^ 8 + 1) := by
      unfold wrap size
      omega
    rw [hwrap]
    refine congrArg Int.ofNat (Nat.eq_of_testBit_eq fun i => ?_)
    rw [Nat.testBit_ldiff, Nat.testBit_and,
      Nat.testBit_two_pow_sub_succ (Nat.mod_lt n (by decide)), Nat.testBit_mod_two_pow]
    rcases Nat.lt_or_ge i 8 with hi | hi
    · simp [hi, Bool.and_comm]
    · simp [hbit i hi]

theorem wrap_eq_land (n : Int) : wrap n = n.land 0xFF := by
  have hbounds := wrap_bounds n
  have hlt : (wrap n).toNat < 2 ^ 8 := by
    simp only [size] at hbounds
    omega
  have hland := land_of_lt n (m := 2 ^ 8 - 1) (by decide)
  rw [Nat.and_two_pow_sub_one_of_lt_two_pow hlt] at hland
  exact (Int.toNat_of_nonneg hbounds.1).symm.trans hland.symm

/-- The sign bit among the eight is set from half the size on. -/
theorem land_sign_ne_zero_iff (n : Int) : n.land 0x80 ≠ 0 ↔ half ≤ wrap n := by
  have hbounds := wrap_bounds n
  simp only [size] at hbounds
  have hbit : ∀ k < 256, (k &&& 0x80 ≠ 0 ↔ 128 ≤ k) := by decide +kernel
  have hland : n.land 0x80 = _ := land_of_lt n (m := 0x80) (by decide)
  rw [hland, half, Int.natCast_ne_zero, hbit (wrap n).toNat (by omega)]
  omega

/-- Distance and direction as they are computed with masks. -/
structure Masked (old new : Int) : Prop where
  distance : distance old new =
    if ((new - old).land 0xFF).land 0x80 ≠ 0 then 0xFF + 1 - (new - old).land 0xFF
    else (new - old).land 0xFF
  direction : direction old new = if (new - old).land 0x80 ≠ 0 then .left else .right

theorem masked (old new : Int) : Masked old new where
  distance := by
    have hsign := land_sign_ne_zero_iff ((new - old).land 0xFF)
    rw [← wrap_eq_land, wrap_wrap] at hsign
    simp only [← wrap_eq_land, hsign]
    rfl
  direction := by
    simp only [land_sign_ne_zero_iff]
    rfl

end Masks

section Rotation

/-- A shortest rotation from one position to another, with the direction that it takes: of two
equally long ones the left. -/
structure Shortest (old new : Int) (d : Direction) (units : Int) : Prop where
  bounds : 0 ≤ units ∧ units ≤ 128
  leads : old + unit d * units ≡ new [ZMOD 256]
  least : ∀ k : Int, old + k ≡ new [ZMOD 256] → units ≤ k.natAbs
  half_left : units = 128 → d = .left

theorem distance_le_of_rotation {k : Int} (h : old + k ≡ new [ZMOD 256]) :
    distance old new ≤ k.natAbs := by
  unfold Int.ModEq at h
  rcases turn_cases old new with ⟨hc, _, hn⟩ | ⟨hc, _, hn⟩
  · rw [hn]
    simp only [wrap, half, size] at *
    omega
  · rw [hn]
    simp only [wrap, half, size] at *
    omega

theorem shortest (old new : Int) : Shortest old new (direction old new) (distance old new) where
  bounds := distance_bounds old new
  leads := by
    have h := advance_distance old new
    rwa [advance, Int.toNat_of_nonneg (distance_bounds old new).1] at h
  least _ h := distance_le_of_rotation h
  half_left h := by
    rcases turn_cases old new with ⟨_, hd, _⟩ | ⟨hc, _, hn⟩
    · exact hd
    · rw [← hn, h] at hc
      exact absurd hc (by decide)

theorem wrap_sub_wrap (old new : Int) : wrap (wrap new - old) = wrap (new - old) :=
  Int.emod_sub_emod ..

theorem distance_wrap (old new : Int) : distance old (wrap new) = distance old new := by
  rw [distance, distance, wrap_sub_wrap]

theorem direction_wrap (old new : Int) : direction old (wrap new) = direction old new := by
  rw [direction, direction, wrap_sub_wrap]

theorem turn_wrap (old new : Int) : turn old (wrap new) = turn old new := by
  rw [turn, turn, direction_wrap, distance_wrap]

end Rotation

section Zero

/-- The positions that are left on the way from one position to another. -/
def stepped (old new : Int) : List Int := (route old new).dropLast

theorem dropLast_way_succ (d : Direction) (position : Int) (n : Nat) :
    (way d position (n + 1)).dropLast =
      position :: (way d (wrap (position + unit d)) n).dropLast := by
  have hne : way d (wrap (position + unit d)) n ≠ [] := by
    cases n <;> simp [way]
  rw [way, List.dropLast_cons_of_ne_nil hne]

/-- Zero is left at the start or so many units behind it. -/
theorem zero_mem_dropLast_way_iff : 0 ∈ (way d position n).dropLast ↔
    position = 0 ∧ 0 < n ∨ ∃ k, 0 < k ∧ k < n ∧ advance d position k = 0 := by
  induction n generalizing position with
  | zero => simp [way]
  | succ n ih =>
    rw [dropLast_way_succ, List.mem_cons, ih]
    have hone : wrap (position + unit d) = advance d position 1 := by simp [advance]
    constructor
    · rintro (hzero | ⟨hzero, hn⟩ | ⟨k, hk, hkn, hzero⟩)
      · exact Or.inl ⟨hzero.symm, Nat.succ_pos n⟩
      · exact Or.inr ⟨1, Nat.one_pos, by omega, by rw [← hone, hzero]⟩
      · rw [advance_succ] at hzero
        exact Or.inr ⟨k + 1, Nat.succ_pos k, by omega, hzero⟩
    · rintro (⟨hzero, _⟩ | ⟨k, hk, hkn, hzero⟩)
      · exact Or.inl hzero.symm
      · obtain ⟨k, rfl⟩ := Nat.exists_eq_succ_of_ne_zero (Nat.ne_of_gt hk)
        rw [Nat.succ_eq_add_one, ← advance_succ] at hzero
        rcases Nat.eq_zero_or_pos k with rfl | hk
        · rw [advance_zero (wrap_wrap _)] at hzero
          exact Or.inr (Or.inl ⟨hzero, by omega⟩)
        · exact Or.inr (Or.inr ⟨k, hk, by omega, hzero⟩)

/-- Once round the dial zero is left once only. -/
theorem zero_not_mem_behind_zero (hn : n < 256) :
    0 ∉ (way d (wrap (0 + unit d)) n).dropLast := by
  rw [zero_mem_dropLast_way_iff]
  rintro (⟨hzero, _⟩ | ⟨k, _, hk, hzero⟩)
  · cases d <;> exact absurd hzero (by decide)
  · rw [advance_succ] at hzero
    unfold advance wrap size at hzero
    cases d <;> simp only [unit] at hzero <;> omega

theorem length_walk (hn : n ≤ 256) : ((walk d position n).length : Int) =
    n - if 0 ∈ (way d position n).dropLast then 1 else 0 := by
  induction n generalizing position with
  | zero => simp [walk, way]
  | succ n ih =>
    have hrest := @ih (wrap (position + unit d)) (by omega)
    rw [walk, dropLast_way_succ]
    by_cases hzero : position = 0
    · subst hzero
      rw [if_neg (zero_not_mem_behind_zero (by omega))] at hrest
      rw [if_pos rfl, if_pos List.mem_cons_self, hrest]
      omega
    · have hmem : (0 ∈ position :: (way d (wrap (position + unit d)) n).dropLast) ↔
          0 ∈ (way d (wrap (position + unit d)) n).dropLast := by
        simp [List.mem_cons, Ne.symm hzero]
      rw [if_neg hzero, List.length_cons, Int.natCast_succ, hrest]
      simp only [hmem]
      omega

/-- A turn has a detent per unit, but for the one on which it leaves zero. -/
theorem turn_eq_replicate (old new : Int) :
    ∃ n : Nat, (n : Int) = distance old new - (if 0 ∈ stepped old new then 1 else 0) ∧
      turn old new = List.replicate n (.jog (direction old new)) := by
  have hbounds := distance_bounds old new
  simp only [half] at hbounds
  refine ⟨(turn old new).length, ?_, ?_⟩
  · rw [turn, length_walk (by omega), Int.toNat_of_nonneg hbounds.1]
    rfl
  · exact List.eq_replicate_of_mem fun slot hs => Signal.mem_walk hs

end Zero

section Back

theorem unit_opposite (d : Direction) : unit d.opposite = -unit d := by
  cases d <;> rfl

/-- The way back is as long, and goes the other way round unless it is half a turn or none. -/
theorem turn_back (hhalf : distance old new ≠ 128) : distance new old = distance old new ∧
    (distance old new ≠ 0 → direction new old = (direction old new).opposite) := by
  rcases turn_cases old new with ⟨hc, hd, hn⟩ | ⟨hc, hd, hn⟩
  · rcases turn_cases new old with ⟨hc', hd', hn'⟩ | ⟨hc', hd', hn'⟩
    · rw [hn] at hhalf
      simp only [wrap, half, size] at *
      omega
    · rw [hd, hd', hn, hn']
      refine ⟨?_, fun _ => rfl⟩
      simp only [wrap, half, size] at *
      omega
  · rcases turn_cases new old with ⟨hc', hd', hn'⟩ | ⟨hc', hd', hn'⟩
    · rw [hd, hd', hn, hn']
      refine ⟨?_, fun _ => rfl⟩
      simp only [wrap, half, size] at *
      omega
    · rw [hn, hn']
      simp only [wrap, half, size] at *
      refine ⟨?_, fun hne => absurd ?_ hne⟩
      · omega
      · omega

/-- The way back leaves zero if the way there does, unless it does so at its start. -/
theorem zero_mem_stepped_back (hold : wrap old ≠ 0) (hhalf : distance old new ≠ 128)
    (h : 0 ∈ stepped old new) : 0 ∈ stepped new old := by
  have hbounds := distance_bounds old new
  obtain ⟨hdistance, hdirection⟩ := turn_back hhalf
  unfold stepped route at *
  rw [zero_mem_dropLast_way_iff] at h ⊢
  rcases h with ⟨hzero, _⟩ | ⟨k, hk, hkn, hzero⟩
  · exact absurd (by rw [hzero]; rfl) hold
  · refine Or.inr ⟨(distance old new).toNat - k, by omega, by omega, ?_⟩
    rw [hdirection (by omega)]
    have hend := advance_distance old new
    unfold advance at hzero hend ⊢
    rw [unit_opposite]
    have hcast : (((distance old new).toNat - k : Nat) : Int) = (distance old new).toNat - k := by
      omega
    rw [hcast]
    cases hd : direction old new <;> rw [hd] at hzero hend <;>
      simp only [unit, wrap, size] at * <;> omega

theorem zero_mem_stepped_back_iff (hold : wrap old ≠ 0) (hnew : wrap new ≠ 0)
    (hhalf : distance old new ≠ 128) : 0 ∈ stepped new old ↔ 0 ∈ stepped old new := by
  have hback := (turn_back hhalf).1
  exact ⟨zero_mem_stepped_back hnew (by rwa [hback]), zero_mem_stepped_back hold hhalf⟩

end Back

end Dial

namespace Signal

variable {s : Signal} {timeout time : Duration} {isBound : Slot → Bool} {o : Outcome}
variable {p value : Int}

/-- A dial sample is taken unless its time cannot be compared with that of the ring. -/
theorem exists_jog_iff :
    (∃ o, s.jog timeout value time isBound = .ok o) ↔ s.Comparable time := by
  constructor
  · rintro ⟨o, h⟩
    exact comparable_of_jog h
  · intro hc
    have h : ∀ t, (Sample.jog value time).time? = some t → s.Comparable t := by
      rintro t ⟨⟩
      exact hc
    exact exists_sample h

theorem detents_jog (hs : s.jogPosition = some p)
    (h : s.jog timeout value time isBound = .ok o) :
    detents o.slots = Dial.turn p value ∧ o.signal.jogPosition = some (Dial.wrap value) := by
  obtain ⟨hdetents, hposition⟩ := detents_sample (x := .jog value time) h
  refine ⟨?_, hposition⟩
  have hturn : s.turnTo (Dial.wrap value) = Dial.turn p (Dial.wrap value) := by
    rw [turnTo, hs]
  rw [hdetents, ← Dial.turn_wrap, ← hturn]
  rfl

/-- From one position to another off zero and back, the dial gives as many detents either way. -/
theorem detents_jog_back (hs : s.jogPosition = some p)
    (ho : s.jog timeout value time isBound = .ok o) (hp : Dial.wrap p ≠ 0)
    (hvalue : Dial.wrap value ≠ 0) (hhalf : Dial.distance p value ≠ 128) {timeout' time' : Duration}
    {isBound' : Slot → Bool} {q : Outcome} (hq : o.signal.jog timeout' p time' isBound' = .ok q) :
    detents q.slots = List.replicate (detents o.slots).length
      (.jog (Dial.direction p value).opposite) := by
  obtain ⟨hthere, hposition⟩ := detents_jog hs ho
  obtain ⟨hback, _⟩ := detents_jog hposition hq
  -- the way back starts from the position as it was taken, which is the same one modulo the size
  have hhalf' : Dial.distance p (Dial.wrap value) ≠ 128 := by
    rwa [Dial.distance_wrap]
  have hvalue' : Dial.wrap (Dial.wrap value) ≠ 0 := by
    rwa [Dial.wrap_wrap]
  obtain ⟨hdistance, hdirection⟩ := Dial.turn_back hhalf'
  obtain ⟨n, hn, hturn⟩ := Dial.turn_eq_replicate p (Dial.wrap value)
  obtain ⟨m, hm, hreturn⟩ := Dial.turn_eq_replicate (Dial.wrap value) p
  have hsame : m = n := by
    simp only [Dial.zero_mem_stepped_back_iff hp hvalue' hhalf', hdistance] at hm
    omega
  rw [hback, hthere, ← Dial.turn_wrap p value, hreturn, hturn, List.length_replicate, hsame]
  rcases Nat.eq_zero_or_pos n with rfl | hpos
  · rfl
  · rw [hdirection (by split at hn <;> omega), Dial.direction_wrap]

/-- Distance and direction are those of a shortest rotation, half a turn going left. A dial sample
gives that many detents in that direction, less one where zero is left on the way. Between positions
off zero that are not half a turn apart, the way back gives as many. -/
theorem jog_takes_shorter_way :
    (∀ old new : Int, Dial.Masked old new ∧
      Dial.Shortest old new (Dial.direction old new) (Dial.distance old new)) ∧
    ∀ (s : Signal) (p value : Int) (timeout time : Duration) (isBound : Slot → Bool),
      s.jogPosition = some p →
      ((∃ o, s.jog timeout value time isBound = .ok o) ↔ s.Comparable time) ∧
      ∀ o, s.jog timeout value time isBound = .ok o →
        o.signal.jogPosition = some (value % 256) ∧
        (∃ n : Nat,
          (n : Int) = Dial.distance p value - (if 0 ∈ Dial.stepped p value then 1 else 0) ∧
          detents o.slots = List.replicate n (.jog (Dial.direction p value))) ∧
        (p % 256 ≠ 0 → value % 256 ≠ 0 → Dial.distance p value ≠ 128 →
          ∀ (timeout' time' : Duration) (isBound' : Slot → Bool) (q : Outcome),
            o.signal.jog timeout' p time' isBound' = .ok q →
            q.signal.jogPosition = some (p % 256) ∧
            detents q.slots = List.replicate (detents o.slots).length
              (.jog (Dial.direction p value).opposite)) := by
  refine ⟨fun old new => ⟨Dial.masked old new, Dial.shortest old new⟩, ?_⟩
  intro s p value timeout time isBound hs
  refine ⟨exists_jog_iff, ?_⟩
  intro o ho
  obtain ⟨hdetents, hposition⟩ := detents_jog hs ho
  refine ⟨hposition, ?_, ?_⟩
  · rw [hdetents]
    exact Dial.turn_eq_replicate p value
  · intro hp hvalue hhalf timeout' time' isBound' q hq
    exact ⟨(detents_jog hposition hq).2, detents_jog_back hs ho hp hvalue hhalf hq⟩

/-- The dial stands before zero, and the ring off its centre. -/
def beforeZero : Signal := { offCentre with jogPosition := some 250 }

/-- Through zero and back, while the ring is found to have returned. -/
def throughZero : List Input :=
  [⟨.jog 258 (millis 7), fun _ => true⟩, ⟨.jog 250 (millis 9), fun _ => true⟩]

theorem jog_takes_shorter_way_through_zero :
    ∃ o q, beforeZero.jog defaultTimeout 258 (millis 7) (fun _ => true) = .ok o ∧
      o.signal.jog defaultTimeout 250 (millis 9) (fun _ => true) = .ok q ∧
      o.signal.jogPosition = some 2 ∧ detents o.slots = List.replicate 7 (.jog .right) ∧
      q.signal.jogPosition = some 250 ∧ detents q.slots = List.replicate 7 (.jog .left) := by
  have hc : ∀ time ∈ times throughZero, beforeZero.Comparable time := by
    have hrange : ∀ time ∈ times throughZero,
        Duration.InRange (time.micros - (millis 0).micros) := by decide
    intro time ht last _ hlast
    cases hlast
    exact hrange time ht
  obtain ⟨_, hrun⟩ : ∃ r, run defaultTimeout beforeZero throughZero = .ok r :=
    exists_run_of_dials (by decide) hc
  obtain ⟨o, _, ho, hrest, _⟩ := run_cons_ok_iff.mp hrun
  obtain ⟨q, _, hq, _, _⟩ := run_cons_ok_iff.mp hrest
  obtain ⟨_, hjog⟩ := jog_takes_shorter_way.2 beforeZero 250 258 defaultTimeout (millis 7)
    (fun _ => true) rfl
  obtain ⟨hposition, ⟨n, hn, hdetents⟩, hback⟩ := hjog o ho
  have hseven : Dial.distance 250 258 - (if 0 ∈ Dial.stepped 250 258 then 1 else 0) = 7 := by
    decide
  obtain rfl : n = 7 := by omega
  obtain ⟨hreturn, hdetents'⟩ := hback (by decide) (by decide) (by decide) _ _ _ q hq
  rw [hdetents, List.length_replicate] at hdetents'
  exact ⟨o, q, ho, hq, hposition, hdetents, hreturn, hdetents'⟩

end Signal

end JogShuttle
