import JogShuttle.Signal.Dial
import Mathlib.Data.Int.ModEq

/-!
# Turns of the dial

A turn goes the shorter way round, a unit at a time, and any position on it cuts it into two turns
in the same direction. So the detents of a turn do not depend on how many positions are reported on
the way. Since no detent is passed when leaving position zero, they count the other positions, which
are one less than the size of the dial.
-/

set_option autoImplicit false

namespace JogShuttle.Dial

variable {d : Direction} {position old new : Int} {m n : Nat}

/-- The position so many units away. -/
def advance (d : Direction) (position : Int) (n : Nat) : Int := wrap (position + unit d * n)

/-- So many units in a direction are the shorter way; of two equal ones the left is taken. -/
def IsShorter (d : Direction) (n : Nat) : Prop := n < half ∨ n = half ∧ d = .left

/-- The positions on the way from a position over so many units, both ends included. -/
def way (d : Direction) : Int → Nat → List Int
  | position, 0 => [position]
  | position, n + 1 => position :: way d (wrap (position + unit d)) n

/-- The positions that a turn goes through, from the old one to the new one. -/
def route (old new : Int) : List Int := way (direction old new) old (distance old new).toNat

/-- The detents of the turns from each position to the next. -/
def turns : List Int → List Slot
  | old :: new :: rest => turn old new ++ turns (new :: rest)
  | _ => []

theorem turns_singleton (position : Int) : turns [position] = [] := rfl

/-- Positions that lie on a way in this order; one may be repeated. -/
def Along (way reported : List Int) : Prop :=
  ∃ places : List Nat, places.Pairwise (· ≤ ·) ∧ places.map (way[·]?) = reported.map some

section Steps

theorem wrap_eq_self_iff : wrap position = position ↔ 0 ≤ position ∧ position < size := by
  unfold wrap size
  omega

theorem wrap_wrap (n : Int) : wrap (wrap n) = wrap n :=
  wrap_eq_self_iff.mpr (wrap_bounds n)

theorem wrap_advance (d : Direction) (position : Int) (n : Nat) :
    wrap (advance d position n) = advance d position n := wrap_wrap _

theorem advance_zero (h : wrap position = position) : advance d position 0 = position := by
  simpa [advance] using h

theorem advance_advance (d : Direction) (position : Int) (m n : Nat) :
    advance d (advance d position m) n = advance d position (m + n) := by
  unfold advance wrap
  rw [Int.emod_add_emod]
  congr 1
  rw [Int.natCast_add, Int.mul_add, Int.add_assoc]

theorem advance_succ (d : Direction) (position : Int) (n : Nat) :
    advance d (wrap (position + unit d)) n = advance d position (n + 1) := by
  have hone : wrap (position + unit d) = advance d position 1 := by simp [advance]
  rw [hone, advance_advance, Nat.add_comm]

/-- A walk stops anywhere and goes on from there. -/
theorem walk_add (h : wrap position = position) :
    walk d position (m + n) = walk d position m ++ walk d (advance d position m) n := by
  induction m generalizing position with
  | zero => rw [advance_zero h, Nat.zero_add, walk, List.nil_append]
  | succ m ih =>
    rw [Nat.add_right_comm, walk, walk, ih (wrap_wrap _), advance_succ]
    split
    · rfl
    · rw [List.cons_append]

theorem walk_eq_way : walk d position n =
    ((way d position n).dropLast.filter (· ≠ 0)).map fun _ => .jog d := by
  induction n generalizing position with
  | zero => rfl
  | succ n ih =>
    have hne : way d (wrap (position + unit d)) n ≠ [] := by
      cases n <;> simp [way]
    rw [walk, ih, way, List.dropLast_cons_of_ne_nil hne, List.filter_cons]
    by_cases hp : position = 0 <;> simp [hp]

/-- A turn has a detent on leaving each position but zero. -/
theorem turn_eq_route (old new : Int) : turn old new =
    ((route old new).dropLast.filter (· ≠ 0)).map fun _ => .jog (direction old new) :=
  walk_eq_way

theorem getElem?_way (h : wrap position = position) (k : Nat) :
    (way d position n)[k]? = if k ≤ n then some (advance d position k) else none := by
  induction n generalizing position k with
  | zero =>
    cases k with
    | zero => simp [way, advance_zero h]
    | succ k => simp [way]
  | succ n ih =>
    cases k with
    | zero => simp [way, advance_zero h]
    | succ k => simp [way, ih (wrap_wrap _), advance_succ]

end Steps

section Shorter

theorem IsShorter.le (h : IsShorter d n) (hm : m ≤ n) : IsShorter d m := by
  rcases Nat.lt_or_eq_of_le hm with hlt | rfl
  · refine Or.inl ?_
    rcases h with h | ⟨h, _⟩
    · omega
    · omega
  · exact h

theorem turn_cases (old new : Int) :
    (half ≤ wrap (new - old) ∧ direction old new = .left ∧
      distance old new = size - wrap (new - old)) ∨
    (wrap (new - old) < half ∧ direction old new = .right ∧
      distance old new = wrap (new - old)) := by
  unfold direction distance
  by_cases hc : half ≤ wrap (new - old)
  · exact Or.inl ⟨hc, if_pos hc, if_pos hc⟩
  · exact Or.inr ⟨Int.not_le.mp hc, if_neg hc, if_neg hc⟩

theorem isShorter_distance (old new : Int) :
    IsShorter (direction old new) (distance old new).toNat := by
  have hbounds := wrap_bounds (new - old)
  unfold IsShorter
  rcases turn_cases old new with ⟨hc, hd, hn⟩ | ⟨hc, hd, hn⟩
  · rw [hd, hn]
    simp only [half, size, and_true] at *
    omega
  · rw [hn]
    exact Or.inl (by omega)

theorem advance_distance (old new : Int) :
    advance (direction old new) old (distance old new).toNat = wrap new := by
  unfold advance
  rcases turn_cases old new with ⟨hc, hd, hn⟩ | ⟨hc, hd, hn⟩
  · rw [hd, hn]
    simp only [unit, wrap, half, size] at *
    omega
  · rw [hd, hn]
    simp only [unit, wrap, half, size] at *
    omega

theorem wrap_advance_sub (d : Direction) (position : Int) (n : Nat) :
    wrap (advance d position n - position) = wrap (unit d * n) := by
  unfold advance wrap
  rw [Int.emod_sub_emod, Int.add_comm, Int.add_sub_cancel]

/-- The shorter way to a position is the one that leads there over fewer units. -/
theorem turn_to_advance (position : Int) (h : IsShorter d n) :
    distance position (advance d position n) = n ∧
      (n ≠ 0 → direction position (advance d position n) = d) := by
  have hwrap := wrap_advance_sub d position n
  unfold IsShorter at h
  rcases turn_cases position (advance d position n) with ⟨hc, hd, hn⟩ | ⟨hc, hd, hn⟩
  · rw [hd, hn, hwrap]
    rw [hwrap] at hc
    cases d with
    | left =>
      refine ⟨?_, fun _ => rfl⟩
      simp only [unit, wrap, half, size] at *
      omega
    | right =>
      simp only [unit, wrap, half, size, reduceCtorEq, and_false, or_false] at *
      omega
  · rw [hd, hn, hwrap]
    rw [hwrap] at hc
    cases d with
    | left =>
      simp only [unit, wrap, half, size] at *
      omega
    | right =>
      refine ⟨?_, fun _ => rfl⟩
      simp only [unit, wrap, half, size] at *
      omega

/-- A turn to a position that is nearer in some direction goes there in that direction. A turn that
stays where it is passes nothing, whichever direction it is said to have. -/
theorem turn_advance (h : IsShorter d n) :
    turn position (advance d position n) = walk d position n := by
  obtain ⟨hdistance, hdirection⟩ := turn_to_advance position h
  rw [turn, hdistance, Int.toNat_natCast]
  cases n with
  | zero => rfl
  | succ n => rw [hdirection (Nat.succ_ne_zero n)]

end Shorter

section Cut

/-- Reports from the way of a turn change nothing in its detents. -/
theorem turns_advance (position : Int) {places : List Nat} (h : IsShorter d n)
    (hsorted : places.Pairwise (· ≤ ·))
    (hm : ∀ k ∈ places, m ≤ k) (hn : ∀ k ∈ places, k ≤ n) (hmn : m ≤ n) :
    turns (advance d position m :: places.map (advance d position) ++ [advance d position n]) =
      walk d (advance d position m) (n - m) := by
  -- the dial stands `m` units from the start and every place still to come is no nearer
  induction places generalizing m with
  | nil =>
    have hend : advance d position n = advance d (advance d position m) (n - m) := by
      rw [advance_advance, Nat.add_sub_cancel' hmn]
    rw [List.map_nil, List.singleton_append, turns, turns_singleton, List.append_nil, hend,
      turn_advance (h.le (Nat.sub_le n m))]
  | cons k places ih =>
    obtain ⟨hk, hsorted⟩ := List.pairwise_cons.mp hsorted
    have hmk : m ≤ k := hm k (by simp)
    have hkn : k ≤ n := hn k (by simp)
    have hcut : advance d position k = advance d (advance d position m) (k - m) := by
      rw [advance_advance, Nat.add_sub_cancel' hmk]
    have hrest := ih hsorted hk (fun j hj => hn j (List.mem_cons_of_mem k hj)) hkn
    have hunits : n - m = (k - m) + (n - k) := by omega
    rw [List.map_cons, List.cons_append, List.cons_append, turns, ← List.cons_append, hrest, hunits,
      walk_add (wrap_advance _ _ _), ← hcut]
    congr 1
    rw [hcut, turn_advance (h.le (Nat.le_trans (Nat.sub_le k m) hkn))]

theorem turns_along {reported : List Int} (ho : wrap old = old) (hn : wrap new = new)
    (h : Along (route old new) reported) : turns (old :: reported ++ [new]) = turn old new := by
  obtain ⟨places, hsorted, hplaces⟩ := h
  have hend : advance (direction old new) old (distance old new).toNat = new := by
    rw [advance_distance, hn]
  have hmem : ∀ k ∈ places, k ≤ (distance old new).toNat := by
    intro k hk
    by_contra hgt
    have hnone : (route old new)[k]? = none := by rw [route, getElem?_way ho, if_neg hgt]
    have hsome : (route old new)[k]? ∈ reported.map some := by
      rw [← hplaces]
      exact List.mem_map_of_mem hk
    rw [hnone] at hsome
    simp at hsome
  have hreported : reported = places.map (advance (direction old new) old) := by
    have hsome : reported.map some = (places.map (advance (direction old new) old)).map some := by
      rw [← hplaces, List.map_map]
      refine List.map_congr_left ?_
      intro k hk
      rw [route, getElem?_way ho, if_pos (hmem k hk)]
      rfl
    exact (List.map_inj_right fun _ _ => Option.some.inj).mp hsome
  have hstart : advance (direction old new) old 0 = old := advance_zero ho
  have hturns := turns_advance old (isShorter_distance old new) hsorted
    (fun k _ => Nat.zero_le k) hmem (Nat.zero_le _)
  rwa [hstart, hend, ← hreported, Nat.sub_zero] at hturns

end Cut

section Places

/-- Detents to the right less detents to the left. -/
def netDetents (slots : List Slot) : Int :=
  (slots.count (.jog .right) : Int) - slots.count (.jog .left)

theorem netDetents_append (slots more : List Slot) :
    netDetents (slots ++ more) = netDetents slots + netDetents more := by
  simp only [netDetents, List.count_append, Int.natCast_add]
  omega

theorem netDetents_cons_jog (d : Direction) (slots : List Slot) :
    netDetents (.jog d :: slots) = unit d + netDetents slots := by
  cases d with
  | left => simp [netDetents, unit]; omega
  | right => simp [netDetents, unit]; omega

/-- A position among the detents. Zero lies between two positions with no detent to either side: it
is told from the next position in the direction of the turn by none. -/
def place (d : Direction) (position : Int) : Int :=
  if position = 0 ∧ d = .right then 1 else position

theorem place_of_ne_zero (h : position ≠ 0) : place d position = position := by
  simp [place, h]

/-- The detents of a walk lead from place to place, on a ring that has one place less than there are
positions. -/
theorem netDetents_walk (h : wrap position = position) :
    netDetents (walk d position n) ≡
      place d (advance d position n) - place d position [ZMOD size - 1] := by
  induction n generalizing position with
  | zero => simp [advance_zero h, walk, netDetents]
  | succ n ih =>
    have hrest := ih (wrap_wrap (position + unit d))
    rw [advance_succ] at hrest
    -- one unit takes the place on by one, unless it leaves zero
    have hstep : (if position = 0 then 0 else unit d) ≡
        place d (wrap (position + unit d)) - place d position [ZMOD size - 1] := by
      have hp := wrap_eq_self_iff.mp h
      unfold place wrap size Int.ModEq at *
      cases d with
      | left =>
        simp only [unit, reduceCtorEq, and_false, if_false]
        split <;> omega
      | right =>
        simp only [unit, and_true]
        split <;> split <;> omega
    have hwalk : netDetents (walk d position (n + 1)) =
        (if position = 0 then 0 else unit d) +
          netDetents (walk d (wrap (position + unit d)) n) := by
      rw [walk]
      split
      · rw [Int.zero_add]
      · rw [netDetents_cons_jog]
    rw [hwalk]
    refine (hstep.add hrest).trans ?_
    rw [add_comm, sub_add_sub_cancel]

theorem netDetents_turn (ho : wrap old = old ∧ old ≠ 0) (hn : wrap new = new ∧ new ≠ 0) :
    netDetents (turn old new) ≡ new - old [ZMOD size - 1] := by
  have h := netDetents_walk (d := direction old new) (n := (distance old new).toNat) ho.1
  rwa [advance_distance, hn.1, place_of_ne_zero hn.2, place_of_ne_zero ho.2] at h

theorem netDetents_turns {positions : List Int} (h : ∀ p ∈ positions, wrap p = p ∧ p ≠ 0)
    (hfirst : positions.head? = some old) (hlast : positions.getLast? = some new) :
    netDetents (turns positions) ≡ new - old [ZMOD size - 1] := by
  induction positions generalizing old with
  | nil => cases hfirst
  | cons first rest ih =>
    cases hfirst
    cases rest with
    | nil =>
      obtain rfl : first = new := Option.some.inj hlast
      rw [sub_self, turns_singleton]
      rfl
    | cons next rest =>
      have hturn := netDetents_turn (h first (by simp)) (h next (by simp))
      have hrest := ih (fun p hp => h p (List.mem_cons_of_mem first hp)) rfl
        (by rwa [List.getLast?_cons_cons] at hlast)
      rw [turns, netDetents_append]
      refine (hturn.add hrest).trans ?_
      rw [add_comm, sub_add_sub_cancel]

end Places

end JogShuttle.Dial
