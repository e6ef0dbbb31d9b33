import JogShuttle.Device
import Mathlib.Data.List.Induction

/-!
# Reading a device to its end

What one reading leaves is taken up by the next, but not that a packet was being skipped: a reading
that stops forgets it. So the events that come out of a queue are those in front of which, since the
last packet end and the last stop, the overflows are even in number, and an overflow gets out where
they are odd. This is what an overflow should cost, the events up to the end of the packet, as long
as no stop and no second overflow falls among those.
-/

set_option autoImplicit false

namespace JogShuttle

namespace Queued

variable {x : Queued} {before q : List Queued} {skipping : Bool}

/-- Whether an item ends a packet. -/
def isReport : Queued → Bool
  | event e => e.endsPacket
  | mistimed last _ => last
  | _ => false

/-- Whether a reading stops at an item in any case. -/
def isStop : Queued → Bool
  | pause => true
  | failure _ => true
  | _ => false

def event? : Queued → Option Event
  | event e => some e
  | _ => none

/-- What stands behind the last packet end, newest first. -/
def sinceReport (before : List Queued) : List Queued := before.reverse.takeWhile (!·.isReport)

/-- What stands behind the last packet end and the last stop, newest first. -/
def sinceStop (before : List Queued) : List Queued :=
  before.reverse.takeWhile fun x => !x.isReport && !x.isStop

/-- The packet going on here has lost events. -/
def Broken (before : List Queued) : Prop := .overflow ∈ sinceReport before

instance (before : List Queued) : Decidable (Broken before) :=
  inferInstanceAs (Decidable (_ ∈ _))

/-- Reading skips what comes here. -/
def Skipped (before : List Queued) : Prop := (sinceStop before).count .overflow % 2 = 1

instance (before : List Queued) : Decidable (Skipped before) :=
  inferInstanceAs (Decidable (_ = _))

/-- The events of a queue, less those that are lost by what stands before them. -/
def eventsWithout (lost : List Queued → Bool) (before : List Queued) : List Queued → List Event
  | [] => []
  | x :: q =>
    (if lost before then [] else x.event?.toList) ++ eventsWithout lost (before ++ [x]) q

/-- Some overflow of a queue is met while reading skips. -/
def Spills (before q : List Queued) : Prop :=
  ∃ front back, q = front ++ .overflow :: back ∧ Skipped (before ++ front)

/-- No stop and no overflow falls into a packet that has lost events. -/
def Undisturbed (q : List Queued) : Prop :=
  ∀ before x after, q = before ++ x :: after → (x = .overflow ∨ x.isStop = true) → ¬Broken before

theorem undisturbed_iff (q : List Queued) :
    Undisturbed q ↔ ∀ i : Fin q.length, (q[i] = .overflow ∨ q[i].isStop = true) →
      ¬Broken (q.take i) := by
  constructor
  · intro h i hx
    refine h (q.take i) q[i] (q.drop (i + 1)) ?_ hx
    rw [Fin.getElem_fin, List.getElem_cons_drop, List.take_append_drop]
  · rintro h before x after rfl hx
    have hi : before.length < (before ++ x :: after).length := by simp
    simpa [hx] using h ⟨before.length, hi⟩

instance (q : List Queued) : Decidable (Undisturbed q) :=
  decidable_of_iff _ (undisturbed_iff q).symm

theorem sinceReport_concat (before : List Queued) (x : Queued) :
    sinceReport (before ++ [x]) = if x.isReport then [] else x :: sinceReport before := by
  simp only [sinceReport, List.reverse_append, List.reverse_singleton, List.singleton_append,
    List.takeWhile_cons]
  cases x.isReport <;> rfl

theorem sinceStop_concat (before : List Queued) (x : Queued) :
    sinceStop (before ++ [x]) =
      if x.isReport || x.isStop then [] else x :: sinceStop before := by
  simp only [sinceStop, List.reverse_append, List.reverse_singleton, List.singleton_append,
    List.takeWhile_cons]
  cases x.isReport <;> cases x.isStop <;> rfl

theorem broken_concat (before : List Queued) (x : Queued) :
    Broken (before ++ [x]) ↔ x.isReport = false ∧ (x = .overflow ∨ Broken before) := by
  rw [Broken, sinceReport_concat]
  cases x.isReport <;> simp [Broken, eq_comm]

/-- A packet end or a stop ends the skipping, and an overflow turns it round. -/
theorem skipped_concat (before : List Queued) (x : Queued) :
    Skipped (before ++ [x]) ↔ (x.isReport || x.isStop) = false ∧
      (x = .overflow ∧ ¬Skipped before ∨ x ≠ .overflow ∧ Skipped before) := by
  rw [Skipped, sinceStop_concat]
  cases hx : x.isReport || x.isStop with
  | true => simp
  | false =>
    by_cases ho : x = .overflow
    · subst x
      simp [Skipped]
      omega
    · simp [Skipped, ho, List.count_cons_of_ne]

/-- Why reading stops at an item, if it does. -/
def haltAt? (before : List Queued) : Queued → Option Halt
  | event _ => none
  | mistimed _ e => if Skipped before then none else some (.mistimed e)
  | pause => some .paused
  | overflow => if Skipped before then some .overflowed else none
  | failure e => some (.failed e)

theorem drainFrom_of_haltAt? {halt : Halt} (h : haltAt? before x = some halt) :
    drainFrom (decide (Skipped before)) (x :: q) = ⟨[], halt, q⟩ := by
  cases x <;> by_cases hs : Skipped before <;> simp_all [haltAt?, drainFrom]

/-- Where reading does not stop, it goes on as from the place behind. -/
theorem drainFrom_of_haltAt?_none (h : haltAt? before x = none) :
    drainFrom (decide (Skipped before)) (x :: q) =
      let d := drainFrom (decide (Skipped (before ++ [x]))) q
      { d with
        events := (if decide (Skipped before) then [] else x.event?.toList) ++ d.events } := by
  have hn := skipped_concat before x
  cases x <;> by_cases hs : Skipped before <;>
    simp_all [haltAt?, drainFrom, Drain.cons, isReport, isStop, event?]

theorem not_skipped_of_haltAt? {halt : Halt} (h : haltAt? before x = some halt) :
    ¬Skipped (before ++ [x]) := by
  rw [skipped_concat]
  cases x <;> by_cases hs : Skipped before <;> simp_all [haltAt?, isStop]

theorem event?_of_haltAt? {halt : Halt} (h : haltAt? before x = some halt) : x.event? = none := by
  cases x with
  | event e => cases h
  | _ => rfl

theorem haltAt?_eq_overflowed :
    haltAt? before x = some .overflowed ↔ x = .overflow ∧ Skipped before := by
  cases x <;> by_cases hs : Skipped before <;> simp [haltAt?, hs]

/-- The errors of reading a queue to its end. -/
def errors (path : String) (before : List Queued) : List Queued → List DeviceError
  | [] => []
  | x :: q =>
    ((haltAt? before x).bind (·.error? path)).toList ++ errors path (before ++ [x]) q

theorem haltAt?_error?_eq_overflowed (path : String) :
    (haltAt? before x).bind (·.error? path) = some .overflowed ↔
      x = .overflow ∧ Skipped before := by
  rw [← haltAt?_eq_overflowed]
  cases h : haltAt? before x with
  | none => simp
  | some halt =>
    cases halt with
    | failed e => simp [Halt.error?, DeviceError.ofSystem]; split <;> simp
    | _ => simp [Halt.error?]

theorem spills_nil : ¬Spills before [] := by
  rintro ⟨front, back, h, -⟩
  simp at h

theorem spills_cons :
    Spills before (x :: q) ↔ x = .overflow ∧ Skipped before ∨ Spills (before ++ [x]) q := by
  constructor
  · rintro ⟨front, back, h, hs⟩
    cases front with
    | nil => exact .inl ⟨(List.cons.inj h).1, by simpa using hs⟩
    | cons y front =>
      obtain ⟨rfl, rfl⟩ := List.cons.inj h
      exact .inr ⟨front, back, rfl, by simpa using hs⟩
  · rintro (⟨rfl, hs⟩ | ⟨front, back, rfl, hs⟩)
    · exact ⟨[], q, rfl, by simpa using hs⟩
    · exact ⟨x :: front, back, rfl, by simpa using hs⟩

theorem overflowed_mem_errors (path : String) :
    .overflowed ∈ errors path before q ↔ Spills before q := by
  induction q generalizing before with
  | nil => simp [errors, spills_nil]
  | cons x q ih =>
    rw [errors, List.mem_append, Option.mem_toList, haltAt?_error?_eq_overflowed, ih, spills_cons]

/-- Where nothing disturbs the packets that have lost events, reading skips just those. -/
theorem skipped_iff_broken (h : Undisturbed q) {after : List Queued} (hq : q = before ++ after) :
    Skipped before ↔ Broken before := by
  induction before using List.reverseRecOn generalizing after with
  | nil => simp [Skipped, Broken, sinceStop, sinceReport]
  | append_singleton before x ih =>
    have hq' : q = before ++ x :: after := by simpa using hq
    have hb := h before x after hq'
    rw [skipped_concat, broken_concat, ih hq']
    by_cases hx : x = .overflow
    · simp [hx, isReport, isStop, hb (.inl hx)]
    · cases hs : x.isStop with
      | false => simp [hx]
      | true => simp [hb (.inr hs), hx]

theorem not_spills (h : Undisturbed q) : ¬Spills [] q := by
  rintro ⟨front, back, hq, hs⟩
  exact h front .overflow back hq (.inl rfl) ((skipped_iff_broken h hq).mp hs)

theorem eventsWithout_congr {lost lost' : List Queued → Bool}
    (h : ∀ front after, q = front ++ after → lost (before ++ front) = lost' (before ++ front)) :
    eventsWithout lost before q = eventsWithout lost' before q := by
  induction q generalizing before with
  | nil => rfl
  | cons x q ih =>
    have h0 := h [] (x :: q) rfl
    rw [List.append_nil] at h0
    rw [eventsWithout, eventsWithout, h0]
    congr 1
    refine ih fun front after hq => ?_
    have := h (x :: front) after (by rw [hq]; rfl)
    simpa using this

end Queued

namespace Device

/-- Reads a device so many times: all the events, all the errors, and the device after it. -/
def reread : Nat → Device → List Event × List DeviceError × Device
  | 0, d => ([], [], d)
  | n + 1, d =>
    let r := d.events
    let s := reread n r.2.1
    (r.1 ++ s.1, r.2.2.toList ++ s.2.1, s.2.2)

variable (path : String) (before : List Queued) {q : List Queued}

theorem reread_nil (n : Nat) : reread n ⟨path, some []⟩ = ([], [], ⟨path, some []⟩) := by
  induction n with
  | zero => rfl
  | succ n ih =>
    simp only [reread, events, Queued.drain, Queued.drainFrom, ih]
    rfl

/-- The rest of a reading and the readings after it, as many as may be needed, come to the end of
the queue. -/
theorem reread_drainFrom_rest {n : Nat} (hn : q.length ≤ n) :
    let d := Queued.drainFrom (decide (Queued.Skipped before)) q
    let s := reread n ⟨path, some d.rest⟩
    d.events ++ s.1 = Queued.eventsWithout (fun b => decide (Queued.Skipped b)) before q ∧
      (d.halt.error? path).toList ++ s.2.1 = Queued.errors path before q ∧
      s.2.2 = ⟨path, some []⟩ := by
  induction q generalizing before n with
  | nil =>
    dsimp only [Queued.drainFrom]
    rw [reread_nil]
    exact ⟨rfl, rfl, rfl⟩
  | cons x q ih =>
    have hn' : q.length + 1 ≤ n := hn
    cases h : Queued.haltAt? before x with
    | none =>
      -- the same reading goes on
      obtain ⟨he, hf, hd⟩ := ih (before ++ [x]) (Nat.le_of_lt hn')
      rw [Queued.drainFrom_of_haltAt?_none h]
      dsimp only
      refine ⟨?_, ?_, hd⟩
      · rw [Queued.eventsWithout, ← he, List.append_assoc]
      · rw [Queued.errors, ← hf, h]
        rfl
    | some halt =>
      -- the next reading starts behind `x`, and it does not skip
      obtain ⟨m, rfl⟩ : ∃ m, n = m + 1 := ⟨n - 1, by omega⟩
      obtain ⟨he, hf, hd⟩ := ih (before ++ [x]) (Nat.le_of_succ_le_succ hn')
      rw [decide_eq_false (Queued.not_skipped_of_haltAt? h)] at he hf hd
      rw [Queued.drainFrom_of_haltAt? h]
      refine ⟨?_, ?_, hd⟩
      · simp only [Queued.eventsWithout, Queued.event?_of_haltAt? h, ← he]
        simp [reread, events, Queued.drain]
      · rw [Queued.errors, ← hf, h]
        rfl

theorem reread_eq (q : List Queued) (k : Nat) :
    reread (q.length + k + 1) ⟨path, some q⟩ =
      (Queued.eventsWithout (fun b => decide (Queued.Skipped b)) [] q, Queued.errors path [] q,
        ⟨path, some []⟩) := by
  obtain ⟨he, hf, hd⟩ :=
    reread_drainFrom_rest path [] (Nat.le_add_right q.length k)
  rw [← he, ← hf, ← hd]
  rfl

/-- Reading a device until its queue is consumed yields the events in front of which reading does
not skip, and an overflow gets out exactly if one is met while reading skips. When no stop and no
overflow falls into a packet that has lost events, that is what an overflow should cost: the events
from it up to the end of its packet, and nothing gets out. -/
theorem rereading_skips_until_stopped (path : String) (q : List Queued) (k : Nat) :
    let r := reread (q.length + k + 1) ⟨path, some q⟩
    r.2.2 = ⟨path, some []⟩ ∧
      r.1 = Queued.eventsWithout (fun before => decide (Queued.Skipped before)) [] q ∧
      (.overflowed ∈ r.2.1 ↔ Queued.Spills [] q) ∧
      (Queued.Undisturbed q →
        r.1 = Queued.eventsWithout (fun before => decide (Queued.Broken before)) [] q ∧
          .overflowed ∉ r.2.1) := by
  rw [reread_eq]
  refine ⟨rfl, rfl, Queued.overflowed_mem_errors path, fun h => ⟨?_, ?_⟩⟩
  · exact Queued.eventsWithout_congr fun front after hq => by
      simpa using Queued.skipped_iff_broken h hq
  · exact (Queued.overflowed_mem_errors path).not.mpr (Queued.not_spills h)

/-- A packet that lost events and ends before the device pauses, and a turn of the dial. -/
def endedPacket : List Queued :=
  [.overflow, .ofReport 1 256 0 0, .ofReport 0 0 0 0, .pause, .ofReport 2 7 5 0, .overflow]

theorem ended_packet_lost_alone :
    Queued.Undisturbed endedPacket ∧
      (reread 7 ⟨"/dev/null", some endedPacket⟩).1 = [⟨2, 7, 5, ⟨0, by decide⟩⟩] ∧
      .overflowed ∉ (reread 7 ⟨"/dev/null", some endedPacket⟩).2.1 := by
  have h : Queued.Undisturbed endedPacket := by decide
  obtain ⟨-, -, -, hr⟩ := rereading_skips_until_stopped "/dev/null" endedPacket 0
  obtain ⟨he, ho⟩ := hr h
  exact ⟨h, he.trans (by decide), ho⟩

/-- The same packet ends only behind the pause. -/
def pausedPacket : List Queued :=
  [.overflow, .ofReport 1 256 0 0, .pause, .ofReport 0 0 0 0, .ofReport 2 7 5 0]

/-- Events are lost twice in one packet. -/
def twiceBrokenPacket : List Queued :=
  [.overflow, .ofReport 1 256 0 0, .overflow, .ofReport 0 0 0 0]

/-- It is not so that an overflow always costs the events up to the end of its packet and nothing
gets out: behind a pause the end of the packet is yielded, and a second overflow gets out. -/
theorem broken_packet_not_skipped_behind_pause :
    (reread 6 ⟨"/dev/null", some pausedPacket⟩).1 ≠
        Queued.eventsWithout (fun before => decide (Queued.Broken before)) [] pausedPacket ∧
      .overflowed ∈ (reread 5 ⟨"/dev/null", some twiceBrokenPacket⟩).2.1 := by
  decide

end Device

end JogShuttle
