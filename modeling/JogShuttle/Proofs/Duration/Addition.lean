import JogShuttle.Proofs.Duration.Grammar

/-!
# Durations one behind the other

A text without a sign starts with a digit and ends in a unit, and no digit goes on with a unit. So
where two such texts meet no part changes, and in either order they are read as the sum of what they
are read as alone. A sign in front of a text only tells on which side of zero it stands.
-/

set_option autoImplicit false

namespace JogShuttle.Duration

variable {a b : String} {x y s : Duration} {ps qs : List Part} {cs ds : List Char} {n : Int}

/-- The text starts with no sign. -/
def Unsigned (text : String) : Prop :=
  text.toList.head? ≠ some '+' ∧ text.toList.head? ≠ some '-'

instance (text : String) : Decidable (Unsigned text) := inferInstanceAs (Decidable (_ ∧ _))

theorem splitSign_of_unsigned (h : Unsigned a) : splitSign a.toList = (1, a.toList) := by
  obtain ⟨hplus, hminus⟩ := h
  unfold splitSign
  split
  · rename_i heq
    rw [heq] at hminus
    exact absurd rfl hminus
  · rename_i heq
    rw [heq] at hplus
    exact absurd rfl hplus
  · rfl

theorem ofText_of_unsigned (h : Unsigned a) : ofText a = ofUnsigned a.toList := by
  rcases ofText_eq (splitSign_of_unsigned h) with ⟨_, heq⟩ | ⟨hsign, _⟩
  · exact heq
  · cases hsign

theorem ofText_plus (a : String) : ofText ("+" ++ a) = ofUnsigned a.toList := by
  have htext : ("+" ++ a).toList = '+' :: a.toList := String.toList_append
  rw [ofText, htext]
  rfl

theorem ofText_minus (a : String) :
    ofText ("-" ++ a) = ofUnsigned a.toList >>= fun d => checked (-d.micros) := by
  have htext : ("-" ++ a).toList = '-' :: a.toList := String.toList_append
  rw [ofText, htext]
  rfl

theorem checked_ok_iff : checked n = .ok s ↔ ofMicros n = .ok s := by
  unfold checked
  cases ofMicros n with
  | error e => simp [Except.mapError]
  | ok d => simp [Except.mapError]

theorem Computes.ok_iff {c : Prop} {r : Except TextError Duration} (hr : Computes c n r)
    (hc : c) : r = .ok s ↔ ofMicros n = .ok s := by
  rw [ofMicros_eq_ok_iff]
  constructor
  · rintro rfl
    cases hr with
    | value => rfl
  · rintro rfl
    exact hr.eq_ok hc s.inRange

section Parts

theorem amounts_append (ps qs : List Part) : amounts (ps ++ qs) = amounts ps + amounts qs := by
  simp only [amounts, List.map_append, List.sum_append]

theorem Written.append (hp : Written ps cs) (hq : Written qs ds) :
    Written (ps ++ qs) (cs ++ ds) := by
  induction hp with
  | nil => exact hq
  | @cons p ps piece cs hp hps ih =>
    rw [List.append_assoc]
    exact .cons hp ih

/-- The parts of a text that is read, their fractions small enough to be divided. -/
structure Reads (a : String) (ps : List Part) (x : Duration) : Prop where
  ne_nil : ps ≠ []
  written : Written ps a.toList
  products : ∀ p ∈ ps, InRange p.product
  micros : x.micros = amounts ps

theorem exists_reads (ha : Unsigned a) (h0 : a ≠ "0") (hx : ofText a = .ok x) :
    ∃ ps, Reads a ps x := by
  rw [ofText_of_unsigned ha] at hx
  by_cases h : ∃ ps, InGrammar a.toList ps
  · obtain ⟨ps, hps⟩ := h
    have hread := ofUnsigned_computes hps
    rw [hx] at hread
    generalize htext : a.toList = cs at hps
    cases hps with
    | zero => exact absurd (String.toList_injective htext) h0
    | parts hne hwritten =>
      subst cs
      cases hread with
      | value hproducts hrange => exact ⟨ps, hne, hwritten, hproducts, rfl⟩
  · obtain ⟨e, he, _⟩ := ofUnsigned_refusal (not_exists.mp h)
    rw [hx] at he
    cases he

theorem Reads.unsigned (h : Reads a ps x) : Unsigned a := by
  obtain ⟨d, ds, htext, hd, _⟩ := h.written.exists_cons h.ne_nil
  rw [Unsigned, htext]
  constructor
  · intro hplus
    cases hplus
    exact absurd hd (by decide)
  · intro hminus
    cases hminus
    exact absurd hd (by decide)

/-- Behind the parts of one text those of the other are read, and their amounts are added. -/
theorem Reads.ofText_append (hx : Reads a ps x) (hy : Reads b qs y) :
    ofText (a ++ b) = .ok s ↔ x.add y = .ok s := by
  obtain ⟨d, ds, htext, hd, _⟩ := hx.written.exists_cons hx.ne_nil
  have hunsigned : Unsigned (a ++ b) := by
    have ha := hx.unsigned
    rw [Unsigned, htext] at ha
    rw [Unsigned, String.toList_append, htext]
    exact ha
  have hwritten : Written (ps ++ qs) (a ++ b).toList := by
    rw [String.toList_append]
    exact hx.written.append hy.written
  have hgrammar : InGrammar (a ++ b).toList (ps ++ qs) :=
    .parts (List.append_ne_nil_of_left_ne_nil hx.ne_nil qs) hwritten
  have hproducts : ∀ p ∈ ps ++ qs, InRange p.product :=
    List.forall_mem_append.mpr ⟨hx.products, hy.products⟩
  have hsum : (amounts (ps ++ qs) : Int) = x.micros + y.micros := by
    rw [amounts_append, Int.natCast_add, hx.micros, hy.micros]
  rw [ofText_of_unsigned hunsigned, (ofUnsigned_computes hgrammar).ok_iff hproducts, hsum, add]

end Parts

/-- Two texts without a sign that are read and are no single zeros are read in either order, one
behind the other, as the sum of the two durations, unless that is out of range. A plus in front of a
text without a sign changes nothing, and a minus changes the sign of what it is read as, unless that
is out of range. -/
theorem unsigned_texts_add :
    (∀ a b x y, Unsigned a → Unsigned b → a ≠ "0" → b ≠ "0" →
      ofText a = .ok x → ofText b = .ok y →
      ∀ s, (ofText (a ++ b) = .ok s ↔ x.add y = .ok s) ∧
        (ofText (b ++ a) = .ok s ↔ x.add y = .ok s)) ∧
    ∀ a, Unsigned a → ofText ("+" ++ a) = ofText a ∧
      ∀ x, ofText a = .ok x →
        ∀ s, ofText ("-" ++ a) = .ok s ↔ ofMicros (-x.micros) = .ok s := by
  constructor
  · intro a b x y ha hb ha0 hb0 hx hy s
    obtain ⟨ps, hps⟩ := exists_reads ha ha0 hx
    obtain ⟨qs, hqs⟩ := exists_reads hb hb0 hy
    have hcomm : y.add x = x.add y := by rw [add, add, Int.add_comm]
    exact ⟨hps.ofText_append hqs, hcomm ▸ hqs.ofText_append hps⟩
  · intro a ha
    rw [ofText_plus, ofText_minus, ofText_of_unsigned ha]
    refine ⟨rfl, fun x hx s => ?_⟩
    rw [hx]
    exact checked_ok_iff

/-- The minutes of one text stand in front of the other, and the sum of the fractions is a whole
number of seconds. -/
theorem unsigned_texts_add_across_minutes :
    (Unsigned "1.5m" ∧ Unsigned "20ms0.980s" ∧ ofText "1.5m" = .ok ⟨90000000, by decide⟩ ∧
      ofText "20ms0.980s" = .ok ⟨1000000, by decide⟩) ∧
    ofText ("1.5m" ++ "20ms0.980s") = .ok ⟨91000000, by decide⟩ ∧
    ofText ("20ms0.980s" ++ "1.5m") = .ok ⟨91000000, by decide⟩ ∧
    ofText ("+" ++ "1.5m") = .ok ⟨90000000, by decide⟩ ∧
    ofText ("-" ++ "1.5m") = .ok ⟨-90000000, by decide⟩ := by
  have ha : Unsigned "1.5m" := by decide
  have hb : Unsigned "20ms0.980s" := by decide
  have hx : ofText "1.5m" = .ok ⟨90000000, by decide⟩ := by decide +kernel
  have hy : ofText "20ms0.980s" = .ok ⟨1000000, by decide⟩ := by decide +kernel
  obtain ⟨hadd, hsign⟩ := unsigned_texts_add
  obtain ⟨hab, hba⟩ := hadd _ _ _ _ ha hb (by decide) (by decide) hx hy ⟨91000000, by decide⟩
  obtain ⟨hplus, hminus⟩ := hsign _ ha
  exact ⟨⟨ha, hb, hx, hy⟩, hab.mpr (by decide), hba.mpr (by decide), hplus.trans hx,
    (hminus _ hx _).mpr (by decide)⟩

end JogShuttle.Duration
