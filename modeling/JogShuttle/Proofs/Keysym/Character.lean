import JogShuttle.Keysym

/-!
# Keysyms of characters

A character of Latin 1 has its code point for a keysym, and every other one its code point set into
the base beyond them. All code points have fewer bits than the base, so the two ranges stay apart,
different code points have different keysyms, and none reaches the pointer symbols. This holds of
the whole code space, the surrogates in it included, which are no characters.
-/

set_option autoImplicit false

namespace JogShuttle

/-- Code points are smaller than this. -/
def codeSpace : Nat := 0x110000

namespace Symbol

variable {m n : Nat} {c d : Char}

/-- The symbol of a code point, whether or not it is one of a character. -/
def ofCodePoint (n : Nat) : Symbol :=
  if n ≤ 0xff then ⟨n⟩ else ⟨(characterBase ||| n : Nat)⟩

theorem ofChar_eq_ofCodePoint (c : Char) : ofChar c = ofCodePoint c.toNat := rfl

theorem toNat_lt_codeSpace (c : Char) : c.toNat < codeSpace := by
  have hvalid : c.toNat < 0xd800 ∨ 0xdfff < c.toNat ∧ c.toNat < codeSpace := c.valid
  have hspace : codeSpace = 0x110000 := rfl
  omega

/-- The base has no bit in common with a code point. -/
theorem keysym_ofCodePoint (hn : n < codeSpace) : (ofCodePoint n).keysym =
    if n ≤ 0xff then (n : Int) else characterBase + n := by
  have hlt : n < 2 ^ 24 := Nat.lt_trans hn (by decide)
  have hor : characterBase ||| n = characterBase + n :=
    (Nat.two_pow_add_eq_or_of_lt hlt 1).symm
  unfold ofCodePoint
  split
  · rfl
  · rw [hor]
    rfl

/-- Characters are typed by the keysyms of Latin 1 or, beyond it, by those of their code points. -/
theorem keysym_ofChar (c : Char) : (ofChar c).keysym =
    if c.toNat ≤ 0xff then (c.toNat : Int) else characterBase + c.toNat :=
  keysym_ofCodePoint (toNat_lt_codeSpace c)

theorem keysym_ofCodePoint_injective (hm : m < codeSpace) (hn : n < codeSpace)
    (h : (ofCodePoint m).keysym = (ofCodePoint n).keysym) : m = n := by
  rw [keysym_ofCodePoint hm, keysym_ofCodePoint hn, characterBase] at h
  rw [codeSpace] at hm hn
  split at h
  · split at h
    · omega
    · omega
  · split at h
    · omega
    · omega

/-- A pointer symbol lies one to five beyond the pointer base. -/
theorem button?_eq_none_of_lt {s : Symbol} (h : s.keysym ≤ pointerBase) : s.button? = none := by
  unfold button?
  simp only
  exact if_neg fun hbutton => by omega

theorem button?_ofCodePoint (hn : n < codeSpace) : (ofCodePoint n).button? = none := by
  apply button?_eq_none_of_lt
  rw [keysym_ofCodePoint hn, characterBase, pointerBase]
  rw [codeSpace] at hn
  split
  · omega
  · omega

theorem keysym_ofChar_inj : (ofChar c).keysym = (ofChar d).keysym ↔ c = d := by
  constructor
  · intro h
    exact Char.toNat_inj.mp
      (keysym_ofCodePoint_injective (toNat_lt_codeSpace c) (toNat_lt_codeSpace d) h)
  · rintro rfl
    rfl

theorem button?_ofChar (c : Char) : (ofChar c).button? = none :=
  button?_ofCodePoint (toNat_lt_codeSpace c)

end Symbol

end JogShuttle
