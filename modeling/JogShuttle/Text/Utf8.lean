import JogShuttle.Text.Radix

/-!
# Reading UTF-8

Bytes are read from left to right. A sequence that breaks off is bad up to the byte that cannot
continue it. Strict reading stops at the first bad sequence; lenient reading puts one replacement
character in its place.
-/

set_option autoImplicit false

namespace JogShuttle.Text.Utf8

inductive Badness where
  | badStart
  | badContinuation
  | brokenOff
deriving DecidableEq, Inhabited

def Badness.text : Badness → String
  | badStart => "invalid start byte"
  | badContinuation => "invalid continuation byte"
  | brokenOff => "unexpected end of data"

/-- The payload of a lead byte and what it asks for: the number of bytes that continue it, and the
span that the first of them must lie in. -/
structure Lead where
  payload : Nat
  count : Nat
  first : Nat := 0x80
  last : Nat := 0xbf

/-- Overlong forms, surrogates and numbers beyond the last code point have no lead. -/
def lead? (b : Nat) : Option Lead :=
  if b < 0x80 then some ⟨b, 0, 0x80, 0xbf⟩
  else if b < 0xc2 then none
  else if b < 0xe0 then some ⟨b - 0xc0, 1, 0x80, 0xbf⟩
  else if b < 0xf0 then
    some ⟨b - 0xe0, 2, if b = 0xe0 then 0xa0 else 0x80, if b = 0xed then 0x9f else 0xbf⟩
  else if b < 0xf5 then
    some ⟨b - 0xf0, 3, if b = 0xf0 then 0x90 else 0x80, if b = 0xf4 then 0x8f else 0xbf⟩
  else none

/-- What stands at the start of some bytes: a character or a bad sequence, with its length less
one and the bytes behind it. -/
inductive Chunk where
  | char (c : Char)
  | bad (why : Badness)

structure Piece where
  chunk : Chunk
  extra : Nat
  rest : List UInt8

/-- Reads so many continuation bytes, the first of them within a span. -/
def continueFrom (code extra : Nat) (first last : Nat) : Nat → List UInt8 → Piece
  | 0, bs => ⟨.char (Char.ofNat code), extra, bs⟩
  | _ + 1, [] => ⟨.bad .brokenOff, extra, []⟩
  | n + 1, b :: bs =>
    if first ≤ b.toNat ∧ b.toNat ≤ last then
      continueFrom (code * 64 + (b.toNat - 0x80)) (extra + 1) 0x80 0xbf n bs
    else ⟨.bad .badContinuation, extra, b :: bs⟩

def piece (b : UInt8) (bs : List UInt8) : Piece :=
  match lead? b.toNat with
  | none => ⟨.bad .badStart, 0, bs⟩
  | some l => continueFrom l.payload 0 l.first l.last l.count bs

theorem continueFrom_rest_length_le (code extra first last n : Nat) (bs : List UInt8) :
    (continueFrom code extra first last n bs).rest.length ≤ bs.length := by
  induction n generalizing code extra first last bs with
  | zero => exact Nat.le_refl _
  | succ n ih =>
    cases bs with
    | nil => exact Nat.le_refl _
    | cons b bs =>
      unfold continueFrom
      split
      · exact Nat.le_trans (ih _ _ _ _ _) (Nat.le_succ _)
      · exact Nat.le_refl _

theorem piece_rest_length_le (b : UInt8) (bs : List UInt8) :
    (piece b bs).rest.length ≤ bs.length := by
  unfold piece
  split
  · exact Nat.le_refl _
  · exact continueFrom_rest_length_le _ _ _ _ _ _

/-- A bad sequence: its bytes, its place, and what is wrong with it. -/
structure Error where
  byte : UInt8
  position : Nat
  length : Nat
  why : Badness

def Error.message (e : Error) : String :=
  let place :=
    if e.length = 1 then
      "byte 0x" ++ hexPadded 2 e.byte.toNat ++ " in position " ++ toString e.position
    else
      "bytes in position " ++ toString e.position ++ "-" ++ toString (e.position + e.length - 1)
  "'utf-8' codec can't decode " ++ place ++ ": " ++ e.why.text

/-- Strict reading from a position on; the characters read so far stand last first. -/
def decodeFrom (position : Nat) (read : List Char) : List UInt8 → Except Error (List Char)
  | [] => .ok read.reverse
  | b :: bs =>
    match (piece b bs).chunk with
    | .char c => decodeFrom (position + (piece b bs).extra + 1) (c :: read) (piece b bs).rest
    | .bad why => .error ⟨b, position, (piece b bs).extra + 1, why⟩
termination_by bs => bs.length
decreasing_by exact Nat.lt_succ_of_le (piece_rest_length_le b bs)

def decode (bytes : List UInt8) : Except Error (List Char) := decodeFrom 0 [] bytes

/-- What stands for a bad sequence. -/
def replacement : Char := '\ufffd'

/-- Lenient reading. -/
def decodeLossy : List UInt8 → List Char
  | [] => []
  | b :: bs =>
    match (piece b bs).chunk with
    | .char c => c :: decodeLossy (piece b bs).rest
    | .bad _ => replacement :: decodeLossy (piece b bs).rest
termination_by bs => bs.length
decreasing_by all_goals exact Nat.lt_succ_of_le (piece_rest_length_le b bs)

end JogShuttle.Text.Utf8
