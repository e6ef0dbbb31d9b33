/-!
# Decimal digits

Every script writes its ten decimal digits as one run of code points, so a digit is known by
the zero of its run. Numbers are valued digit by digit, whatever scripts their digits come from.
-/

set_option autoImplicit false

namespace JogShuttle.Text

/-- The zeros of all decimal digit runs (Unicode 14). -/
def digitZeros : List Nat :=
  [0x30, 0x660, 0x6f0, 0x7c0, 0x966, 0x9e6, 0xa66, 0xae6, 0xb66, 0xbe6, 0xc66, 0xce6, 0xd66,
   0xde6, 0xe50, 0xed0, 0xf20, 0x1040, 0x1090, 0x17e0, 0x1810, 0x1946, 0x19d0, 0x1a80, 0x1a90,
   0x1b50, 0x1bb0, 0x1c40, 0x1c50, 0xa620, 0xa8d0, 0xa900, 0xa9d0, 0xa9f0, 0xaa50, 0xabf0,
   0xff10, 0x104a0, 0x10d30, 0x11066, 0x110f0, 0x11136, 0x111d0, 0x112f0, 0x11450, 0x114d0,
   0x11650, 0x116c0, 0x11730, 0x118e0, 0x11950, 0x11c50, 0x11d50, 0x11da0, 0x16a60, 0x16ac0,
   0x16b50, 0x1d7ce, 0x1d7d8, 0x1d7e2, 0x1d7ec, 0x1d7f6, 0x1e140, 0x1e2f0, 0x1e950, 0x1fbf0]

/-- The value of a decimal digit of any script. -/
def digitValue? (c : Char) : Option Nat :=
  if c.val < 128 then
    if '0' ≤ c ∧ c ≤ '9' then some (c.toNat - 48) else none
  else
    (digitZeros.find? fun z => z ≤ c.toNat && c.toNat < z + 10).map (c.toNat - ·)

def isDigit (c : Char) : Bool := (digitValue? c).isSome

/-- A character that is no digit counts as zero; callers have checked. -/
def digitValue (c : Char) : Nat := (digitValue? c).getD 0

/-- The number written by a run of digits, most significant first. -/
def natOfDigits (cs : List Char) : Nat :=
  cs.foldl (fun n c => 10 * n + digitValue c) 0

theorem isDigit_iff (c : Char) : isDigit c = true ↔ ∃ v, digitValue? c = some v := by
  simp [isDigit, Option.isSome_iff_exists]

/-- More digits than this are refused where a whole number is read from text. -/
def digitLimit : Nat := 4300

/-- Why a number with this many digits is refused. -/
def digitLimitMessage (count : Nat) : String :=
  "Exceeds the limit (" ++ toString digitLimit ++
    " digits) for integer string conversion: value has " ++ toString count ++
    " digits; use sys.set_int_max_str_digits() to increase the limit"

/-- The number written by a run of digits, or their count if there are too many. -/
def readNat (cs : List Char) : Except Nat Nat :=
  if cs.length ≤ digitLimit then .ok (natOfDigits cs) else .error cs.length

end JogShuttle.Text
