import JogShuttle.Text.CharName.Aliases
import JogShuttle.Text.CharName.Alphabets
import JogShuttle.Text.CharName.Ancient
import JogShuttle.Text.CharName.Compatibility
import JogShuttle.Text.CharName.Notation
import JogShuttle.Text.CharName.Pictographs
import JogShuttle.Text.CharName.Scripts
import JogShuttle.Text.CharName.Syllabaries
import JogShuttle.Text.CharName.Symbols
import JogShuttle.Text.Digit
import JogShuttle.Text.Radix
import JogShuttle.Text.Span

/-!
# Characters by name

Every character has a name, and some have several. Case does not matter, but for ideographs, which
are named by their code points, and for syllables of Hangul, which are named by their sounds.
-/

set_option autoImplicit false

namespace JogShuttle.Text

def upperAscii (c : Char) : Char :=
  if 'a' ≤ c ∧ c ≤ 'z' then Char.ofNat (c.toNat - 32) else c

def isUpperHex (c : Char) : Bool := ('0' ≤ c && c ≤ '9') || ('A' ≤ c && c ≤ 'F')

/-- A code point of four or five upper-case hexadecimal digits. -/
def shortHex? (cs : List Char) : Option Nat :=
  if (cs.length = 4 ∨ cs.length = 5) ∧ cs.all isUpperHex then
    some (ofDigits 16 (cs.map fun c => (hexValue? c).getD 0))
  else none

def ideographStem : List Char := "CJK UNIFIED IDEOGRAPH-".toList

def ideographSpans : List (Nat × Nat) :=
  [(0x3400, 0x4dbf), (0x4e00, 0x9fff), (0x20000, 0x2a6df), (0x2a700, 0x2b738),
   (0x2b740, 0x2b81d), (0x2b820, 0x2cea1), (0x2ceb0, 0x2ebe0), (0x30000, 0x3134a)]

def ideograph? (cs : List Char) : Option Nat := (shortHex? cs).filter (inSpans ideographSpans)

def hangulStem : List Char := "HANGUL SYLLABLE ".toList

/-- The first code point of the syllables. -/
def hangulFirst : Nat := 0xac00

def leadingSounds : List String :=
  ["G", "GG", "N", "D", "DD", "R", "M", "B", "BB", "S", "SS", "", "J", "JJ", "C", "K", "T", "P",
   "H"]

def vowelSounds : List String :=
  ["A", "AE", "YA", "YAE", "EO", "E", "YEO", "YE", "O", "WA", "WAE", "OE", "YO", "U", "WEO", "WE",
   "WI", "YU", "EU", "YI", "I"]

def trailingSounds : List String :=
  ["", "G", "GG", "GS", "N", "NJ", "NH", "D", "L", "LG", "LM", "LB", "LS", "LT", "LP", "LH", "M",
   "B", "BS", "S", "SS", "NG", "J", "C", "K", "T", "P", "H"]

/-- The longest sound that a text starts with, by its place in the row, and the text behind it. -/
def longestSound? (sounds : List String) (cs : List Char) : Option (Nat × List Char) :=
  let fitting := sounds.zipIdx.filter fun s => s.1.toList.isPrefixOf cs
  let longest := fitting.foldl (fun best s =>
    match best with
    | none => some s
    | some b => if b.1.length < s.1.length then some s else best) none
  longest.map fun s => (s.2, cs.drop s.1.length)

def hangul? (cs : List Char) : Option Nat := do
  let (lead, cs) ← longestSound? leadingSounds cs
  let (vowel, cs) ← longestSound? vowelSounds cs
  let (trail, cs) ← longestSound? trailingSounds cs
  if cs.isEmpty then
    return hangulFirst + (lead * vowelSounds.length + vowel) * trailingSounds.length + trail
  else none

/-- Characters that are named by a stem with their code point. -/
def codedNames : List (String × Nat × Nat) :=
  [("CJK COMPATIBILITY IDEOGRAPH-", 0xf900, 0xfa6d),
   ("CJK COMPATIBILITY IDEOGRAPH-", 0xfa70, 0xfad9),
   ("CJK COMPATIBILITY IDEOGRAPH-", 0x2f800, 0x2fa1d),
   ("KHITAN SMALL SCRIPT CHARACTER-", 0x18b00, 0x18cd5), ("NUSHU CHARACTER-", 0x1b170, 0x1b2fb)]

def codedName? (name : List Char) : Option Nat :=
  codedNames.findSome? fun (stem, first, last) => do
    let digits ← NameRun.after? stem.toList name
    let code ← shortHex? digits
    if first ≤ code ∧ code ≤ last ∧ digits.length = (if code < 0x10000 then 4 else 5) then
      return code
    else none

/-- The character of a proper or further name in upper case. -/
def namedCode? (name : List Char) : Option Nat :=
  nameAliases.lookup (String.ofList name) <|> codedName? name <|>
    [alphabetRuns, scriptRuns, symbolRuns, syllabaryRuns, compatibilityRuns, ancientRuns,
      notationRuns, pictographRuns].findSome? fun runs => runs.findSome? (·.codeOf? name)

/-- The code point of the character that has a name. -/
def codeOfName? (name : List Char) : Option Nat :=
  match NameRun.after? hangulStem name, NameRun.after? ideographStem name with
  | some sounds, _ => hangul? sounds
  | none, some digits => ideograph? digits
  | none, none => namedCode? (name.map upperAscii)

end JogShuttle.Text
