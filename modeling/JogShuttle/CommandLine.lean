import JogShuttle.Text.Digit

/-!
# Command lines

A command line holds options and at most one operand. Short options can be packed behind one dash;
long ones can be cut short as long as only one fits. A value is the rest of a packed word, what
stands behind an equals sign, or the next word. Letters behind an equals sign that follows a flag are
packed as well. A double dash makes every later word an operand.
-/

set_option autoImplicit false

namespace JogShuttle.CommandLine

/-- Whether an option takes a value. -/
inductive Arity where
  | flag
  | value
  | optionalValue
deriving DecidableEq, Inhabited

/-- An option by its names; one without a key asks for help. -/
structure Switch (κ : Type) where
  names : List String
  arity : Arity
  key : Option κ

structure Grammar (κ : Type) where
  switches : List (Switch κ)
  needsOperand : Bool

/-- A command line that is not to be run: help was asked for, or it does not follow the grammar. -/
inductive Exit where
  | help
  | usage
deriving DecidableEq, Inhabited

def Exit.status : Exit → Nat
  | help => 0
  | usage => 2

/-- An option that was given, with its value if it has one. -/
structure Given (κ : Type) where
  switch : Switch κ
  value : Option String

/-- How a word reads on its own. Text may be attached to an option. -/
inductive Word (κ : Type) where
  | operand (text : String)
  | separator
  | option (switch : Switch κ) (short : Bool) (attached : Option (List Char))
  | unknown

/-- What a command line gives. -/
structure Parsed (κ : Type) where
  given : List (κ × Option String)
  operand : Option String

variable {κ : Type}

namespace Grammar

/-- Every name with its option. -/
def named (g : Grammar κ) : List (String × Switch κ) :=
  g.switches.flatMap fun c => c.names.map fun name => (name, c)

def switch? (g : Grammar κ) (name : String) : Option (Switch κ) := g.named.lookup name

end Grammar

def separatorText : String := "--"

/-- A name is short if one dash leads it. -/
def isShort (name : List Char) : Bool :=
  match name with
  | '-' :: '-' :: _ => false
  | _ => true

/-- The text before the first equals sign, and the text behind it if there is one. -/
def cutAtEquals (cs : List Char) : List Char × Option (List Char) :=
  match cs.dropWhile (· != '=') with
  | [] => (cs, none)
  | _ :: value => (cs.takeWhile (· != '='), some value)

/-- A negative number is an operand in spite of its dash. -/
def isNegativeNumber (cs : List Char) : Bool :=
  match cs with
  | '-' :: number =>
    let number := if number.getLast? = some '\n' then number.dropLast else number
    let whole := number.takeWhile Text.isDigit
    match number.dropWhile Text.isDigit with
    | [] => !whole.isEmpty
    | '.' :: fraction => !fraction.isEmpty && fraction.all Text.isDigit
    | _ => false
  | _ => false

/-- The reading of a word that names no option, not even in part. -/
def plainWord (text : String) : Word κ :=
  if isNegativeNumber text.toList || text.toList.contains ' ' then .operand text else .unknown

/-- The reading of a word behind two dashes that is no full name: one that a single name starts
with stands for it. -/
def longWord (g : Grammar κ) (text : String) : Except Exit (Word κ) :=
  let (stem, value) := cutAtEquals text.toList
  match g.named.filter fun n => stem.isPrefixOf n.1.toList with
  | [] => .ok (plainWord text)
  | [n] => .ok (.option n.2 (isShort n.1.toList) value)
  | _ => .error .usage

/-- The reading of a word behind one dash that is no full name: its first letter may be an option
that the rest is attached to. -/
def shortWord (g : Grammar κ) (text : String) : Word κ :=
  match g.switch? (String.ofList (text.toList.take 2)) with
  | some c => .option c true (some (text.toList.drop 2))
  | none => plainWord text

/-- A word that comes before any separator. -/
def readWord (g : Grammar κ) (text : String) : Except Exit (Word κ) :=
  let cs := text.toList
  if cs.head? ≠ some '-' then .ok (.operand text)
  else
    match g.switch? text with
    | some c => .ok (.option c (isShort cs) none)
    | none =>
      if cs.length = 1 then .ok (.operand text)
      else
        let (name, value) := cutAtEquals cs
        match value, g.switch? (String.ofList name) with
        | some v, some c => .ok (.option c (isShort name) (some v))
        | _, _ => if isShort cs then .ok (shortWord g text) else longWord g text

/-- Reads all words; behind a separator each is an operand. -/
def readWords (g : Grammar κ) : List String → Except Exit (List (Word κ))
  | [] => .ok []
  | w :: ws =>
    if w = separatorText then .ok (.separator :: ws.map .operand)
    else do return (← readWord g w) :: (← readWords g ws)

/-- The options packed in one word: those that are complete, and the last one if it may take its value
from the next word. -/
structure Pack (κ : Type) where
  complete : List (Given κ) := []
  open? : Option (Switch κ) := none

/-- Puts an option in front of a pack. -/
def Pack.cons (c : Switch κ) (p : Pack κ) : Pack κ := { p with complete := ⟨c, none⟩ :: p.complete }

/-- Unpacks the letters behind a flag. -/
def unpack (g : Grammar κ) (flag : Switch κ) : List Char → Except Exit (Pack κ)
  | [] => .error .usage
  | letter :: rest =>
    match g.switch? (String.ofList ['-', letter]) with
    | none => .error .usage
    | some c =>
      if rest.isEmpty then .ok { complete := [⟨flag, none⟩], open? := some c }
      else if c.arity = .flag then (unpack g c rest).map (Pack.cons flag)
      else .ok { complete := [⟨flag, none⟩, ⟨c, some (String.ofList rest)⟩] }

/-- The options in a word. Only a short flag can have letters attached. -/
def packOf (g : Grammar κ) (c : Switch κ) (short : Bool) :
    Option (List Char) → Except Exit (Pack κ)
  | none => .ok { open? := some c }
  | some text =>
    if c.arity = .flag then
      if short then unpack g c text else .error .usage
    else .ok { complete := [⟨c, some (String.ofList text)⟩] }

/-- The words read so far. -/
structure Progress (κ : Type) where
  given : List (κ × Option String) := []
  operand : Option String := none
  hasOperand : Bool := false
  surplus : Bool := false

namespace Progress

/-- Takes options in order; asking for help ends the reading. -/
def take (p : Progress κ) : List (Given κ) → Except Exit (Progress κ)
  | [] => .ok p
  | x :: xs =>
    match x.switch.key with
    | none => .error .help
    | some k => take { p with given := p.given ++ [(k, x.value)] } xs

/-- A reading that meets words it has no use for fails in the end. -/
def finish (g : Grammar κ) (p : Progress κ) : Except Exit (Parsed κ) :=
  if p.surplus || (g.needsOperand && !p.hasOperand) then .error .usage
  else .ok ⟨p.given, p.operand⟩

end Progress

/-- Drops a separator in front. -/
def skipSeparator : List (Word κ) → List (Word κ)
  | .separator :: ws => ws
  | ws => ws

theorem length_skipSeparator_le (ws : List (Word κ)) : (skipSeparator ws).length ≤ ws.length := by
  unfold skipSeparator
  split
  · exact Nat.le_succ _
  · exact Nat.le_refl _

/-- The value that an option takes from the words behind it, and the words left over. -/
def claimValue (c : Switch κ) : List (Word κ) → Except Exit (Option String × List (Word κ))
  | .operand value :: ws =>
    if c.arity = .flag then .ok (none, .operand value :: ws) else .ok (some value, ws)
  | ws => if c.arity = .value then .error .usage else .ok (none, ws)

theorem length_claimValue_le {c : Switch κ} {ws rest : List (Word κ)} {value : Option String}
    (h : claimValue c ws = .ok (value, rest)) : rest.length ≤ ws.length := by
  unfold claimValue at h
  split at h
  · split at h
    · cases h
      exact Nat.le_refl _
    · cases h
      exact Nat.le_succ _
  · split at h
    · cases h
    · cases h
      exact Nat.le_refl _

/-- Reads words one after another. The first operand counts, with a separator on either side. -/
def process (g : Grammar κ) (p : Progress κ) : List (Word κ) → Except Exit (Parsed κ)
  | [] => p.finish g
  | .unknown :: ws => process g { p with surplus := true } ws
  | .separator :: ws =>
    if p.hasOperand then process g { p with surplus := true } ws
    else if ws.isEmpty then process g { p with hasOperand := !g.needsOperand } ws
    else process g p ws
  | .operand text :: ws =>
    if p.hasOperand then process g { p with surplus := true } ws
    else process g { p with operand := some text, hasOperand := true } (skipSeparator ws)
  | .option c short attached :: ws => do
    let pack ← packOf g c short attached
    match pack.open? with
    | none => process g (← p.take pack.complete) ws
    | some last =>
      match _h : claimValue last ws with
      | .error e => .error e
      | .ok (value, rest) => process g (← p.take (pack.complete ++ [⟨last, value⟩])) rest
termination_by ws => ws.length
decreasing_by
  all_goals simp only [List.length_cons]
  all_goals first
    | exact Nat.lt_succ_self _
    | exact Nat.lt_succ_of_le (length_skipSeparator_le _)
    | exact Nat.lt_succ_of_le (length_claimValue_le _h)

/-- What a command line gives, unless it is not to be run. -/
def parse (g : Grammar κ) (words : List String) : Except Exit (Parsed κ) := do
  process g {} (← readWords g words)

end JogShuttle.CommandLine
