import JogShuttle.Pattern.Syntax
import JogShuttle.Text.Blank
import JogShuttle.Text.CharName
import JogShuttle.Text.Letter

/-!
# Reading patterns

A pattern is read from left to right with one token of look-ahead. A token is one character, or a
backslash with the character after it; a backslash at the very end is noticed as soon as the token
before it has been taken. Positions count code points.
-/

set_option autoImplicit false

namespace JogShuttle.Pattern

inductive Lexeme where
  | plain (c : Char)
  | escaped (c : Char)
deriving DecidableEq, Inhabited

def Lexeme.text : Lexeme → List Char
  | plain c => [c]
  | escaped c => ['\\', c]

def Lexeme.isPlain (p : Char → Bool) : Lexeme → Bool
  | plain c => p c
  | escaped _ => false

/-- The look-ahead token with its position, and the text behind it. -/
structure Cursor where
  next : Option Lexeme
  rest : List Char
  position : Nat
deriving Inhabited

/-- Looks at the token that a text starts with. -/
def Cursor.load (position : Nat) : List Char → Except Failure Cursor
  | [] => .ok ⟨none, [], position⟩
  | ['\\'] => .error (.flaw .escapeAtEnd (some position))
  | '\\' :: c :: cs => .ok ⟨some (.escaped c), cs, position⟩
  | c :: cs => .ok ⟨some (.plain c), cs, position⟩

/-- What is known of the part that has been read. Groups are listed in order of their opening with
their widths once closed. -/
structure Progress where
  cursor : Cursor
  mode : Mode := {}
  unicodeFlag : Bool := false
  template : Bool := false
  groups : List (Option (Nat × Nat)) := []
  names : List (String × Nat) := []
  behindLimit : Option Nat := none
  tested : List (Nat × Nat) := []
deriving Inhabited

abbrev Reader := StateT Progress (Except Failure)

namespace Reader

def failAt {α : Type} (flaw : Flaw) (position : Nat) : Reader α :=
  throw (.flaw flaw (some position))

/-- Fails at a place some characters before the look-ahead token. -/
def failBack {α : Type} (flaw : Flaw) (back : Nat) : Reader α := do
  failAt flaw ((← get).cursor.position - back)

def fail {α : Type} (flaw : Flaw) : Reader α := failBack flaw 0

def position : Reader Nat := return (← get).cursor.position

def peek : Reader (Option Lexeme) := return (← get).cursor.next

/-- Takes the look-ahead token. -/
def take : Reader (Option Lexeme) := do
  let s ← get
  match s.cursor.next with
  | none => return none
  | some t =>
    let cursor ← Cursor.load (s.cursor.position + t.text.length) s.cursor.rest
    set { s with cursor }
    return some t

def isNext (c : Char) : Reader Bool := return (← peek) == some (.plain c)

/-- Takes the look-ahead token if it is the given character. -/
def accept (c : Char) : Reader Bool := do
  if ← isNext c then
    let _ ← take
    return true
  else return false

/-- Takes at most so many characters of a class. -/
def takeSome (p : Char → Bool) : Nat → Reader (List Char)
  | 0 => return []
  | n + 1 => do
    match ← peek with
    | some (.plain c) =>
      if p c then
        let _ ← take
        return c :: (← takeSome p n)
      else return []
    | _ => return []

/-- The number of characters that are still to be taken, and one. -/
def remaining : Reader Nat := do
  let s ← get
  return s.cursor.rest.length + 3

/-- The text up to a closing character, which is taken too. -/
def textUntil (closing : Char) (what : String) : Nat → List Char → Reader (List Char)
  | 0, taken => return taken
  | n + 1, taken => do
    match ← take with
    | none =>
      if taken.isEmpty then fail (.missing what)
      else failBack (.unterminatedName closing.toString) taken.length
    | some t =>
      if t = .plain closing then
        if taken.isEmpty then failBack (.missing what) 1 else return taken
      else textUntil closing what n (taken ++ t.text)

def readUntil (closing : Char) (what : String) : Reader (List Char) := do
  textUntil closing what (← remaining) []

def asciiDigit (c : Char) : Bool := '0' ≤ c && c ≤ '9'

def octalDigit (c : Char) : Bool := '0' ≤ c && c ≤ '7'

def codeOf (base : Nat) (cs : List Char) : Nat :=
  Text.ofDigits base (cs.map fun c => (Text.hexValue? c).getD 0)

/-- A code point written with exactly so many hexadecimal digits. -/
def hexEscape (letter : Char) (count : Nat) : Reader Nat := do
  let digits ← takeSome (fun c => (Text.hexValue? c).isSome) count
  let text := String.ofList ('\\' :: letter :: digits)
  if digits.length ≠ count then failBack (.incompleteEscape text) text.length
  else
    let n := codeOf 16 digits
    if n > 0x10ffff then failBack (.badEscape text) text.length else return n

/-- A character by its name. -/
def namedEscape : Reader Nat := do
  if ← accept '\x7b' then
    let name ← readUntil '\x7d' "character name"
    match Text.codeOfName? name with
    | some n => return n
    | none => failBack (.unknownCharacterName (String.ofList name)) (name.length + 4)
  else fail (.missing "\x7b")

/-- The control character that an escape letter stands for. -/
def controlEscape? : Char → Option Nat
  | 'a' => some 7
  | 'b' => some 8
  | 'f' => some 12
  | 'n' => some 10
  | 'r' => some 13
  | 't' => some 9
  | 'v' => some 11
  | '\\' => some 92
  | _ => none

def categoryEscape? : Char → Option Item
  | 'd' => some (.category .digit false)
  | 'D' => some (.category .digit true)
  | 's' => some (.category .space false)
  | 'S' => some (.category .space true)
  | 'w' => some (.category .word false)
  | 'W' => some (.category .word true)
  | _ => none

def anchorEscape? : Char → Option Anchor
  | 'A' => some .textStart
  | 'Z' => some .textEnd
  | 'b' => some .boundary
  | 'B' => some .noBoundary
  | _ => none

/-- The escapes that mean one code point inside and outside of sets. -/
def codeEscape (c : Char) : Reader Nat := do
  if c = 'x' then hexEscape c 2
  else if c = 'u' then hexEscape c 4
  else if c = 'U' then hexEscape c 8
  else if c = 'N' then namedEscape
  else if c.isAlphanum then failBack (.badEscape (String.ofList ['\\', c])) 2
  else return c.toNat

/-- An octal number is no code point beyond a byte. -/
def octalCode (digits : List Char) : Reader Nat := do
  let n := codeOf 8 digits
  let text := String.ofList ('\\' :: digits)
  if n > 0o377 then failBack (.octalRange text) text.length else return n

/-- An escape inside a character set. -/
def setEscape (c : Char) : Reader Item := do
  match controlEscape? c, categoryEscape? c with
  | some n, _ => return .code n
  | none, some i => return i
  | none, none =>
    if octalDigit c then return .code (← octalCode (c :: (← takeSome octalDigit 2)))
    else return .code (← codeEscape c)

/-- The number of groups opened so far, and one. -/
def groupCount : Reader Nat := return (← get).groups.length + 1

/-- The widths of a group that has been closed. -/
def groupWidth? (g : Nat) : Reader (Option (Nat × Nat)) := do
  if g = 0 then return none else return (← get).groups[g - 1]?.join

/-- Inside a look-behind only closed groups from before it may be referred to. -/
def checkBehind (g : Nat) : Reader Unit := do
  match (← get).behindLimit with
  | none => return ()
  | some limit =>
    if (← groupWidth? g).isNone then fail .openGroup
    else if g ≥ limit then fail .sameLookBehind
    else return ()

/-- A digit after a backslash: three octal digits are a code point, else one or two digits refer to
a group. -/
def numberEscape (c : Char) : Reader Node := do
  let second ← takeSome asciiDigit 1
  let third ←
    if octalDigit c && second.any octalDigit then takeSome octalDigit 1 else pure []
  if third ≠ [] then return .code (← octalCode (c :: second ++ third)) false
  else
    let digits := c :: second
    let g := Text.natOfDigits digits
    if g < (← groupCount) then
      match ← groupWidth? g with
      | none => failBack .openGroup (digits.length + 1)
      | some width =>
        checkBehind g
        return .same g width
    else failBack (.invalidReference g) digits.length

/-- An escape outside of sets. -/
def escape (c : Char) : Reader Node := do
  match anchorEscape? c, categoryEscape? c, controlEscape? c with
  | some a, _, _ => return .anchor a
  | none, some i, _ => return .set false [i]
  | none, none, some n => return .code n false
  | none, none, none =>
    if c = '0' then return .code (codeOf 8 (← takeSome octalDigit 2)) false
    else if asciiDigit c then numberEscape c
    else return .code (← codeEscape c) false

/-- A member of a set from a token that has been taken. -/
def setMember : Lexeme → Reader Item
  | .plain c => return .code c.toNat
  | .escaped c => setEscape c

def rangeOf (first last : Lexeme) : Item → Item → Reader Item
  | .code a, .code b => if b < a then bad else return .range a b
  | _, _ => bad
where
  bad : Reader Item :=
    failBack (.badRange (String.ofList first.text) (String.ofList last.text))
      (first.text.length + 1 + last.text.length)

/-- The members of a set up to its closing bracket; a bracket in first place is a member. -/
def setItems (start : Nat) : Nat → List Item → Reader (List Item)
  | 0, items => return items
  | n + 1, items => do
    match ← take with
    | none => failAt .unterminatedSet start
    | some this =>
      if this = .plain ']' && !items.isEmpty then return items
      else
        let item ← setMember this
        if ← accept '-' then
          match ← take with
          | none => failAt .unterminatedSet start
          | some that =>
            if that = .plain ']' then return items ++ [item, .code 45]
            else
              let range ← rangeOf this that item (← setMember that)
              setItems start n (items ++ [range])
        else setItems start n (items ++ [item])

/-- A set whose opening bracket has been taken. A set of one character is that character. -/
def readSet : Reader Node := do
  let start := (← position) - 1
  let negated ← accept '^'
  let items ← setItems start (← remaining) []
  match items.eraseDups with
  | [.code n] => return .code n negated
  | items => return .set negated items

def turnCount (digits : List Char) : Reader Nat := do
  match Text.readNat digits with
  | .error n => throw (.fault (.digits n))
  | .ok n => if n ≥ Node.turnLimit then throw (.fault .repetition) else return n

/-- Turn counts in braces whose opening brace has been taken; what is no count at all is put
back. -/
def readBraces : Reader (Option (Nat × Option Nat)) := do
  let saved := (← get).cursor
  if ← isNext '\x7d' then return none
  else
    let low ← takeSome asciiDigit (← remaining)
    let high ← if ← accept ',' then takeSome asciiDigit (← remaining) else pure low
    if ← accept '\x7d' then
      let least ← if low.isEmpty then pure 0 else turnCount low
      if high.isEmpty then return some (least, none)
      else
        let most ← turnCount high
        if most < least then failAt .repeatBounds saved.position
        else return some (least, some most)
    else
      modify fun s => { s with cursor := saved }
      return none

/-- The bounds that a repetition sign stands for. -/
def readBounds (sign : Char) : Reader (Option (Nat × Option Nat)) := do
  if sign = '?' then return some (0, some 1)
  else if sign = '*' then return some (0, none)
  else if sign = '+' then return some (1, none)
  else readBraces

/-- The sign that may follow a repetition. -/
def readGreed : Reader Greed := do
  if ← accept '?' then return .lazy
  else
    if ← accept '+' then return .possessive
    else return .greedy

/-- A repetition sign that has been taken, applied to the latest node; an opening brace without
counts is a plain character. -/
def repeatLast (sign : Char) (nodes : List Node) : Reader (List Node) := do
  let start := (← position) - 1
  match ← readBounds sign with
  | none => return .code sign.toNat false :: nodes
  | some (least, most) =>
    match nodes with
    | [] => failAt .nothingToRepeat start
    | node :: before =>
      if node.isAnchor then failAt .nothingToRepeat start
      else if node.isTurns then failAt .multipleRepeat start
      else
        return .turns (← readGreed) least most (.ofList node.unwrap) :: before

/-- Skips the rest of a comment up to its end token; false if the pattern ends first. -/
def skipThrough (c : Char) : Nat → Reader Bool
  | 0 => return false
  | n + 1 => do
    match ← take with
    | none => return false
    | some t => if t = .plain c then return true else skipThrough c n

/-- A group name that has been taken together with its closing character. -/
def checkName (name : List Char) : Reader Unit := do
  if Text.isName name then return ()
  else failBack (.badGroupName (String.ofList name)) (name.length + 1)

def findName (name : List Char) : Reader Nat := do
  match (← get).names.lookup (String.ofList name) with
  | some g => return g
  | none => failBack (.unknownGroupName (String.ofList name)) (name.length + 1)

/-- Opens a group and gives its number. -/
def openGroup (name : Option (List Char)) : Reader Nat := do
  let g ← groupCount
  modify fun s => { s with groups := s.groups ++ [none] }
  match name with
  | none => return g
  | some cs =>
    let key := String.ofList cs
    match (← get).names.lookup key with
    | some previous => failBack (.redefinition key g previous) (cs.length + 1)
    | none =>
      modify fun s => { s with names := s.names ++ [(key, g)] }
      return g

def closeGroup (g : Nat) (body : Node) : Reader Unit := do
  modify fun s => { s with groups := s.groups.set (g - 1) (some body.width) }

/-- A whole number as people write it: blanks around it, a sign, and single underscores between the
digits are allowed. -/
def looseInt? (cs : List Char) : Option Int :=
  let cs := Text.trim cs
  let (negative, cs) := match cs with
    | '-' :: r => (true, r)
    | '+' :: r => (false, r)
    | r => (false, r)
  let runs := cs.splitOn '_'
  let digits := runs.flatten
  if runs.all (fun r => !r.isEmpty) && digits.all Text.isDigit &&
      digits.length ≤ Text.digitLimit then
    let n : Int := Text.natOfDigits digits
    some (if negative then -n else n)
  else none

/-- No group has a number from here on. -/
def groupLimit : Nat := 1073741823

/-- The group that a condition tests, by name or by number. -/
def testedGroup : Reader Nat := do
  let name ← readUntil ')' "group name"
  let back := name.length + 1
  if Text.isName name then findName name
  else
    match looseInt? name with
    | none => failBack (.badGroupName (String.ofList name)) back
    | some n =>
      if n < 0 then failBack (.badGroupName (String.ofList name)) back
      else if n = 0 then failBack .badGroupNumber back
      else
        let g := n.toNat
        if g ≥ groupLimit then failBack (.invalidReference g) back
        else
          let place := (← position) - back
          modify fun s =>
            if s.tested.any (·.1 == g) then s else { s with tested := s.tested ++ [(g, place)] }
          return g

def isFlag (c : Char) : Bool := "iLmsxatu".toList.contains c

/-- Flags that choose the character classes exclude one another. -/
def isTypeFlag (c : Char) : Bool := c == 'a' || c == 'u' || c == 'L'

/-- The complaint about a token that is no flag. -/
def notAFlag {α : Type} (what : String) (t : Lexeme) : Reader α :=
  failBack (if t.isPlain Text.isLetter then .unknownFlag else .missing what) t.text.length

/-- The flags from a letter on that are switched on, with the token that ends them. -/
def flagsOn : Nat → Flags → Char → Reader (Flags × Char)
  | 0, f, c => return (f, c)
  | n + 1, f, c => do
    if c = 'L' then fail .localeFlag
    else
      let f : Flags := ⟨f.letters ++ [c]⟩
      if isTypeFlag c && f.letters.any fun d => isTypeFlag d && d != c then
        fail .incompatibleFlags
      else
        match ← take with
        | none => fail (.missing "-, : or )")
        | some t =>
          match t with
          | .plain d =>
            if d = ')' ∨ d = '-' ∨ d = ':' then return (f, d)
            else if isFlag d then flagsOn n f d
            else notAFlag "-, : or )" t
          | .escaped _ => notAFlag "-, : or )" t

/-- The flags from a letter on that are switched off, up to the colon. -/
def flagsOff : Nat → Flags → Char → Reader Flags
  | 0, f, _ => return f
  | n + 1, f, c => do
    if isTypeFlag c then fail .typeFlagOff
    else
      let f : Flags := ⟨f.letters ++ [c]⟩
      match ← take with
      | none => fail (.missing ":")
      | some t =>
        match t with
        | .plain d =>
          if d = ':' then return f
          else if isFlag d then flagsOff n f d
          else notAFlag ":" t
        | .escaped _ => notAFlag ":" t

/-- Flags of the whole pattern come into force at once. -/
def setGlobalFlags (f : Flags) : Reader Unit := do
  modify fun s =>
    let mode := f.apply {} s.mode
    { s with
      mode := { mode with ascii := s.mode.ascii || f.has 'a' }
      unicodeFlag := s.unicodeFlag || f.has 'u'
      template := s.template || f.has 't' }

/-- Inline flags from their first token on: none if they are flags of the whole pattern, else the
flags that hold in the group that follows. -/
def readFlags (c : Char) : Reader (Option (Flags × Flags)) := do
  let (on, ending) ← if c = '-' then pure ({}, c) else flagsOn (← remaining) {} c
  if ending = ')' then
    setGlobalFlags on
    return none
  else if on.has 't' then failBack .globalFlagOn 1
  else
    let off ←
      if ending = '-' then
        match ← take with
        | none => fail (.missing "flag")
        | some t =>
          match t with
          | .plain d =>
            if isFlag d then flagsOff (← remaining) {} d else notAFlag "flag" t
          | .escaped _ => notAFlag "flag" t
      else pure {}
    if off.has 't' then failBack .globalFlagOff 1
    else if on.letters.any off.has then failBack .flagOnAndOff 1
    else return some (on, off)

/-- What an opening parenthesis leads to. -/
inductive Opening where
  | nothing
  | node (n : Node)
  | capture (name : Option (List Char))
  | plain (on off : Flags)
  | atomic
  | look (behind negated : Bool)
  | condition
deriving Inhabited

def unexpected {α : Type} (before : String) (t : Lexeme) : Reader α :=
  failBack (.unknownExtension (before ++ String.ofList t.text)) (t.text.length + before.length + 1)

/-- A named group or a reference by name, after its letter. -/
def readNamed : Reader Opening := do
  if ← accept '<' then
    let name ← readUntil '>' "group name"
    checkName name
    return .capture (some name)
  else if ← accept '=' then
    let name ← readUntil ')' "group name"
    checkName name
    let g ← findName name
    match ← groupWidth? g with
    | none => failBack .openGroup (name.length + 1)
    | some width =>
      checkBehind g
      return .node (.same g width)
  else
    match ← take with
    | none => fail .unexpectedEnd
    | some t => unexpected "P" t

/-- What stands between an opening parenthesis, which has been taken, and the body of its group.
Flags of the whole pattern are allowed only at its start. -/
def readOpening (start : Nat) (atStart : Bool) : Reader Opening := do
  if ← accept '?' then
    match ← take with
    | none => fail .unexpectedEnd
    | some (.escaped c) => unexpected "" (.escaped c)
    | some (.plain c) =>
      if c = 'P' then readNamed
      else if c = ':' then return .plain {} {}
      else if c = '#' then
        if ← skipThrough ')' (← remaining) then return .nothing
        else failAt .unterminatedComment start
      else if c = '=' then return .look false false
      else if c = '!' then return .look false true
      else if c = '<' then
        match ← take with
        | none => fail .unexpectedEnd
        | some t =>
          if t = .plain '=' then return .look true false
          else if t = .plain '!' then return .look true true
          else unexpected "<" t
      else if c = '(' then return .condition
      else if c = '>' then return .atomic
      else if isFlag c || c = '-' then
        match ← readFlags c with
        | none => if atStart then return .nothing else failAt .lateGlobalFlags start
        | some (on, off) => return .plain on off
      else unexpected "" (.plain c)
  else return .capture none

def closeParen (start : Nat) : Reader Unit := do
  if ← accept ')' then return () else failAt .unterminatedSubpattern start

def isVerboseBlank (c : Char) : Bool :=
  c == ' ' || c == '\t' || c == '\n' || c == '\r' || c == '\x0b' || c == '\x0c'

mutual

/-- Alternatives up to a closing parenthesis or the end; `top` holds at the start of the pattern. -/
def readBranches (top : Bool) : Nat → Reader (List Node)
  | 0 => return []
  | n + 1 => do
    let first ← readSequence top n []
    match ← readOthers n with
    | [] => return first
    | others => return Node.choice first others

/-- The alternatives behind the first one. -/
def readOthers : Nat → Reader (List (List Node))
  | 0 => return []
  | n + 1 => do
    if ← accept '|' then
      let next ← readSequence false n []
      return next :: (← readOthers n)
    else return []

/-- One alternative; the nodes read so far stand newest first. Groups that only hold nodes together
are taken apart at its end. -/
def readSequence (top : Bool) : Nat → List Node → Reader (List Node)
  | 0, _ => return []
  | n + 1, nodes => do
    match ← peek with
    | none => return nodes.reverse.flatMap Node.unwrap
    | some t =>
      if t.isPlain fun c => c = '|' || c = ')' then return nodes.reverse.flatMap Node.unwrap
      else
        let _ ← take
        let verbose := (← get).mode.verbose
        match t with
        | .escaped c => readSequence top n ((← escape c) :: nodes)
        | .plain c =>
          if verbose && isVerboseBlank c then readSequence top n nodes
          else if verbose && c = '#' then
            let _ ← skipThrough '\n' (← remaining)
            readSequence top n nodes
          else if c = '[' then readSequence top n ((← readSet) :: nodes)
          else if c = '*' || c = '+' || c = '?' || c = '\x7b' then
            readSequence top n (← repeatLast c nodes)
          else if c = '.' then readSequence top n (.any :: nodes)
          else if c = '^' then readSequence top n (.anchor .lineStart :: nodes)
          else if c = '$' then readSequence top n (.anchor .lineEnd :: nodes)
          else if c = '(' then
            match ← readGroup (top && nodes.isEmpty) n with
            | none => readSequence top n nodes
            | some node => readSequence top n (node :: nodes)
          else readSequence top n (.code c.toNat false :: nodes)

/-- The body of a group up to its closing parenthesis. -/
def readBody (start : Nat) : Nat → Reader Node
  | 0 => return .empty
  | n + 1 => do
    let body ← readBranches false n
    closeParen start
    return .ofList body

/-- A group whose opening parenthesis has been taken; comments and flags leave no node. -/
def readGroup (atStart : Bool) : Nat → Reader (Option Node)
  | 0 => return none
  | n + 1 => do
    let start := (← position) - 1
    match ← readOpening start atStart with
    | .nothing => return none
    | .node node => return some node
    | .capture name =>
      let g ← openGroup name
      let body ← readBody start n
      closeGroup g body
      return some (.group (some g) {} {} body)
    | .plain on off =>
      let mode := (← get).mode
      modify fun s => { s with mode := on.apply off mode }
      let body ← readBody start n
      modify fun s => { s with mode := mode }
      return some (.group none on off body)
    | .atomic => return some (.atomic (← readBody start n))
    | .look behind negated =>
      let limit := (← get).behindLimit
      if behind && limit.isNone then
        let count ← groupCount
        modify fun s => { s with behindLimit := some count }
      let body ← readBranches false n
      modify fun s => { s with behindLimit := limit }
      closeParen start
      let body := Node.ofList body
      return some (if behind then .behind negated body else .ahead negated body)
    | .condition =>
      let g ← testedGroup
      checkBehind g
      let yes ← readSequence false n []
      let no ←
        if ← accept '|' then
          let no ← readSequence false n []
          if ← isNext '|' then fail .tooManyBranches else pure no
        else pure []
      closeParen start
      return some (.either g (.ofList yes) (.ofList no))

end

/-- Everything that is judged at the end of the pattern. -/
def readAll (fuel : Nat) : Reader (Mode × Node) := do
  let node := Node.ofList (← readBranches true fuel)
  let s ← get
  if s.mode.ascii && s.unicodeFlag then throw (.fault .flags)
  else if s.cursor.next.isSome then fail .unbalanced
  else
    match s.tested.find? fun e => e.1 > s.groups.length with
    | some (g, place) => failAt (.invalidReference g) place
    | none =>
      match node.check s.template with
      | .ok () => return (s.mode, node)
      | .error flaw => throw (.flaw flaw none)

end Reader

/-- The mode and the tree of a pattern. Every call of the reader takes a token or leads at once to
one that does, so the pattern's length bounds their nesting. -/
def Node.read (source : List Char) : Except Failure (Mode × Node) := do
  let cursor ← Cursor.load 0 source
  let (result, _) ← (Reader.readAll (4 * source.length + 8)).run { cursor }
  return result

end JogShuttle.Pattern
