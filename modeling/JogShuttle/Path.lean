/-!
# Paths

A path is a list of names below a root or below the working directory. Repeated slashes and single
dots say nothing, but two slashes in front are kept apart from one.
-/

set_option autoImplicit false

namespace JogShuttle

structure Path where
  slashes : Nat
  names : List String
deriving DecidableEq, Inhabited

/-- Home directories: one's own, as the environment or else the system has it, and those of other
users. The system need not know any. -/
structure Homes where
  own : Option String
  ofUser : String → Option String

namespace Path

/-- The slashes that count among those in front. -/
def rootSlashes (count : Nat) : Nat := if count = 2 then 2 else min count 1

/-- Cuts a text at its slashes. -/
def split : List Char → List (List Char)
  | [] => [[]]
  | c :: cs =>
    if c = '/' then [] :: split cs
    else
      match split cs with
      | [] => [[c]]
      | name :: names => (c :: name) :: names

/-- Names that lead nowhere. -/
def isIdle (name : List Char) : Bool := name.isEmpty || name == ['.']

def ofText (text : String) : Path :=
  let cs := text.toList
  { slashes := rootSlashes (cs.takeWhile (· == '/')).length
    names := ((split cs).filter fun name => !isIdle name).map String.ofList }

def text (p : Path) : String :=
  if p.slashes = 0 ∧ p.names = [] then "."
  else String.ofList (List.replicate p.slashes '/') ++ "/".intercalate p.names

/-- A name that holds a zero character stands for no file, nor can it be asked for. -/
def isProper (p : Path) : Bool := !p.text.toList.contains '\x00'

/-- The report on a path that cannot be asked for. -/
def improperText : String := "embedded null byte"

def isAbsolute (p : Path) : Bool := p.slashes != 0

def child (p : Path) (name : String) : Path := { p with names := p.names ++ [name] }

/-- A directory's text without closing slashes; the root keeps its own. -/
def homeText (dir : String) : String :=
  let kept := (dir.toList.reverse.dropWhile (· == '/')).reverse
  if kept.isEmpty then "/" else String.ofList kept

/-- The home directory that a name in front of a path stands for. -/
def home? (h : Homes) : List Char → Option String
  | [] => h.own.map homeText
  | user => (h.ofUser (String.ofList user)).map homeText

/-- Puts the home directory in the place of a leading tilde. A tilde that stands for no known
directory cannot be expanded. -/
def expand? (h : Homes) (p : Path) : Option Path :=
  if p.slashes ≠ 0 then some p
  else
    match p.names with
    | [] => some p
    | first :: rest =>
      match first.toList with
      | '~' :: user =>
        match home? h user with
        | none => none
        | some dir =>
          if dir.toList.head? = some '~' then none
          else
            let base := ofText dir
            some { base with names := base.names ++ rest }
      | _ => some p

/-- The report on a tilde that cannot be expanded. -/
def homelessText : String := "Could not determine home directory."

/-- One's own home directory. -/
def ownHome? (h : Homes) : Option Path := (ofText "~").expand? h

theorem head?_homeText (dir : String) :
    (homeText dir).toList.head? = some '~' ↔ dir.toList.head? = some '~' := by
  unfold homeText
  cases dir.toList with
  | nil => simp
  | cons c cs =>
    -- the first character stays, unless there is nothing but slashes
    rw [List.reverse_cons, List.dropWhile_append]
    by_cases hrest : (cs.reverse.dropWhile (· == '/')).isEmpty
    · by_cases hslash : c = '/'
      · simp [hrest, hslash]
      · simp [hrest, hslash]
    · simp [hrest]

/-- Nobody is at home where no directory is known, or one that begins with a tilde itself. -/
theorem ownHome?_eq_none_iff {h : Homes} :
    ownHome? h = none ↔ ∀ dir ∈ h.own, dir.toList.head? = some '~' := by
  have htilde : ofText "~" = ⟨0, ["~"]⟩ := by decide
  rw [ownHome?, htilde]
  cases hown : h.own with
  | none => simp [expand?, home?, hown]
  | some dir => simp [expand?, home?, hown, head?_homeText]

end Path

end JogShuttle
