import JogShuttle.Keysym.Names
import JogShuttle.Stroke
import JogShuttle.Text.Radix

/-!
# Keysym tables

A table lists named keysyms; rule files may write a name with or without its prefix. Five pointer
symbols, beyond every keysym, stand for pointer buttons and scroll ticks and have names of their
own. A symbol is shown by its first name, or in hexadecimal if it has none.
-/

set_option autoImplicit false

namespace JogShuttle

/-- The pointer symbols are numbered from here, starting with one. -/
def pointerBase : Nat := 0x2000000

/-- Names of the pointer symbols with their button numbers. -/
def pointerNames : List (String × Nat) :=
  [("Button_1", 1), ("Button_2", 2), ("Button_3", 3), ("Scroll_Up", 4), ("Scroll_Down", 5)]

/-- Characters beyond Latin 1 are numbered from here. -/
def characterBase : Nat := 0x1000000

namespace Symbol

/-- The pointer button of a pointer symbol. -/
def button? (s : Symbol) : Option Nat :=
  let n := s.keysym - pointerBase
  if 1 ≤ n ∧ n ≤ pointerNames.length then some n.toNat else none

/-- The symbol that types a character. -/
def ofChar (c : Char) : Symbol :=
  if c.toNat ≤ 0xff then ⟨c.toNat⟩ else ⟨(characterBase ||| c.toNat : Nat)⟩

end Symbol

/-- Named keysyms in listing order. Names are kept without the prefix, and the value zero names
nothing. -/
structure KeysymTable where
  entries : List (String × Int)

namespace KeysymTable

/-- The prefix that every full name starts with. -/
def namePrefix : String := "XK_"

/-- A name without its prefix, if it has it. -/
def bareName (name : List Char) : List Char :=
  match name with
  | 'X' :: 'K' :: '_' :: bare => bare
  | _ => name

/-- The keysym of a bare name; pointer names come first. -/
def keysymOf (t : KeysymTable) (bare : String) : Option Int :=
  match pointerNames.lookup bare with
  | some n => some (pointerBase + n : Nat)
  | none => t.entries.lookup bare

/-- The symbol that a name stands for. -/
def resolve (t : KeysymTable) (name : String) : Option Symbol :=
  if name = "" then none
  else
    match t.keysymOf (String.ofList (bareName name.toList)) with
    | none => none
    | some 0 => none
    | some n => some ⟨n⟩

/-- The first name listed for a keysym, or its hexadecimal number. -/
def nameOf (t : KeysymTable) (s : Symbol) : String :=
  let pointer := pointerNames.find? fun e => ((pointerBase + e.2 : Nat) : Int) == s.keysym
  let named := t.entries.find? fun e => e.2 == s.keysym
  match pointer.map (·.1) <|> named.map (·.1) with
  | some bare => namePrefix ++ bare
  | none => "0x" ++ Text.hexInt s.keysym

def formatStroke (t : KeysymTable) (s : Stroke) : String :=
  t.nameOf s.symbol ++ (if s.pressed then "/D" else "/U")

/-- The printed form of a sequence, as traces and listings show it. -/
def format (t : KeysymTable) (ss : List Stroke) : String :=
  String.intercalate " " (ss.map t.formatStroke)

/-- The table of all known names. -/
def standard : KeysymTable := ⟨Keysym.names⟩

end KeysymTable

end JogShuttle
