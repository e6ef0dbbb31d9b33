/-!
# Symbols and strokes

A symbol is a key, a pointer button or a scroll tick, known by its keysym; equality is all that most
of the library asks of it. A stroke presses or releases one symbol.
-/

set_option autoImplicit false

namespace JogShuttle

structure Symbol where
  keysym : Int
deriving DecidableEq, Inhabited

structure Stroke where
  symbol : Symbol
  pressed : Bool
deriving DecidableEq, Inhabited

def Stroke.press (s : Symbol) : Stroke := ⟨s, true⟩

def Stroke.release (s : Symbol) : Stroke := ⟨s, false⟩

@[simp] theorem Stroke.press_symbol (s : Symbol) : (Stroke.press s).symbol = s := rfl

@[simp] theorem Stroke.release_symbol (s : Symbol) : (Stroke.release s).symbol = s := rfl

@[simp] theorem Stroke.press_pressed (s : Symbol) : (Stroke.press s).pressed = true := rfl

@[simp] theorem Stroke.release_pressed (s : Symbol) : (Stroke.release s).pressed = false := rfl

/-- The halves of what a key sends: on its way down and on its way up. Other slots use the first
half only. -/
structure Halves where
  press : List Stroke
  release : List Stroke
deriving DecidableEq, Inhabited

end JogShuttle
