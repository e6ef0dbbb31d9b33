import JogShuttle.Text.Printable
import JogShuttle.Text.Radix

/-!
# Quoted literals

Text inside messages is shown as a literal: in single quotes, or in double quotes when it holds a
single quote and no double one. Backslashes, the quote in use and unprintable characters are
escaped.
-/

set_option autoImplicit false

namespace JogShuttle.Text

/-- The quote that a literal of this text is written in. -/
def literalQuote (cs : List Char) : Char :=
  if cs.contains '\'' && !cs.contains '"' then '"' else '\''

def escapeChar (quote c : Char) : List Char :=
  if c = quote ∨ c = '\\' then ['\\', c]
  else if c = '\n' then ['\\', 'n']
  else if c = '\r' then ['\\', 'r']
  else if c = '\t' then ['\\', 't']
  else if isPrintable c then [c]
  else if c.toNat < 0x100 then '\\' :: 'x' :: (hexPadded 2 c.toNat).toList
  else if c.toNat < 0x10000 then '\\' :: 'u' :: (hexPadded 4 c.toNat).toList
  else '\\' :: 'U' :: (hexPadded 8 c.toNat).toList

/-- The literal that stands for a text. -/
def literal (s : String) : String :=
  let cs := s.toList
  let quote := literalQuote cs
  String.ofList (quote :: cs.flatMap (escapeChar quote) ++ [quote])

end JogShuttle.Text
