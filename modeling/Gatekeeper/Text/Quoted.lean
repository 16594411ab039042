import Gatekeeper.Text.Printable

/-!
# `Gatekeeper.Text.Quoted`: one character between single quotes

How an error message shows a character that it does not want to trust. The null,
the tab, the two line breaks, the single quote and the backslash have escapes of
two characters. A character without ink of its own, or one that would attach
itself to the opening quote, is written by its hexadecimal number; any other
stands for itself.
-/

set_option autoImplicit false

namespace Gatekeeper.Text

/-- A number in hexadecimal digits, without leading zeros. -/
def hexadecimal (n : Nat) : List Char := Nat.toDigits 16 n

/-- The characters that stand for one character inside single quotes. -/
def escapeChar (c : Char) : List Char :=
  if c = '\x00' then ['\\', '0']
  else if c = '\t' then ['\\', 't']
  else if c = '\n' then ['\\', 'n']
  else if c = '\r' then ['\\', 'r']
  else if c = '\'' || c = '\\' then ['\\', c]
  else if isExtending c || !isPrintable c then
    ['\\', 'u', '\x7b'] ++ hexadecimal c.toNat ++ ['\x7d']
  else [c]

/-- The character between single quotes. -/
def quoteChar (c : Char) : String :=
  String.ofList ('\'' :: escapeChar c ++ ['\''])

end Gatekeeper.Text
