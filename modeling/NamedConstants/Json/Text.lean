import NamedConstants.Text.Quoted

/-!
# JSON strings

A text as a JSON string in pure ASCII: quotation marks, backslashes and what is not
printable ASCII are written as escapes, characters beyond the basic plane as surrogate
pairs.
-/

namespace NamedConstants.Json

open Text (hexDigits doubleQuote)

/-- The escape of one sixteen-bit unit. -/
def unitEscape (unit : Nat) : List Char :=
  '\\' :: 'u' :: hexDigits 4 unit

/-- One character inside a JSON string. -/
def stringChar (c : Char) : List Char :=
  if c = doubleQuote ∨ c = '\\' then ['\\', c]
  else if c = '\n' then ['\\', 'n']
  else if c = '\r' then ['\\', 'r']
  else if c = '\t' then ['\\', 't']
  else if c = '\x0c' then ['\\', 'f']
  else if c = '\x08' then ['\\', 'b']
  else if 32 ≤ c.toNat ∧ c.toNat < 0x7F then [c]
  else if c.toNat < 0x10000 then unitEscape c.toNat
  else
    let offset := c.toNat - 0x10000
    unitEscape (0xD800 + offset / 0x400) ++ unitEscape (0xDC00 + offset % 0x400)

/-- A text as a JSON string. -/
def string (s : List Char) : List Char :=
  doubleQuote :: s.flatMap stringChar ++ [doubleQuote]

end NamedConstants.Json
