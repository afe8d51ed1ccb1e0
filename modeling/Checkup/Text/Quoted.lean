import Checkup.Text.Printable

/-!
# Quoted texts

A quoted text stands in single quotes, or in double quotes if it holds a single quote and no double
one. The quote in use and the backslash are escaped, line feed, carriage return and tab have short
escapes, and other characters that are not printable are written by their code point.
-/

namespace Checkup.Text

/-- A number in lower-case hexadecimal digits, filled up with zeros. -/
def hexadecimal (width n : Nat) : List Char :=
  let shown := Nat.toDigits 16 n
  List.replicate (width - shown.length) '0' ++ shown

def escapeChar (quote : Char) (c : Char) : List Char :=
  if c == quote || c == '\\' then ['\\', c]
  else if c == '\n' then ['\\', 'n']
  else if c == '\r' then ['\\', 'r']
  else if c == '\t' then ['\\', 't']
  else if isPrintable c then [c]
  else if c.toNat < 0x100 then '\\' :: 'x' :: hexadecimal 2 c.toNat
  else if c.toNat < 0x10000 then '\\' :: 'u' :: hexadecimal 4 c.toNat
  else '\\' :: 'U' :: hexadecimal 8 c.toNat

def quoteFor (chars : List Char) : Char :=
  if chars.contains '\'' && !chars.contains '"' then '"' else '\''

def quoted (s : String) : String :=
  let chars := s.toList
  let quote := quoteFor chars
  String.ofList (quote :: (chars.flatMap (escapeChar quote) ++ [quote]))

end Checkup.Text
