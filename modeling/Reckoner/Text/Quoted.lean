import Reckoner.Text.Printable

/-!
# Quoted texts (how messages show a piece of input)

A message shows a piece of input between quotes, on one line, with every character
told apart from every other: the quote and the backslash follow a backslash, line ends
and tabs have names, and each further unprintable character is spelled by its code
point. A text that holds single quotes and no double quote stands between double
quotes, any other between single quotes.
-/

namespace Reckoner.Text

/-- The quote that `quoted` puts around `s`. -/
def quoteFor (s : Text) : Char :=
  if s.contains '\'' && !s.contains '"' then '"' else '\''

/-- The last `width` hexadecimal digits of `n`. -/
def hexDigits (width n : Nat) : Text :=
  let digits := Nat.toDigits 16 n
  List.replicate (width - digits.length) '0' ++ digits

/-- A code point spelled in the shortest of the three widths that holds it. -/
def spelled (n : Nat) : Text :=
  if n < 0x100 then '\\' :: 'x' :: hexDigits 2 n
  else if n < 0x10000 then '\\' :: 'u' :: hexDigits 4 n
  else '\\' :: 'U' :: hexDigits 8 n

/-- One character of a quoted text whose quote is `quote`. -/
def escaped (quote c : Char) : Text :=
  if c == quote || c == '\\' then ['\\', c]
  else if c == '\n' then "\\n"
  else if c == '\r' then "\\r"
  else if c == '\t' then "\\t"
  else if isPrintable c then [c]
  else spelled c.toNat

/-- `s` between quotes, on one line. -/
def quoted (s : Text) : Text :=
  let quote := quoteFor s
  quote :: s.flatMap (escaped quote) ++ [quote]

end Reckoner.Text
