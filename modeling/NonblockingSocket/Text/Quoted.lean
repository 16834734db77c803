import NonblockingSocket.Text.Numeral

/-!
# Quoted text

Text between double quotes, in which every character that could mislead a reader is escaped.

- the double quote and the backslash follow a backslash;
- tab, line feed, carriage return and NUL have the short escapes `t`, `n`, `r` and `0`;
- any other character that is not printable is written by its code point, as `u` and the lower-case
  hexadecimal digits between braces;
- everything else stands for itself, the single quote included.

Which characters count as printable is a parameter.
-/

namespace NonblockingSocket.Text.Quoted

/-- A code point between braces, in lower-case hexadecimal without padding. -/
def codePoint (c : Char) : List Char :=
  '\\' :: 'u' :: '\x7b' :: (Numeral.hexDigits c.toNat ++ ['\x7d'])

/-- One character as it is written between the quotes. -/
def escape (printable : Char → Bool) (c : Char) : List Char :=
  if c = '\x00' then ['\\', '0']
  else if c = '\t' then ['\\', 't']
  else if c = '\r' then ['\\', 'r']
  else if c = '\n' then ['\\', 'n']
  else if c = '"' then ['\\', '"']
  else if c = '\\' then ['\\', '\\']
  else if printable c then [c]
  else codePoint c

/-- A text between double quotes, each of its characters escaped where needed. -/
def quote (printable : Char → Bool) (text : String) : String :=
  String.ofList ('"' :: (text.toList.flatMap (escape printable) ++ ['"']))

end NonblockingSocket.Text.Quoted
