import SearchQuery.Text.Combining
import SearchQuery.Text.Printable

/-!
# Quoted text

A text in a message stands between double quotes. The quote, the backslash and
the usual control characters are escaped by a mark, and every other character
that is not printable or would combine with the one before it by its code point
in braces. An apostrophe stays as it is.
-/

namespace SearchQuery.Text

/-- The code point in lower-case hexadecimal digits, without leading zeros. -/
def codeEscape (c : Char) : List Char :=
  ['\\', 'u', '\x7b'] ++ Nat.toDigits 16 c.toNat ++ ['\x7d']

def quotedChar (c : Char) : List Char :=
  if c = '"' then ['\\', '"']
  else if c = '\\' then ['\\', '\\']
  else if c = '\t' then ['\\', 't']
  else if c = '\n' then ['\\', 'n']
  else if c = '\r' then ['\\', 'r']
  else if c = '\x00' then ['\\', '0']
  else if isPrintable c && !isCombining c then [c]
  else codeEscape c

def quoted (text : String) : String :=
  String.ofList ('"' :: (text.toList.flatMap quotedChar ++ ['"']))

end SearchQuery.Text
