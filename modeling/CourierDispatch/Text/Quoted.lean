import CourierDispatch.Bytes
import CourierDispatch.Text.Printable

/-!
# Quoted text

Error messages show a text in quotes, so that a reader sees where it begins
and ends and what is in it. Quotes, backslashes and the common controls have
escapes of their own; any other character that cannot be shown, or would
merge with the one before it, is given by its number in hexadecimal digits.
-/

namespace CourierDispatch.Text

/-- What stands for a character inside quotes. -/
def quoteChar (c : Char) : List Char :=
  if c = '"' then ['\\', '"']
  else if c = '\\' then ['\\', '\\']
  else if c = '\n' then ['\\', 'n']
  else if c = '\r' then ['\\', 'r']
  else if c = '\t' then ['\\', 't']
  else if c.toNat = 0 then ['\\', '0']
  else if isExtending c || !isPrintable c then
    '\\' :: 'u' :: '\x7b' :: (Nat.toDigits 16 c.toNat ++ ['\x7d'])
  else [c]

/-- **A text in quotes.** -/
def quoted (s : String) : String :=
  String.ofList ('"' :: (s.toList.flatMap quoteChar ++ ['"']))

end CourierDispatch.Text
