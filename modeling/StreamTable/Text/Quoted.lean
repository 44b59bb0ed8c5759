import StreamTable.Unicode.Property

/-! Quoted text, as it appears in records and error messages: in double quotes,
with escapes for quotes, backslashes and characters that would not be seen. -/

namespace StreamTable.Text

def escaped (c : Char) : List Char :=
  if c = '"' then ['\\', '"']
  else if c = '\\' then ['\\', '\\']
  else if c = '\t' then ['\\', 't']
  else if c = '\n' then ['\\', 'n']
  else if c = '\r' then ['\\', 'r']
  else if c = '\x00' then ['\\', '0']
  else if Unicode.isUnprintable c then "\\u\x7b".toList ++ Nat.toDigits 16 c.toNat ++ ['}']
  else [c]

def quoted (text : String) : String := String.ofList ('"' :: text.toList.flatMap escaped ++ ['"'])

end StreamTable.Text
