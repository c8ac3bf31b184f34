import BoardLink.Bytes
import BoardLink.Text.Unprintable

/-!
# Quoted text

Error messages show names in double quotes. Inside, a quote and a backslash are escaped by a
backslash, the common control characters have letters, and other characters without a picture are
written by number.
-/

namespace BoardLink.Text

def quoteChar (c : Char) : List Char :=
  if c = '"' then ['\\', '"']
  else if c = '\\' then ['\\', '\\']
  else if c = '\n' then ['\\', 'n']
  else if c = '\r' then ['\\', 'r']
  else if c = '\t' then ['\\', 't']
  else if c = '\x00' then ['\\', '0']
  else if isUnprintable c then
    ['\\', 'u', '\x7b'] ++ (hexNat 1 c.toNat).toList ++ ['\x7d']
  else [c]

/-- A text in double quotes. -/
def quoted (s : String) : String :=
  String.ofList ('"' :: (s.toList.flatMap quoteChar ++ ['"']))

end BoardLink.Text
