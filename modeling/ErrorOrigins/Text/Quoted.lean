import ErrorOrigins.Text.Printable

namespace ErrorOrigins.Text

-- A character inside quotes. What cannot be shown by itself is written as its code point.
def quotedChar (c : Char) : String :=
  if c = '\x00' then "\\0"
  else if c = '\t' then "\\t"
  else if c = '\r' then "\\r"
  else if c = '\n' then "\\n"
  else if c = '\\' then "\\\\"
  else if c = '"' then "\\\""
  else if isPrintable c then String.singleton c
  else "\\u\x7b" ++ String.ofList (Nat.toDigits 16 c.toNat) ++ "\x7d"

def quoted (s : String) : String :=
  "\"" ++ s.toList.foldl (fun t c => t ++ quotedChar c) "" ++ "\""

end ErrorOrigins.Text
