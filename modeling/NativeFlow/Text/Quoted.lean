import NativeFlow.Text.Invisible
import NativeFlow.Text.Numeral

namespace NativeFlow.Quoted

/-!
# Quoted text

* `quote`: a text in double quotes in which every character can be seen.
-/

/-- One character of a quoted text. -/
def escape (c : Char) : String :=
  if c = '"' then "\\\""
  else if c = '\\' then "\\\\"
  else if c = '\n' then "\\n"
  else if c = '\r' then "\\r"
  else if c = '\t' then "\\t"
  else if c.toNat = 0 then "\\0"
  else if Invisible.isInvisible c then "\\u\x7b" ++ Numeral.hexadecimal c.toNat ++ "\x7d"
  else c.toString

/-- A text in double quotes. -/
def quote (text : String) : String :=
  text.toList.foldl (fun quoted c => quoted ++ escape c) "\"" ++ "\""

end NativeFlow.Quoted
