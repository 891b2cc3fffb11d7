import CodeMetrics.Text.Shown
/-!
Text between quotes, as messages show it: what cannot be seen, a quote and a backslash are escaped.
-/
namespace CodeMetrics.Text

/-- The code point in hexadecimal between braces. -/
def codePoint (char : Char) : List Char :=
  '\\' :: 'u' :: '\x7b' :: Nat.toDigits 16 char.toNat ++ ['\x7d']

def shownChar (char : Char) : List Char :=
  if char = '"' then ['\\', '"']
  else if char = '\\' then ['\\', '\\']
  else if char = '\t' then ['\\', 't']
  else if char = '\n' then ['\\', 'n']
  else if char = '\r' then ['\\', 'r']
  else if char.toNat = 0 then ['\\', '0']
  else if isShown char then [char]
  else codePoint char

def quoted (text : String) : String :=
  String.ofList ('"' :: text.toList.flatMap shownChar ++ ['"'])

end CodeMetrics.Text
