/-!
Blank text: nothing but white space, which is the 25 characters of that Unicode property.
-/
namespace CodeMetrics.Text

def isSpace (char : Char) : Bool :=
  let code := char.toNat
  (0x09 ≤ code && code ≤ 0x0d) || (0x2000 ≤ code && code ≤ 0x200a) ||
    [0x20, 0x85, 0xa0, 0x1680, 0x2028, 0x2029, 0x202f, 0x205f, 0x3000].contains code

def isBlank (text : String) : Bool := text.toList.all isSpace

end CodeMetrics.Text
