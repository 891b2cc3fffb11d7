import CodeMetrics.Json.Quote
/-!
The four kinds of strings: with escapes between double quotes, without between single ones, and of
either kind over several lines between triple quotes. A string is cut off the text first, which
finds only its end, and read afterwards.
-/
namespace CodeMetrics.Toml

def isWhite (char : Char) : Bool := char == ' ' || char == '\t'

def isControl (char : Char) : Bool := (char.toNat < 0x20 && char != '\t') || char.toNat == 0x7f

def charOfCode? (code : Nat) : Option Char :=
  if code.isValidChar then some (Char.ofNat code) else none

def codeEscape? (digits rest : List Char) : Option (Char × List Char) :=
  (Json.hexNumber? digits).bind fun code => (charOfCode? code).map fun char => (char, rest)

def escape? : List Char → Option (Char × List Char)
  | 'b' :: rest => some (Char.ofNat 0x08, rest)
  | 't' :: rest => some ('\t', rest)
  | 'n' :: rest => some ('\n', rest)
  | 'f' :: rest => some (Char.ofNat 0x0c, rest)
  | 'r' :: rest => some ('\r', rest)
  | 'e' :: rest => some (Char.ofNat 0x1b, rest)
  | '"' :: rest => some ('"', rest)
  | '\\' :: rest => some ('\\', rest)
  | 'x' :: a :: b :: rest => codeEscape? [a, b] rest
  | 'u' :: a :: b :: c :: d :: rest => codeEscape? [a, b, c, d] rest
  | 'U' :: a :: b :: c :: d :: e :: f :: g :: h :: rest => codeEscape? [a, b, c, d, e, f, g, h] rest
  | _ => none

def skipLines : List Char → List Char
  | [] => []
  | '\r' :: '\n' :: rest => skipLines rest
  | char :: rest => if isWhite char || char == '\n' then skipLines rest else char :: rest

/-- After a backslash that ends a line: past that line end and all blanks after it. -/
def continued? (text : List Char) : Option (List Char) :=
  match text.dropWhile isWhite with
  | '\n' :: rest => some (skipLines rest)
  | '\r' :: '\n' :: rest => some (skipLines rest)
  | _ => none

def singleQuote : Char := Char.ofNat 0x27

structure Style where
  mark : Char
  escapes : Bool
  lines : Bool

/-- A string as it stands in a document, past its opening marks. -/
structure Quoted where
  style : Style
  /-- What stands before the closing marks, or all up to where they are missed. -/
  body : List Char
  closed : Bool

def closing (style : Style) (count : Nat) : List Char := List.replicate count style.mark

/-- At the end of a string over several lines up to two marks belong to the string. -/
def ending? (style : Style) (text : List Char) : Option (List Char × List Char) :=
  if style.lines then
    let marks := text.takeWhile (· == style.mark)
    if marks.length < 3 then none
    else
      let kept := min (marks.length - 3) 2
      some (closing style kept, text.drop (kept + 3))
  else match text with
    | char :: rest => if char == style.mark then some ([], rest) else none
    | [] => none

def keep (char : Char) (found : Quoted × List Char) : Quoted × List Char :=
  ({ found.1 with body := char :: found.1.body }, found.2)

/-- Cuts a string off the text. A mark after a backslash does not close it, and one line is all that
a string of one line can reach over. -/
def cut (style : Style) : (escaped : Bool) → List Char → Quoted × List Char
  | _, [] => (⟨style, [], false⟩, [])
  | escaped, char :: rest =>
    if escaped && (char == '\\' || char == style.mark) then keep char (cut style false rest)
    else match ending? style (char :: rest) with
      | some (kept, rest) => (⟨style, kept, true⟩, rest)
      | none =>
        if char == '\n' && !style.lines then (⟨style, [], false⟩, char :: rest)
        else keep char (cut style (style.escapes && char == '\\') rest)

def unescaped? (style : Style) : Nat → List Char → Option (List Char)
  | 0, _ => none
  | _ + 1, [] => some []
  | limit + 1, '\r' :: '\n' :: rest =>
    if style.lines then (unescaped? style limit rest).map ('\r' :: '\n' :: ·) else none
  | limit + 1, char :: rest =>
    if char == '\n' && style.lines then (unescaped? style limit rest).map (char :: ·)
    else if char == '\\' && style.escapes then
      match if style.lines then continued? rest else none with
      | some rest => unescaped? style limit rest
      | none => (escape? rest).bind fun found => (unescaped? style limit found.2).map (found.1 :: ·)
    else if isControl char then none
    else (unescaped? style limit rest).map (char :: ·)

def Quoted.read? (quoted : Quoted) : Option String :=
  if quoted.closed then
    (unescaped? quoted.style (quoted.body.length + 1) quoted.body).map String.ofList
  else none

/-- A line end directly after the opening marks does not count. -/
def skipFirstLineEnd : List Char → List Char
  | '\n' :: rest => rest
  | '\r' :: '\n' :: rest => rest
  | text => text

def line? (text : List Char) : Option (Quoted × List Char) :=
  match text with
  | char :: rest =>
    if char == '"' then some (cut ⟨'"', true, false⟩ false rest)
    else if char == singleQuote then some (cut ⟨singleQuote, false, false⟩ false rest)
    else none
  | [] => none

def string? (text : List Char) : Option (Quoted × List Char) :=
  let lines (style : Style) := some (cut style false (skipFirstLineEnd (text.drop 3)))
  if text.take 3 == List.replicate 3 '"' then lines ⟨'"', true, true⟩
  else if text.take 3 == List.replicate 3 singleQuote then lines ⟨singleQuote, false, true⟩
  else line? text

end CodeMetrics.Toml
