import CodeMetrics.Toml.Text
/-!
The outline of a document: its statements, one to a line, with keys and values as they stand. The
outline shows which words and strings there are and how they are nested, not yet what they mean.
-/
namespace CodeMetrics.Toml

def skipWhite (text : List Char) : List Char := text.dropWhile isWhite

/-- A word or a string. The word is empty where nothing stands in the place of a key or value. -/
inductive Piece where
  | word (text : List Char)
  | quoted (text : Quoted)

def Piece.isMissing : Piece → Bool
  | .word text => text.isEmpty
  | .quoted _ => false

inductive Written where
  | piece (piece : Piece)
  | array (items : List Written)
  | pairs (entries : List (List Piece × Written))

/-! Keys. -/

/-- Words are parted by blanks, line ends, comments and the marks that hold a document together. -/
def endsWord (char : Char) : Bool :=
  isWhite char || ['\n', '\r', '#', '=', ',', '[', ']', '\x7b', '\x7d'].contains char

def isKeyChar (char : Char) : Bool := !endsWord char && char != '.'

def key (text : List Char) : Piece × List Char :=
  match string? text with
  | some found => (.quoted found.1, found.2)
  | none => (.word (text.takeWhile isKeyChar), text.dropWhile isKeyChar)

/-- Keys with dots between them, and what follows them and the blanks after them. -/
def keyPath : Nat → List Char → List Piece × List Char
  | 0, text => ([], text)
  | limit + 1, text =>
    let first := key (skipWhite text)
    match skipWhite first.2 with
    | '.' :: rest =>
      let more := keyPath limit rest
      (first.1 :: more.1, more.2)
    | rest => ([first.1], rest)

def path (text : List Char) : List Piece × List Char := keyPath (text.length + 1) text

/-! Gaps between the parts of an array or an inline table: blanks, line ends and comments. -/

def skipGaps? (comment : Bool) : List Char → Option (List Char)
  | [] => some []
  | '\n' :: rest => skipGaps? false rest
  | '\r' :: '\n' :: rest => skipGaps? false rest
  | char :: rest =>
    if comment then
      if isControl char then none else skipGaps? true rest
    else if isWhite char then skipGaps? false rest
    else if char == '#' then skipGaps? true rest
    else some (char :: rest)

/-! Values. -/

/-- No more than 80 arrays and inline tables stand inside each other. -/
def nestingLimit : Nat := 80

def isQuote (char : Char) : Bool := char == '"' || char == singleQuote

def startsWord (text : List Char) : Bool := text.head?.any fun char => isKeyChar char && !isQuote char

/-- The word of a value, with dots in it and with the words that follow after blanks. A quote belongs
to the word only `inside` of it, not after a dot. -/
def word (inside : Bool) : List Char → List Char × List Char
  | [] => ([], [])
  | char :: rest =>
    if isWhite char then
      if startsWord (skipWhite rest) then
        let more := word false rest
        (char :: more.1, more.2)
      else ([], char :: rest)
    else if endsWord char || (isQuote char && !inside) then ([], char :: rest)
    else
      let more := word (char != '.') rest
      (char :: more.1, more.2)

def piece (text : List Char) : Piece × List Char :=
  match string? text with
  | some found => (.quoted found.1, found.2)
  | none =>
    let found := word false text
    (.word found.1, found.2)

mutual
/-- `depth` more arrays or inline tables may be opened. -/
def value? (depth : Nat) : Nat → List Char → Option (Written × List Char)
  | 0, _ => none
  | limit + 1, text =>
    match text, depth with
    | '[' :: _, 0 => none
    | '\x7b' :: _, 0 => none
    | '[' :: rest, depth + 1 =>
      (items? depth limit rest).map fun found => (.array found.1, found.2)
    | '\x7b' :: rest, depth + 1 =>
      (pairs? depth limit rest).map fun found => (.pairs found.1, found.2)
    | _, _ =>
      let found := piece text
      some (.piece found.1, found.2)

def items? (depth : Nat) : Nat → List Char → Option (List Written × List Char)
  | 0, _ => none
  | limit + 1, text => do
    let start ← skipGaps? false text
    if let ']' :: rest := start then return ([], rest)
    if let ',' :: _ := start then none
    let (item, rest) ← value? depth limit start
    let rest ← skipGaps? false rest
    match rest with
    | ']' :: rest => return ([item], rest)
    | ',' :: rest =>
      let (more, rest) ← items? depth limit rest
      return (item :: more, rest)
    | _ => none

/-- Gaps may also stand around the equals sign of a pair, but not inside of its path. A value may be
missing before the closing brace only. -/
def pairs? (depth : Nat) : Nat → List Char → Option (List (List Piece × Written) × List Char)
  | 0, _ => none
  | limit + 1, text => do
    let start ← skipGaps? false text
    if let '\x7d' :: rest := start then return ([], rest)
    let (keys, rest) := path start
    let '=' :: rest ← skipGaps? false rest | none
    let start ← skipGaps? false rest
    if let ',' :: _ := start then none
    let (value, rest) ← value? depth limit start
    let rest ← skipGaps? false rest
    match rest with
    | '\x7d' :: rest => return ([(keys, value)], rest)
    | ',' :: rest =>
      let (more, rest) ← pairs? depth limit rest
      return ((keys, value) :: more, rest)
    | _ => none
end

/-! Statements. -/

inductive Statement where
  | blank
  | table (path : List Piece)
  | row (path : List Piece)
  | pair (path : List Piece) (value : Written)

/-- Each character is used up at most twice: once where a value is looked for, once inside it. -/
def valueLimit (text : List Char) : Nat := 2 * text.length + 2

/-- Up to the end of the line, or to a comment there, past the strings on the way. -/
def skipWords : Nat → List Char → List Char
  | 0, text => text
  | limit + 1, text =>
    match string? text, text with
    | some found, _ => skipWords limit found.2
    | none, [] => []
    | none, char :: rest =>
      if char == '\n' || char == '\r' || char == '#' then char :: rest
      else if isKeyChar char then skipWords limit (rest.dropWhile isKeyChar)
      else skipWords limit rest

/-- The path of a header, and what follows its closing marks. Where the last key is missing nothing
more is asked of the line. -/
def header? (closing text : List Char) : Option (List Piece × List Char) :=
  let found := path text
  if closing.isPrefixOf found.2 then some (found.1, found.2.drop closing.length)
  else if found.2.head? == some ']' then none
  else if found.1.getLast?.any Piece.isMissing then
    some (found.1, skipWords (found.2.length + 1) found.2)
  else none

def statement? (text : List Char) : Option (Statement × List Char) :=
  match skipWhite text with
  | [] => some (.blank, [])
  | '\n' :: rest => some (.blank, '\n' :: rest)
  | '\r' :: rest => some (.blank, '\r' :: rest)
  | '#' :: rest => some (.blank, '#' :: rest)
  | '[' :: '[' :: rest => (header? [']', ']'] rest).map fun found => (.row found.1, found.2)
  | '[' :: rest => (header? [']'] rest).map fun found => (.table found.1, found.2)
  | start => do
    let (keys, rest) := path start
    let '=' :: rest := rest | none
    let (value, rest) ← value? nestingLimit (valueLimit rest) (skipWhite rest)
    return (.pair keys value, rest)

def skipComment? : List Char → Option (List Char)
  | [] => some []
  | '\n' :: rest => some rest
  | '\r' :: '\n' :: rest => some rest
  | char :: rest => if isControl char then none else skipComment? rest

/-- After a statement: blanks and a comment up to the end of the line. -/
def lineEnd? (text : List Char) : Option (List Char) :=
  match skipWhite text with
  | [] => some []
  | '\n' :: rest => some rest
  | '\r' :: '\n' :: rest => some rest
  | '#' :: rest => skipComment? rest
  | _ => none

def statements? : Nat → List Char → Option (List Statement)
  | 0, _ => none
  | limit + 1, text => do
    let (statement, rest) ← statement? text
    let rest ← lineEnd? rest
    if rest.isEmpty then return [statement]
    let more ← statements? limit rest
    return statement :: more

/-- A mark of byte order may come first. -/
def skipOrderMark : List Char → List Char
  | [] => []
  | char :: rest => if char.toNat = 0xfeff then rest else char :: rest

def outline? (text : String) : Option (List Statement) :=
  let chars := skipOrderMark text.toList
  statements? (chars.length + 1) chars

end CodeMetrics.Toml
