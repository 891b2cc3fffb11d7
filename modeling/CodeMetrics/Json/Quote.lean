/-!
Strings between quotes. Writing escapes quotes, backslashes and control characters and leaves all
else as it is. Reading knows these escapes, `\/`, and `\u` for any code unit; two units that form a
surrogate pair are one character, and a surrogate alone is refused.
-/
namespace CodeMetrics.Json

def hexDigit (value : Nat) : Char := Nat.digitChar value

def escapeChar (char : Char) : List Char :=
  if char = '"' then ['\\', '"']
  else if char = '\\' then ['\\', '\\']
  else if char.toNat = 0x08 then ['\\', 'b']
  else if char.toNat = 0x09 then ['\\', 't']
  else if char.toNat = 0x0a then ['\\', 'n']
  else if char.toNat = 0x0c then ['\\', 'f']
  else if char.toNat = 0x0d then ['\\', 'r']
  else if char.toNat < 0x20 then
    ['\\', 'u', '0', '0', hexDigit (char.toNat / 16), hexDigit (char.toNat % 16)]
  else [char]

def quote (text : String) : List Char :=
  '"' :: text.toList.flatMap escapeChar ++ ['"']

def hexValue? (char : Char) : Option Nat :=
  if char.isDigit then some (char.toNat - '0'.toNat)
  else if 'a' ≤ char ∧ char ≤ 'f' then some (char.toNat - 'a'.toNat + 10)
  else if 'A' ≤ char ∧ char ≤ 'F' then some (char.toNat - 'A'.toNat + 10)
  else none

def hexNumber? (digits : List Char) : Option Nat :=
  digits.foldlM (fun value digit => (hexValue? digit).map (value * 16 + ·)) 0

/-- What stands at one place of a string: a character, or a code unit given by its number. -/
inductive Piece where
  | char (value : Char)
  | unit (value : Nat)

def escape? : Char → Option Char
  | '"' => some '"'
  | '\\' => some '\\'
  | '/' => some '/'
  | 'b' => some (Char.ofNat 0x08)
  | 'f' => some (Char.ofNat 0x0c)
  | 'n' => some '\n'
  | 'r' => some '\r'
  | 't' => some '\t'
  | _ => none

/-- The pieces up to the closing quote, and what follows it. -/
def pieces : List Char → Option (List Piece × List Char)
  | [] => none
  | '"' :: rest => some ([], rest)
  | '\\' :: 'u' :: a :: b :: c :: d :: rest => do
    let value ← hexNumber? [a, b, c, d]
    let more ← pieces rest
    some (.unit value :: more.1, more.2)
  | '\\' :: letter :: rest => do
    let char ← escape? letter
    let more ← pieces rest
    some (.char char :: more.1, more.2)
  | char :: rest =>
    if char.toNat < 0x20 then none
    else (pieces rest).map fun more => (.char char :: more.1, more.2)

/-- The character that a pair of surrogates stands for. -/
def pairChar (high low : Nat) : Char := Char.ofNat (0x10000 + (high - 0xd800) * 0x400 + (low - 0xdc00))

def joinPieces : List Piece → Option (List Char)
  | [] => some []
  | .char char :: rest => (joinPieces rest).map (char :: ·)
  | .unit value :: rest =>
    if value < 0xd800 ∨ 0xe000 ≤ value then (joinPieces rest).map (Char.ofNat value :: ·)
    else if 0xdc00 ≤ value then none
    else match rest with
      | .unit low :: more =>
        if 0xdc00 ≤ low ∧ low < 0xe000 then (joinPieces more).map (pairChar value low :: ·) else none
      | _ => none

/-- Reads a string whose opening quote is gone. -/
def unquote? (text : List Char) : Option (String × List Char) := do
  let found ← pieces text
  let chars ← joinPieces found.1
  some (String.ofList chars, found.2)

theorem length_pieces {text rest : List Char} {found : List Piece}
    (read : pieces text = some (found, rest)) : rest.length < text.length := by
  fun_induction pieces text generalizing found rest with
  | case1 => cases read
  | case2 =>
    cases read
    exact Nat.lt_succ_self _
  | case3 a b c d more ih =>
    obtain ⟨number, _, read⟩ := Option.bind_eq_some_iff.mp read
    obtain ⟨⟨others, final⟩, next, read⟩ := Option.bind_eq_some_iff.mp read
    cases read
    have shorter := ih next
    simp only [List.length_cons]
    omega
  | case4 letter more _ ih =>
    obtain ⟨char, _, read⟩ := Option.bind_eq_some_iff.mp read
    obtain ⟨⟨others, final⟩, next, read⟩ := Option.bind_eq_some_iff.mp read
    cases read
    have shorter := ih next
    simp only [List.length_cons]
    omega
  | case5 => cases read
  | case6 char more _ _ _ _ ih =>
    obtain ⟨⟨others, final⟩, next, read⟩ := Option.map_eq_some_iff.mp read
    cases read
    exact Nat.lt_succ_of_lt (ih next)

theorem length_unquote {text rest : List Char} {value : String}
    (read : unquote? text = some (value, rest)) : rest.length < text.length := by
  obtain ⟨⟨parts, final⟩, found, read⟩ := Option.bind_eq_some_iff.mp read
  obtain ⟨chars, _, read⟩ := Option.bind_eq_some_iff.mp read
  cases read
  exact length_pieces found

end CodeMetrics.Json
