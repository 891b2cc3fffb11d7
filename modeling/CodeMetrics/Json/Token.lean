import CodeMetrics.Json.Number
import CodeMetrics.Json.Quote
/-!
The marks, words, numbers and strings of a document text. Between them stand spaces, tabs and line
ends.
-/
namespace CodeMetrics.Json

inductive Token where
  | openArray
  | closeArray
  | openObject
  | closeObject
  | comma
  | colon
  | null
  | bool (value : Bool)
  | number (value : Number)
  | string (value : String)
  deriving DecidableEq

def isGap (char : Char) : Bool := char = ' ' || char = '\t' || char = '\n' || char = '\r'

/-- The token at the head of the text, and what follows it. -/
def token? : List Char → Option (Token × List Char)
  | '[' :: rest => some (.openArray, rest)
  | ']' :: rest => some (.closeArray, rest)
  | '\x7b' :: rest => some (.openObject, rest)
  | '\x7d' :: rest => some (.closeObject, rest)
  | ',' :: rest => some (.comma, rest)
  | ':' :: rest => some (.colon, rest)
  | '"' :: rest => (unquote? rest).map fun found => (.string found.1, found.2)
  | 'n' :: 'u' :: 'l' :: 'l' :: rest => some (.null, rest)
  | 't' :: 'r' :: 'u' :: 'e' :: rest => some (.bool true, rest)
  | 'f' :: 'a' :: 'l' :: 's' :: 'e' :: rest => some (.bool false, rest)
  | text => (Number.read? text).map fun found => (.number found.1, found.2)

theorem length_token {text rest : List Char} {token : Token}
    (read : token? text = some (token, rest)) : rest.length < text.length := by
  unfold token? at read
  split at read
  case h_7 more =>
    obtain ⟨⟨value, final⟩, found, same⟩ := Option.map_eq_some_iff.mp read
    cases same
    exact Nat.lt_succ_of_lt (length_unquote found)
  case h_11 =>
    obtain ⟨⟨value, final⟩, found, same⟩ := Option.map_eq_some_iff.mp read
    cases same
    exact Number.length_read found
  all_goals
    cases read
    simp only [List.length_cons]
    omega

def tokens? (text : List Char) : Option (List Token) :=
  match text with
  | [] => some []
  | char :: rest =>
    if isGap char then tokens? rest
    else match found : token? (char :: rest) with
      | none => none
      | some (token, more) =>
        have := length_token found
        (tokens? more).map (token :: ·)
termination_by text.length
decreasing_by all_goals simp_all

end CodeMetrics.Json
