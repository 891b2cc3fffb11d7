import CodeMetrics.Json.Document
import CodeMetrics.Json.Printer
import CodeMetrics.Proofs.Documents
import CodeMetrics.Proofs.Quoting

/-!
Documents printed and read back. The text of a document is read as its tokens, with its numbers as
they are read again, and the tokens of a document that does not nest too deeply are read as that
document with each key once.
-/

namespace CodeMetrics.Json

mutual
/-- The tokens that a document is made of. -/
def tokens : Json → List Token
  | .null => [.null]
  | .bool value => [.bool value]
  | .number value => [.number value]
  | .string value => [.string value]
  | .array [] => [.openArray, .closeArray]
  | .array (item :: rest) => .openArray :: (item.tokens ++ moreItems rest)
  | .object [] => [.openObject, .closeObject]
  | .object ((key, value) :: rest) =>
    .openObject :: .string key :: .colon :: (value.tokens ++ moreMembers rest)

/-- The tokens from the end of one item to that of the array. -/
def moreItems : List Json → List Token
  | [] => [.closeArray]
  | item :: rest => .comma :: (item.tokens ++ moreItems rest)

def moreMembers : List (String × Json) → List Token
  | [] => [.closeObject]
  | (key, value) :: rest => .comma :: .string key :: .colon :: (value.tokens ++ moreMembers rest)
end

/-! Tokens at the head of a text. -/

theorem tokens?_gap {gap : List Char} (blank : ∀ char ∈ gap, isGap char = true)
    (rest : List Char) : tokens? (gap ++ rest) = tokens? rest := by
  induction gap with
  | nil => rfl
  | cons char more ih =>
      rw [List.forall_mem_cons] at blank
      rw [List.cons_append, tokens?, if_pos blank.1, ih blank.2]

theorem tokens?_token {char : Char} {more rest : List Char} {token : Token}
    (apart : isGap char = false) (read : token? (char :: more) = some (token, rest)) :
    tokens? (char :: more) = (tokens? rest).map (token :: ·) := by
  rw [tokens?, if_neg (by simp [apart])]
  split
  · rename_i none
    rw [read] at none
    cases none
  · rename_i found
    rw [read] at found
    cases found
    rfl

theorem tokens?_none {char : Char} {more : List Char} (apart : isGap char = false)
    (read : token? (char :: more) = none) : tokens? (char :: more) = none := by
  rw [tokens?, if_neg (by simp [apart])]
  split
  · rfl
  · rename_i found
    rw [read] at found
    cases found

/-- The characters that are tokens by themselves. -/
inductive Mark : Char → Token → Prop where
  | openArray : Mark '[' .openArray
  | closeArray : Mark ']' .closeArray
  | openObject : Mark '\x7b' .openObject
  | closeObject : Mark '\x7d' .closeObject
  | comma : Mark ',' .comma
  | colon : Mark ':' .colon

theorem tokens?_mark {char : Char} {token : Token} (mark : Mark char token)
    (rest : List Char) : tokens? (char :: rest) = (tokens? rest).map (token :: ·) := by
  cases mark <;> exact tokens?_token rfl rfl

theorem blank_newLine (depth : Nat) : ∀ char ∈ newLine depth, isGap char = true := by
  intro char member
  rcases List.mem_cons.mp member with rfl | indented
  · rfl
  · rw [List.eq_of_mem_replicate indented]
    rfl

theorem tokens?_quote (text : String) (rest : List Char) :
    tokens? (quote text ++ rest) = (tokens? rest).map (.string text :: ·) := by
  rw [quote, List.cons_append, List.cons_append, List.append_assoc]
  apply tokens?_token rfl
  rw [List.singleton_append, token?, unquote?_written]
  rfl

/-- A number begins with a digit or a minus sign. -/
theorem head_of_readLiteral {text : List Char} {found : Number.Literal × List Char}
    (read : Number.readLiteral text = some found) :
    ∃ char rest, text = char :: rest ∧ (char = '-' ∨ char.isDigit = true) := by
  cases text with
  | nil => cases read
  | cons char rest =>
      refine ⟨char, rest, rfl, ?_⟩
      by_cases negative : char = '-'
      · exact .inl negative
      · by_cases digit : char.isDigit = true
        · exact .inr digit
        · rw [Number.readLiteral] at read
          · simp [Number.readUnsigned, Number.readDigits, digit] at read
          · rintro _ ⟨⟩
            exact negative rfl

theorem token?_number {char : Char} (begun : char = '-' ∨ char.isDigit = true)
    (rest : List Char) :
    token? (char :: rest) =
      (Number.read? (char :: rest)).map fun found => (.number found.1, found.2) := by
  rw [token?]
  all_goals
    rintro _ ⟨⟩
    revert begun
    decide

theorem isGap_number {char : Char} (begun : char = '-' ∨ char.isDigit = true) :
    isGap char = false := by
  rw [isGap]
  simp only [Bool.or_eq_false_iff, decide_eq_false_iff_not]
  refine ⟨⟨⟨?_, ?_⟩, ?_⟩, ?_⟩
  all_goals
    rintro rfl
    revert begun
    decide

theorem tokens?_number (number : Number) {rest : List Char} (ends : Number.Ends rest) :
    tokens? (number.write ++ rest) =
      number.reread.bind fun back => (tokens? rest).map (.number back :: ·) := by
  obtain ⟨literal, written⟩ := number.written_write
  have read := number.read?_write ends
  obtain ⟨char, more, same, begun⟩ := head_of_readLiteral (written rest ends)
  rw [same] at read ⊢
  cases back : number.reread with
  | none =>
      rw [back] at read
      apply tokens?_none (isGap_number begun)
      rw [token?_number begun, read]
      rfl
  | some other =>
      rw [back] at read
      apply tokens?_token (isGap_number begun)
      rw [token?_number begun, read]
      rfl

/-! The lines of a block: its first part, and what comes after a part. -/

def closing (last : Char) (depth : Nat) : List (List Char) → List Char
  | [] => newLine depth ++ [last]
  | part :: rest => ',' :: (newLine (depth + 1) ++ (part ++ closing last depth rest))

theorem joinWith_closing (last : Char) (depth : Nat) (part : List Char)
    (rest : List (List Char)) :
    joinWith (',' :: newLine (depth + 1)) (part :: rest) ++ (newLine depth ++ [last]) =
      part ++ closing last depth rest := by
  induction rest generalizing part with
  | nil => rfl
  | cons next more ih =>
      rw [joinWith, List.append_assoc, ih next, closing]
      · simp only [List.append_assoc, List.cons_append]
      · exact List.cons_ne_nil next more

theorem block_cons (first last : Char) (depth : Nat) (part : List Char)
    (rest : List (List Char)) :
    block first last depth (part :: rest) =
      first :: (newLine (depth + 1) ++ (part ++ closing last depth rest)) := by
  rw [block, if_neg nofun, ← joinWith_closing]
  simp only [List.append_assoc, List.cons_append]

theorem ends_closing (last : Char) (depth : Nat) (parts : List (List Char)) (rest : List Char) :
    Number.Ends (closing last depth parts ++ rest) := by
  cases parts with
  | nil => exact Number.ends_cons _ rfl (by decide)
  | cons part more => exact Number.ends_cons _ rfl (by decide)

/-! A printed document is read as the tokens of the document that it is read again as. -/

theorem tokens?_line {char : Char} {token : Token} (mark : Mark char token)
    (depth : Nat) (rest : List Char) :
    tokens? (char :: (newLine depth ++ rest)) = (tokens? rest).map (token :: ·) := by
  rw [tokens?_mark mark, tokens?_gap (blank_newLine depth)]

theorem tokens?_empty {first last : Char} {opened closed : Token}
    (begun : Mark first opened) (ended : Mark last closed) (depth : Nat)
    (rest : List Char) :
    tokens? (block first last depth [] ++ rest) =
      (tokens? rest).map ([opened, closed] ++ ·) := by
  have lone : block first last depth [] ++ rest = first :: last :: rest := rfl
  rw [lone, tokens?_mark begun, tokens?_mark ended, Option.map_map]
  rfl

theorem tokens?_closed {last : Char} {token : Token} (mark : Mark last token)
    (depth : Nat) (rest : List Char) :
    tokens? (closing last depth [] ++ rest) = (tokens? rest).map (token :: ·) := by
  rw [closing, List.append_assoc, tokens?_gap (blank_newLine depth), List.singleton_append,
    tokens?_mark mark]

theorem tokens?_member (key : String) (rest : List Char) :
    tokens? (quote key ++ ':' :: ' ' :: rest) =
      (tokens? rest).map fun more => .string key :: .colon :: more := by
  have blank : tokens? (' ' :: rest) = tokens? rest :=
    tokens?_gap (List.forall_mem_singleton.mpr rfl) rest
  rw [tokens?_quote, tokens?_mark .colon, blank, Option.map_map]
  rfl

mutual
theorem tokens?_pretty (depth : Nat) (value : Json) {rest : List Char}
    (ends : Number.Ends rest) :
    tokens? (prettyChars depth value ++ rest) =
      value.reread.bind fun back => (tokens? rest).map (back.tokens ++ ·) := by
  cases value with
  | null => exact tokens?_token rfl rfl
  | bool value => cases value <;> exact tokens?_token rfl rfl
  | string value => exact tokens?_quote value rest
  | number number =>
      rw [prettyChars, tokens?_number number ends, reread]
      cases number.reread <;> rfl
  | array items =>
      cases items with
      | nil => exact tokens?_empty .openArray .closeArray depth rest
      | cons item more =>
          have first := tokens?_pretty (depth + 1) item
            (ends_closing ']' depth (prettyItems (depth + 1) more) rest)
          rw [prettyChars, prettyItems, block_cons, List.cons_append, List.append_assoc,
            List.append_assoc, tokens?_line .openArray, first, tokens?_items depth more rest,
            reread, rereadItems]
          cases item.reread <;> cases rereadItems more <;> simp [tokens, Function.comp_def]
  | object members =>
      cases members with
      | nil => exact tokens?_empty .openObject .closeObject depth rest
      | cons member more =>
          obtain ⟨key, value⟩ := member
          have first := tokens?_pretty (depth + 1) value
            (ends_closing '\x7d' depth (prettyMembers (depth + 1) more) rest)
          rw [prettyChars, prettyMembers, block_cons, List.cons_append, List.append_assoc,
            List.append_assoc, List.append_assoc, tokens?_line .openObject, List.cons_append,
            List.cons_append, tokens?_member, first, tokens?_members depth more rest, reread,
            rereadMembers]
          cases value.reread <;> cases rereadMembers more <;> simp [tokens, Function.comp_def]

theorem tokens?_items (depth : Nat) (items : List Json) (rest : List Char) :
    tokens? (closing ']' depth (prettyItems (depth + 1) items) ++ rest) =
      (rereadItems items).bind fun back => (tokens? rest).map (moreItems back ++ ·) := by
  cases items with
  | nil => exact tokens?_closed .closeArray depth rest
  | cons item more =>
      have first := tokens?_pretty (depth + 1) item
        (ends_closing ']' depth (prettyItems (depth + 1) more) rest)
      rw [prettyItems, closing, List.cons_append, List.append_assoc, List.append_assoc,
        tokens?_line .comma, first, tokens?_items depth more rest, rereadItems]
      cases item.reread <;> cases rereadItems more <;> simp [moreItems, Function.comp_def]

theorem tokens?_members (depth : Nat) (members : List (String × Json)) (rest : List Char) :
    tokens? (closing '\x7d' depth (prettyMembers (depth + 1) members) ++ rest) =
      (rereadMembers members).bind fun back => (tokens? rest).map (moreMembers back ++ ·) := by
  cases members with
  | nil => exact tokens?_closed .closeObject depth rest
  | cons member more =>
      obtain ⟨key, value⟩ := member
      have first := tokens?_pretty (depth + 1) value
        (ends_closing '\x7d' depth (prettyMembers (depth + 1) more) rest)
      rw [prettyMembers, closing, List.cons_append, List.append_assoc, List.append_assoc,
        List.append_assoc, tokens?_line .comma, List.cons_append, List.cons_append,
        tokens?_member, first, tokens?_members depth more rest, rereadMembers]
      cases value.reread <;> cases rereadMembers more <;> simp [moreMembers, Function.comp_def]
end

/-! The tokens of a document are read as that document. -/

theorem takeTokens_cons {expected next : Expected} {token : Token}
    (taken : takeToken expected token = some next) (rest : List Token) :
    takeTokens expected (token :: rest) = takeTokens next rest := by
  rw [takeTokens, taken]
  rfl

theorem openInside_of_room {outer : List Pending} {inside : Nat}
    (room : outer.length + (1 + inside) ≤ nestingLimit) (next : Expected) :
    openInside outer next = some next := by
  rw [openInside, if_pos]
  omega

theorem takeTokens_key {expected : Expected} {members : List (String × Json)} {key : String}
    {outer : List Pending}
    (taken : takeToken expected (.string key) = some (.colon members key outer))
    (rest : List Token) :
    takeTokens expected (.string key :: .colon :: rest) =
      takeTokens (.value (.member members key :: outer)) rest := by
  rw [takeTokens_cons taken]
  rfl

/-- The first item of an array is read as any other. -/
theorem takeTokens_firstItem (item : Json) (outer : List Pending) (rest : List Token) :
    takeTokens (.firstItem outer) (item.tokens ++ rest) =
      takeTokens (.value (.array [] :: outer)) (item.tokens ++ rest) := by
  rcases item with _ | value | value | value | items | members
  case array => cases items <;> rfl
  case object => cases members <;> rfl
  all_goals rfl

mutual
theorem takeTokens_value (value : Json) {outer : List Pending} (rest : List Token)
    (room : outer.length + value.nesting ≤ nestingLimit) :
    takeTokens (.value outer) (value.tokens ++ rest) =
      takeTokens (.after value.merged outer) rest := by
  cases value with
  | null => rfl
  | bool value => rfl
  | string value => rfl
  | number value => rfl
  | array items =>
      rw [nesting] at room
      have opened : takeToken (.value outer) .openArray = some (.firstItem outer) :=
        openInside_of_room room _
      cases items with
      | nil =>
          rw [tokens, List.cons_append, takeTokens_cons opened]
          rfl
      | cons item more =>
          rw [nestingOfItems] at room
          have inner : (Pending.array [] :: outer).length + item.nesting ≤ nestingLimit := by
            rw [List.length_cons]
            omega
          rw [tokens, List.cons_append, takeTokens_cons opened, List.append_assoc,
            takeTokens_firstItem, takeTokens_value item _ inner,
            takeTokens_moreItems more _ (by omega)]
          rfl
  | object members =>
      rw [nesting] at room
      have opened : takeToken (.value outer) .openObject = some (.firstKey outer) :=
        openInside_of_room room _
      cases members with
      | nil =>
          rw [tokens, List.cons_append, takeTokens_cons opened]
          rfl
      | cons member more =>
          obtain ⟨key, value⟩ := member
          rw [nestingOfMembers] at room
          have inner : (Pending.member [] key :: outer).length + value.nesting ≤ nestingLimit := by
            rw [List.length_cons]
            omega
          rw [tokens, List.cons_append, takeTokens_cons opened, List.cons_append, List.cons_append,
            takeTokens_key rfl, List.append_assoc, takeTokens_value value _ inner,
            ← Entries.toList_empty, takeTokens_moreMembers more _ (by omega)]
          rfl

theorem takeTokens_moreItems (items : List Json) {value : Json} {done : List Json}
    {outer : List Pending} (rest : List Token)
    (room : outer.length + (1 + nestingOfItems items) ≤ nestingLimit) :
    takeTokens (.after value (.array done :: outer)) (moreItems items ++ rest) =
      takeTokens (.after (.array ((value :: done).reverse ++ mergedItems items)) outer) rest := by
  cases items with
  | nil =>
      rw [mergedItems, List.append_nil]
      rfl
  | cons item more =>
      have comma : takeToken (.after value (.array done :: outer)) .comma =
        some (.value (.array (value :: done) :: outer)) := rfl
      rw [nestingOfItems] at room
      have inner : (Pending.array (value :: done) :: outer).length + item.nesting ≤
          nestingLimit := by
        rw [List.length_cons]
        omega
      rw [moreItems, List.cons_append, takeTokens_cons comma, List.append_assoc,
        takeTokens_value item _ inner, takeTokens_moreItems more _ (by omega),
        List.reverse_cons, List.append_assoc]
      rfl

/-- The members read so far are stored one after the other, and so are those to come. -/
theorem takeTokens_moreMembers (members : List (String × Json)) {key : String} {value : Json}
    {done : Entries Json} {outer : List Pending} (rest : List Token)
    (room : outer.length + (1 + nestingOfMembers members) ≤ nestingLimit) :
    takeTokens (.after value (.member done.toList key :: outer)) (moreMembers members ++ rest) =
      takeTokens (.after (.object ((mergedMembers members).foldl
        (fun entries pair => entries.insert pair.1 pair.2) (done.insert key value)).toList)
          outer) rest := by
  cases members with
  | nil => rfl
  | cons member more =>
      obtain ⟨next, item⟩ := member
      have comma : takeToken (.after value (.member done.toList key :: outer)) .comma =
        some (.key (done.insert key value).toList outer) := rfl
      rw [nestingOfMembers] at room
      have inner : (Pending.member (done.insert key value).toList next :: outer).length +
          item.nesting ≤ nestingLimit := by
        rw [List.length_cons]
        omega
      rw [moreMembers, List.cons_append, takeTokens_cons comma, List.cons_append,
        List.cons_append, takeTokens_key rfl, List.append_assoc, takeTokens_value item _ inner,
        takeTokens_moreMembers more _ (by omega)]
      rfl
end

theorem ofTokens?_tokens {value : Json} (room : value.nesting ≤ nestingLimit) :
    ofTokens? value.tokens = some value.merged := by
  have fits : ([] : List Pending).length + value.nesting ≤ nestingLimit := by
    rw [List.length_nil, Nat.zero_add]
    exact room
  have taken := takeTokens_value value [] fits
  rw [List.append_nil, takeTokens] at taken
  rw [ofTokens?, taken]

/-- A printed document is read as the document that its numbers make of it, each key once, when this
nests no deeper than the reader goes. -/
theorem read?_pretty_merged (value : Json)
    (readable : ∀ back ∈ value.reread, back.nesting ≤ nestingLimit) :
    read? value.pretty = value.reread.map merged := by
  have printed := tokens?_pretty 0 value Number.ends_nil
  rw [List.append_nil] at printed
  rw [read?, pretty, String.toList_ofList, printed]
  cases same : value.reread with
  | none => rfl
  | some back =>
      have ended : tokens? [] = some [] := by rw [tokens?]
      rw [ended, Option.bind_some, Option.map_some, Option.bind_some, List.append_nil]
      exact ofTokens?_tokens (readable back same)

/-- Where no key comes twice, the document comes back with no more than its numbers changed. -/
theorem read?_pretty (value : Json)
    (readable : ∀ back ∈ value.reread, back.nesting ≤ nestingLimit ∧ back.Distinct) :
    read? value.pretty = value.reread := by
  rw [read?_pretty_merged value fun back again => (readable back again).1]
  cases same : value.reread with
  | none => rfl
  | some back => exact congrArg some (merged_of_distinct back (readable back same).2)

end CodeMetrics.Json
