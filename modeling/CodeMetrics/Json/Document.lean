import CodeMetrics.Json.Token
/-!
From tokens to a document. The reader keeps what is open around the place it has reached, innermost
first, and takes one token at a time. A key that comes again keeps its place and takes the later
value. No more than 127 arrays and objects may be open at once.
-/
namespace CodeMetrics.Json

/-- An array with the items read so far, last first, or an object whose member `key` is due. -/
inductive Pending where
  | array (items : List Json)
  | member (members : List (String × Json)) (key : String)

/-- What may come next, inside the open arrays and objects. -/
inductive Expected where
  | value (outer : List Pending)
  | firstItem (outer : List Pending)
  | firstKey (outer : List Pending)
  | key (members : List (String × Json)) (outer : List Pending)
  | colon (members : List (String × Json)) (key : String) (outer : List Pending)
  | after (value : Json) (outer : List Pending)

def nestingLimit : Nat := 127

def openInside (outer : List Pending) (next : Expected) : Option Expected :=
  if outer.length < nestingLimit then some next else none

def takeValue (outer : List Pending) : Token → Option Expected
  | .null => some (.after .null outer)
  | .bool value => some (.after (.bool value) outer)
  | .number value => some (.after (.number value) outer)
  | .string value => some (.after (.string value) outer)
  | .openArray => openInside outer (.firstItem outer)
  | .openObject => openInside outer (.firstKey outer)
  | _ => none

def takeToken : Expected → Token → Option Expected
  | .value outer, token => takeValue outer token
  | .firstItem outer, .closeArray => some (.after (.array []) outer)
  | .firstItem outer, token => takeValue (.array [] :: outer) token
  | .firstKey outer, .closeObject => some (.after (.object []) outer)
  | .firstKey outer, .string key => some (.colon [] key outer)
  | .key members outer, .string key => some (.colon members key outer)
  | .colon members key outer, .colon => some (.value (.member members key :: outer))
  | .after value (.array items :: outer), .comma => some (.value (.array (value :: items) :: outer))
  | .after value (.array items :: outer), .closeArray =>
    some (.after (.array (value :: items).reverse) outer)
  | .after value (.member members key :: outer), .comma =>
    some (.key (putEntry key value members) outer)
  | .after value (.member members key :: outer), .closeObject =>
    some (.after (.object (putEntry key value members)) outer)
  | _, _ => none

def takeTokens : Expected → List Token → Option Expected
  | expected, [] => some expected
  | expected, token :: rest => (takeToken expected token).bind fun next => takeTokens next rest

def ofTokens? (tokens : List Token) : Option Json :=
  match takeTokens (.value []) tokens with
  | some (.after value []) => some value
  | _ => none

def read? (text : String) : Option Json := (tokens? text.toList).bind ofTokens?

/-- A file's content, when it is text at all. -/
def readBytes? (bytes : ByteArray) : Option Json := (String.fromUTF8? bytes).bind read?

end CodeMetrics.Json
