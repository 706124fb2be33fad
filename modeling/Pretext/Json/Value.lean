import Pretext.Decimal
import Pretext.Json.Token

/-! Documents, and how they are written, without blanks. Whether a number or a text has a value is left
open until somebody asks for it: what nobody asks for only has to be spelled well. -/
namespace Pretext.Json

/-- A document. -/
inductive Value where
  | null
  | bool (value : Bool)
  | number (numeral : Numeral)
  | text (chars : Option String)
  | array (items : List Value)
  | object (members : List (Option String × Value))

mutual

/-- Read a document at the beginning of some tokens. -/
def readValue : Nat → List Token → Option (Value × List Token)
  | 0, _ => none
  | fuel + 1, tokens =>
    match tokens with
    | .null :: rest => some (.null, rest)
    | .bool value :: rest => some (.bool value, rest)
    | .number numeral :: rest => some (.number numeral, rest)
    | .text chars :: rest => some (.text chars, rest)
    | .openArray :: .closeArray :: rest => some (.array [], rest)
    | .openArray :: rest => (readItems fuel rest).map fun (items, rest) => (.array items, rest)
    | .openObject :: .closeObject :: rest => some (.object [], rest)
    | .openObject :: rest =>
      (readMembers fuel rest).map fun (members, rest) => (.object members, rest)
    | _ => none

/-- Read the items of an array up to its end. There is one at least. -/
def readItems : Nat → List Token → Option (List Value × List Token)
  | 0, _ => none
  | fuel + 1, tokens =>
    match readValue fuel tokens with
    | some (item, .closeArray :: rest) => some ([item], rest)
    | some (item, .comma :: rest) =>
      (readItems fuel rest).map fun (items, rest) => (item :: items, rest)
    | _ => none

/-- Read the members of an object up to its end. There is one at least. -/
def readMembers : Nat → List Token → Option (List (Option String × Value) × List Token)
  | 0, _ => none
  | fuel + 1, .text key :: .colon :: tokens =>
    match readValue fuel tokens with
    | some (value, .closeObject :: rest) => some ([(key, value)], rest)
    | some (value, .comma :: rest) =>
      (readMembers fuel rest).map fun (members, rest) => ((key, value) :: members, rest)
    | _ => none
  | _ + 1, _ => none

end

/-- The document at the beginning of a text, and the tokens behind it. Two steps
are enough for each token. -/
def first? (text : String) : Option (Value × List Token) :=
  let tokens := scan text
  readValue (2 * tokens.length + 1) tokens

/-- The document that a text is. -/
def parse? (text : String) : Option Value :=
  match first? text with
  | some (value, []) => some value
  | _ => none

namespace Value

/-- An integer within a range, the upper end excluded. -/
def integerWithin? (low high : Int) : Value → Option Int
  | .number numeral =>
    numeral.integer?.filter fun value => decide (low ≤ value ∧ value < high)
  | _ => none

def uint8? (value : Value) : Option UInt8 :=
  (value.integerWithin? 0 UInt8.size).map fun n => n.toNat.toUInt8

def uint32? (value : Value) : Option UInt32 :=
  (value.integerWithin? 0 UInt32.size).map fun n => n.toNat.toUInt32

def uint64? (value : Value) : Option UInt64 :=
  (value.integerWithin? 0 UInt64.size).map fun n => n.toNat.toUInt64

def int64? (value : Value) : Option Int64 :=
  (value.integerWithin? (-9223372036854775808) 9223372036854775808).map Int64.ofInt

/-- A double. Integers will do. -/
def float? : Value → Option Float
  | .number numeral => numeral.float?
  | _ => none

def bool? : Value → Option Bool
  | .bool value => some value
  | _ => none

def string? : Value → Option String
  | .text chars => chars
  | _ => none

/-- The items of an array, all of which have to be of one kind. -/
def list? {α : Type} (item? : Value → Option α) : Value → Option (List α)
  | .array items => items.mapM item?
  | _ => none

/-- Something that may be missing, which is said with `null`. -/
def option? {α : Type} (some? : Value → Option α) : Value → Option (Option α)
  | .null => some none
  | value => (some? value).map some

/-- The value of a member, if there is one. A repeated member is refused. -/
def member? (members : List (Option String × Value)) (name : String) : Option (Option Value) :=
  match members.filter fun member => member.1 == some name with
  | [] => some none
  | [member] => some (some member.2)
  | _ => none

/-- The values of the fields of a record, each of which may be missing. An object may have other
members, whatever they are, as long as their names are texts. An array has the values in the order
of the fields, without names, and may not have more. -/
def fields? (names : List String) : Value → Option (List (Option Value))
  | .array items =>
    if items.length ≤ names.length then
      some (items.map some ++ List.replicate (names.length - items.length) none)
    else none
  | .object members =>
    if members.all fun member => member.1.isSome then names.mapM (member? members) else none
  | _ => none

end Value

/-- A field that must be there. -/
def required {α : Type} (field : Option Value) (read? : Value → Option α) : Option α :=
  field.bind read?

/-- A field with a default. -/
def defaulted {α : Type} (field : Option Value) (default : α) (read? : Value → Option α) :
    Option α :=
  match field with
  | none => some default
  | some value => read? value

/-- The digits of the hexadecimal system, small letters included. -/
def hexChar (value : Nat) : Char :=
  Nat.digitChar (value % 16)

/-- A character inside quotes. Only quotes, backslashes and control characters need an escape. -/
def escapeChar (c : Char) : List Char :=
  if c = '"' then ['\\', '"']
  else if c = '\\' then ['\\', '\\']
  else if c.toNat = 8 then ['\\', 'b']
  else if c.toNat = 9 then ['\\', 't']
  else if c.toNat = 10 then ['\\', 'n']
  else if c.toNat = 12 then ['\\', 'f']
  else if c.toNat = 13 then ['\\', 'r']
  else if c.toNat < 0x20 then
    ['\\', 'u', '0', '0', hexChar (c.toNat / 16), hexChar c.toNat]
  else [c]

/-- A text in quotes. -/
def quote (text : String) : String :=
  "\"" ++ String.ofList (text.toList.flatMap escapeChar) ++ "\""

/-- Documents with commas between them. -/
def separated : List String → String
  | [] => ""
  | [item] => item
  | item :: rest => item ++ "," ++ separated rest

/-- An array of documents. -/
def array (items : List String) : String :=
  "[" ++ separated items ++ "]"

/-- An object of members, whose names need no escape. -/
def object (members : List (String × String)) : String :=
  "\x7b" ++ separated (members.map fun member => "\"" ++ member.1 ++ "\":" ++ member.2) ++ "\x7d"

/-- A double. What is no number at all, or infinite, has no spelling. -/
def float (x : Float) : String :=
  if x.isFinite then Decimal.Layout.document.float x else "null"

/-- Something that may be missing. -/
def option {α : Type} (write : α → String) : Option α → String
  | none => "null"
  | some value => write value

end Pretext.Json
