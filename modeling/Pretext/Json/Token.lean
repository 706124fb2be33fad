import Pretext.Json.Numeral

/-! The tokens of a document. -/
namespace Pretext.Json

/-- A token. A text may spell halves of characters without the other half, and has no characters
then. What is no token at all becomes `invalid`, which no document has a place for. -/
inductive Token where
  | openArray
  | closeArray
  | openObject
  | closeObject
  | comma
  | colon
  | null
  | bool (value : Bool)
  | number (numeral : Numeral)
  | text (chars : Option String)
  | invalid
deriving DecidableEq

/-- What is being read when a character comes. What has been read of it is kept backwards. A text is
kept as codes, among which may be halves of characters. -/
inductive Pending where
  | nothing
  | letters (read : List Char)
  | numeral (read : List Char)
  | text (read : List Nat)
  | escape (read : List Nat)
  | code (read : List Nat) (digits : Nat) (value : Nat)

/-- The first half of a character beyond the first 65536. -/
def isHighHalf (code : Nat) : Bool := 0xD800 ≤ code && code < 0xDC00

/-- The second half of a character beyond the first 65536. -/
def isLowHalf (code : Nat) : Bool := 0xDC00 ≤ code && code < 0xE000

/-- The characters of a text, if no half is without the other. -/
def joinHalves : List Nat → Option (List Char)
  | [] => some []
  | [code] => if isHighHalf code || isLowHalf code then none else some [Char.ofNat code]
  | first :: second :: rest =>
    if isHighHalf first then
      if isLowHalf second then
        (joinHalves rest).map
          (Char.ofNat (0x10000 + (first - 0xD800) * 0x400 + (second - 0xDC00)) :: ·)
      else none
    else if isLowHalf first then none
    else (joinHalves (second :: rest)).map (Char.ofNat first :: ·)

/-- A word of letters. -/
def wordToken (letters : List Char) : Token :=
  if letters = ['n', 'u', 'l', 'l'] then .null
  else if letters = ['t', 'r', 'u', 'e'] then .bool true
  else if letters = ['f', 'a', 'l', 's', 'e'] then .bool false
  else .invalid

/-- A run of the characters of numerals. -/
def numeralToken (chars : List Char) : Token :=
  match Numeral.ofChars? chars with
  | some numeral => .number numeral
  | none => .invalid

/-- A text with some codes. -/
def textToken (codes : List Nat) : Token :=
  .text ((joinHalves codes).map String.ofList)

/-- What a character begins, with the token that it is by itself. -/
def beginToken (c : Char) : List Token × Pending :=
  if c = ' ' ∨ c = '\t' ∨ c = '\n' ∨ c = '\r' then ([], .nothing)
  else if c = '[' then ([.openArray], .nothing)
  else if c = ']' then ([.closeArray], .nothing)
  else if c = '\x7b' then ([.openObject], .nothing)
  else if c = '\x7d' then ([.closeObject], .nothing)
  else if c = ',' then ([.comma], .nothing)
  else if c = ':' then ([.colon], .nothing)
  else if c = '"' then ([], .text [])
  else if isNumeralChar c && c != 'e' && c != 'E' then ([], .numeral [c])
  else if c.isAlpha then ([], .letters [c])
  else ([.invalid], .nothing)

/-- The value of a hexadecimal digit, in either case. -/
def hexValue? (c : Char) : Option Nat :=
  if c.isDigit then some (digit c)
  else if 'a' ≤ c ∧ c ≤ 'f' then some (c.toNat - 'a'.toNat + 10)
  else if 'A' ≤ c ∧ c ≤ 'F' then some (c.toNat - 'A'.toNat + 10)
  else none

/-- The code that a letter spells behind a backslash. -/
def escapeCode? (c : Char) : Option Nat :=
  if c = '"' ∨ c = '\\' ∨ c = '/' then some c.toNat
  else if c = 'b' then some 8
  else if c = 'f' then some 12
  else if c = 'n' then some 10
  else if c = 'r' then some 13
  else if c = 't' then some 9
  else none

/-- Read a character: the tokens that are complete now, and what is being read next. -/
def Pending.step (pending : Pending) (c : Char) : List Token × Pending :=
  match pending with
  | .nothing => beginToken c
  | .letters read =>
    if c.isAlpha then ([], .letters (c :: read))
    else
      let (tokens, next) := beginToken c
      (wordToken read.reverse :: tokens, next)
  | .numeral read =>
    if isNumeralChar c then ([], .numeral (c :: read))
    else
      let (tokens, next) := beginToken c
      (numeralToken read.reverse :: tokens, next)
  | .text read =>
    if c = '"' then ([textToken read.reverse], .nothing)
    else if c = '\\' then ([], .escape read)
    else if c.toNat < 0x20 then ([.invalid], .nothing)
    else ([], .text (c.toNat :: read))
  | .escape read =>
    if c = 'u' then ([], .code read 0 0)
    else match escapeCode? c with
      | some spelled => ([], .text (spelled :: read))
      | none => ([.invalid], .nothing)
  | .code read digits value =>
    match hexValue? c with
    | none => ([.invalid], .nothing)
    | some digit =>
      let value := value * 16 + digit
      if digits = 3 then ([], .text (value :: read)) else ([], .code read (digits + 1) value)

/-- The token that is complete because nothing follows. A text needs its closing quote. -/
def Pending.close : Pending → List Token
  | .nothing => []
  | .letters read => [wordToken read.reverse]
  | .numeral read => [numeralToken read.reverse]
  | _ => [.invalid]

/-- The tokens of the rest of a document. -/
def scanFrom (pending : Pending) : List Char → List Token
  | [] => pending.close
  | c :: rest => (pending.step c).1 ++ scanFrom (pending.step c).2 rest

/-- The tokens of a document. -/
def scan (text : String) : List Token :=
  scanFrom .nothing text.toList

end Pretext.Json
