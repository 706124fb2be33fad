/-! Text from bytes, and text for a search query. Bytes that are not well-formed are kept apart, so that a
reader may refuse them or show a replacement. In a query the characters with a meaning to the search are
preceded by a backslash, and no other backslash is left. -/
namespace Pretext.Text

namespace Utf8

/-- A character of which `missing` bytes are still to come. `value` holds the bits of those that
came, and the next byte must be within `low` and `high`. -/
structure Pending where
  missing : Nat
  value : Nat
  low : UInt8
  high : UInt8

/-- What the first byte of a character says. -/
inductive Lead where
  | alone (c : Char)
  | more (pending : Pending)
  | bad

/-- The bounds on the second byte exclude the codes that fewer bytes can write, the surrogates, and
the codes past the last character. -/
def lead (byte : UInt8) : Lead :=
  if byte < 0x80 then .alone (Char.ofNat byte.toNat)
  else if byte < 0xC2 then .bad
  else if byte < 0xE0 then .more ⟨1, byte.toNat % 32, 0x80, 0xBF⟩
  else if byte < 0xF0 then
    .more ⟨2, byte.toNat % 16, if byte = 0xE0 then 0xA0 else 0x80,
      if byte = 0xED then 0x9F else 0xBF⟩
  else if byte < 0xF5 then
    .more ⟨3, byte.toNat % 8, if byte = 0xF0 then 0x90 else 0x80,
      if byte = 0xF4 then 0x8F else 0xBF⟩
  else .bad

/-- Read bytes from the middle of a character or from between two. Each `none` stands for bytes
that begin a character but are cut short, or for a byte that begins none. -/
def readFrom : Option Pending → List UInt8 → List (Option Char)
  | none, [] => []
  | some _, [] => [none]
  | none, byte :: rest =>
    match lead byte with
    | .alone c => some c :: readFrom none rest
    | .more pending => readFrom (some pending) rest
    | .bad => none :: readFrom none rest
  | some pending, byte :: rest =>
    if pending.low ≤ byte ∧ byte ≤ pending.high then
      let value := pending.value * 64 + byte.toNat % 64
      if pending.missing = 1 then some (Char.ofNat value) :: readFrom none rest
      else readFrom (some ⟨pending.missing - 1, value, 0x80, 0xBF⟩) rest
    else
      none :: match lead byte with
        | .alone c => some c :: readFrom none rest
        | .more pending => readFrom (some pending) rest
        | .bad => none :: readFrom none rest

/-- The characters of a text, if all of it is well-formed. -/
def decode? (bytes : List UInt8) : Option (List Char) :=
  (readFrom none bytes).mapM id

/-- The characters of a text, with a replacement character for whatever is not well-formed. -/
def decodeLossy (bytes : List UInt8) : List Char :=
  (readFrom none bytes).map (·.getD (Char.ofNat 0xFFFD))

end Utf8

/-- The characters with a meaning to the search. -/
def reserved : List Char :=
  ['+', '-', '&', '!', '(', ')', '\x7b', '\x7d', '[', ']', '^', '"', '~', '*', '?', ':', '/']

/-- Whether the search gives `c` a meaning. -/
def isReserved (c : Char) : Bool :=
  reserved.contains c

/-- Drop every backslash and put one before every reserved character. -/
def escapeChars : List Char → List Char
  | [] => []
  | c :: rest =>
    if c = '\\' then escapeChars rest
    else if isReserved c then '\\' :: c :: escapeChars rest
    else c :: escapeChars rest

/-- Escape a text. A text that is escaped already stays as it is. -/
def escape (text : String) : String :=
  String.ofList (escapeChars text.toList)

end Pretext.Text
