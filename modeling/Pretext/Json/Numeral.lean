/-! Numbers as a document spells them. -/
namespace Pretext.Json

/-- The spelling of a number: a sign, digits, perhaps digits behind a point, perhaps a power of ten
with a sign of its own. -/
structure Numeral where
  negative : Bool
  whole : List Nat
  fraction : Option (List Nat)
  exponent : Option (Bool × List Nat)
deriving DecidableEq

/-- The characters that numerals are made of. -/
def isNumeralChar (c : Char) : Bool :=
  c.isDigit || c == '-' || c == '+' || c == '.' || c == 'e' || c == 'E'

/-- The value of a digit. -/
def digit (c : Char) : Nat := c.toNat - '0'.toNat

/-- The number with some digits, the first of which is the highest. -/
def ofDigits (digits : List Nat) : Nat :=
  digits.foldl (fun value digit => value * 10 + digit) 0

/-- The digits at the beginning of a text, and what follows them. -/
def takeDigits (text : List Char) : List Nat × List Char :=
  ((text.takeWhile Char.isDigit).map digit, text.dropWhile Char.isDigit)

namespace Numeral

/-- A sign, which only a negative number has, and what follows it. -/
def takeSign : List Char → Bool × List Char
  | '-' :: rest => (true, rest)
  | text => (false, text)

/-- The digits of a whole number, which begin with a zero only if there are no others. -/
def takeWhole? (text : List Char) : Option (List Nat × List Char) :=
  match takeDigits text with
  | ([], _) => none
  | (0 :: _ :: _, _) => none
  | found => some found

/-- The digits behind a point, if there is one. -/
def takeFraction? : List Char → Option (Option (List Nat) × List Char)
  | '.' :: text =>
    match takeDigits text with
    | ([], _) => none
    | (digits, rest) => some (some digits, rest)
  | text => some (none, text)

/-- The sign of a power of ten. A positive one may have a sign too. -/
def takeExponentSign : List Char → Bool × List Char
  | '-' :: rest => (true, rest)
  | '+' :: rest => (false, rest)
  | text => (false, text)

/-- A power of ten, if there is one. -/
def takeExponent? (text : List Char) : Option (Option (Bool × List Nat) × List Char) :=
  match text with
  | [] => some (none, [])
  | c :: rest =>
    if c = 'e' ∨ c = 'E' then
      let (negative, rest) := takeExponentSign rest
      match takeDigits rest with
      | ([], _) => none
      | (digits, rest) => some (some (negative, digits), rest)
    else some (none, text)

/-- Read a numeral. All of the text must belong to it. -/
def ofChars? (text : List Char) : Option Numeral := do
  let (negative, text) := takeSign text
  let (whole, text) ← takeWhole? text
  let (fraction, text) ← takeFraction? text
  let (exponent, text) ← takeExponent? text
  if text.isEmpty then some ⟨negative, whole, fraction, exponent⟩ else none

/-- The integer that is meant. A point or a power of ten never spells one, even if the value is
whole, and neither does a negative zero. -/
def integer? (numeral : Numeral) : Option Int :=
  if numeral.fraction.isSome || numeral.exponent.isSome then none
  else
    let magnitude := ofDigits numeral.whole
    if numeral.negative then
      if magnitude = 0 then none else some (-(magnitude : Int))
    else some magnitude

/-- Read the digits before the point into 64 bits. Counts the digits for which there was no room. -/
def gatherWhole (value : Nat) : List Nat → Nat × Nat
  | [] => (value, 0)
  | digit :: rest =>
    if value * 10 + digit < UInt64.size then gatherWhole (value * 10 + digit) rest
    else (value, rest.length + 1)

/-- Read the digits behind the point into what room is left, and count them. -/
def gatherFraction (value count : Nat) : List Nat → Nat × Nat
  | [] => (value, count)
  | digit :: rest =>
    if value * 10 + digit < UInt64.size then gatherFraction (value * 10 + digit) (count + 1) rest
    else (value, count)

/-- The double nearest to a power of ten. -/
def powerOfTen (exponent : Nat) : Float :=
  Float.ofScientific 1 false exponent

/-- Divide by a power of ten, in steps if there is no such double. -/
def scaleDown (x : Float) (exponent : Nat) : Float :=
  if exponent ≤ 308 then x / powerOfTen exponent
  else if x == 0.0 then x
  else scaleDown (x / powerOfTen 308) (exponent - 308)
termination_by exponent

/-- Multiply with a power of ten. What is beyond all doubles is refused. -/
def scaleUp? (x : Float) (exponent : Nat) : Option Float :=
  if x == 0.0 then some x
  else if 308 < exponent then none
  else
    let scaled := x * powerOfTen exponent
    if scaled.isInf then none else some scaled

/-- The double that is meant. The leading digits, as far as 64 bits hold them, are rounded to a
double, which is scaled by a power of ten and rounded again. This can miss the nearest double by
one place. -/
def float? (numeral : Numeral) : Option Float := do
  let (value, dropped) := gatherWhole 0 numeral.whole
  let (value, count) := gatherFraction value 0 (numeral.fraction.getD [])
  let power : Int := match numeral.exponent with
    | none => 0
    | some (negative, digits) => if negative then -(ofDigits digits : Int) else ofDigits digits
  let exponent := (dropped : Int) - count + power
  let x := value.toUInt64.toFloat
  let magnitude ←
    if 0 ≤ exponent then scaleUp? x exponent.toNat else some (scaleDown x (-exponent).toNat)
  return if numeral.negative then -magnitude else magnitude

end Numeral

end Pretext.Json
