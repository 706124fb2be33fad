/-! The shortest decimal that reads back as a given double, and how it is laid out: with a point at its
place, or with an exponent. All arithmetic is on natural numbers and exact. -/
namespace Pretext.Decimal

/-- A positive number in scientific notation: `digits` as a number whose point stands so that the
value is `0.digits * 10 ^ point`. -/
structure Scientific where
  digits : Nat
  point : Int
deriving DecidableEq

/-- A positive finite double is `mantissa * 2 ^ exponent`. -/
structure Binary where
  mantissa : Nat
  exponent : Int
deriving DecidableEq

/-- The highest bit of the mantissa of a normal double, which is not stored. It is 2 to the power of
52, the number of the bits that are. -/
def hiddenBit : Nat := 4503599627370496

/-- Take the bits of a double, whose sign is ignored, apart. Below the smallest normal double the
mantissa has fewer bits and the exponent stays. -/
def Binary.ofBits (bits : UInt64) : Binary :=
  let fraction := bits.toNat % hiddenBit
  let field : Nat := bits.toNat / hiddenBit % 2048
  if field = 0 then ⟨fraction, -1074⟩ else ⟨hiddenBit + fraction, (field : Int) - 1075⟩

/-- A fraction of natural numbers that is multiplied by a power of two and a power of ten, either
of which may be negative. -/
def scaleUp (number : Nat) (twos tens : Int) : Nat × Nat :=
  (number * Nat.pow 2 twos.toNat * Nat.pow 10 tens.toNat,
    Nat.pow 2 (-twos).toNat * Nat.pow 10 (-tens).toNat)

/-- The neighbours of a double round to other values. Those between `low` and `high` quarters of
the last binary place round to it, the ends included if its mantissa is even. Below a power of two
the doubles lie twice as close. -/
structure Interval where
  low : Nat
  value : Nat
  high : Nat
  closed : Bool

/-- The decimals that read back as a double, in quarters of its last binary place. -/
def Binary.interval (b : Binary) : Interval :=
  let below := if b.mantissa = hiddenBit ∧ -1074 < b.exponent then 1 else 2
  ⟨4 * b.mantissa - below, 4 * b.mantissa, 4 * b.mantissa + 2, b.mantissa % 2 = 0⟩

/-- Where the decimal point of a positive double stands: the value lies between
`10 ^ (point - 1)` and `10 ^ point`, the latter excluded. -/
def Binary.point (b : Binary) : Int :=
  let (num, den) := scaleUp b.mantissa b.exponent 330
  (Nat.toDigits 10 (num / den)).length - 330

/-- A decimal of `count` digits. A number with one digit more is a power of ten, which one digit
can write. -/
def Scientific.ofDigits (count digits : Nat) (point : Int) : Scientific :=
  if digits = Nat.pow 10 count then ⟨1, point + 1⟩ else ⟨digits, point⟩

/-- Which of two decimals is taken that are equally near. -/
inductive Tie where
  | upper
  | even
deriving DecidableEq

/-- The digits next to a fraction, first the nearer and then the other one. -/
def neighbours (tie : Tie) (value den : Nat) : Nat × Nat :=
  let lower := value / den
  let twice := 2 * (value % den)
  if twice < den ∨ (twice = den ∧ tie = .even ∧ lower % 2 = 0) then (lower, lower + 1)
  else (lower + 1, lower)

/-- The decimal with `count` digits that is nearest to a double, if it reads back as that double.
Two decimals with that many digits surround the double. Where the double lies in its interval is
not always the middle, so that the other of them may read back alone. -/
def Binary.withDigits? (b : Binary) (tie : Tie) (count : Nat) : Option Scientific :=
  let point := b.point
  let interval := b.interval
  let unit (quarters : Nat) := scaleUp quarters (b.exponent - 2) (count - point)
  let (value, den) := unit interval.value
  let reads (candidate : Nat) : Bool :=
    if interval.closed then
      (unit interval.low).1 ≤ candidate * den ∧ candidate * den ≤ (unit interval.high).1
    else (unit interval.low).1 < candidate * den ∧ candidate * den < (unit interval.high).1
  let (nearest, other) := neighbours tie value den
  if reads nearest then some (.ofDigits count nearest point)
  else if reads other then some (.ofDigits count other point)
  else none

/-- Try ever more digits. -/
def Binary.shortestFrom (b : Binary) (tie : Tie) : Nat → Nat → Scientific
  | 0, count => ⟨0, count⟩
  | fuel + 1, count =>
    match b.withDigits? tie count with
    | some found => found
    | none => b.shortestFrom tie fuel (count + 1)

/-- The shortest decimal that reads back as a positive double, and the nearest of those. Seventeen
digits are enough for every double. -/
def Binary.shortest (b : Binary) (tie : Tie) : Scientific :=
  b.shortestFrom tie 17 1

/-- The decisions that distinguish the ways of writing a double. -/
structure Layout where
  /-- Positional notation is kept while the point stands right of this place, if there is one. -/
  leftmost : Option Int
  /-- Positional notation is kept while the point stands at this place or left of it. -/
  rightmost : Option Int
  /-- What follows the digits of a whole number in positional notation. -/
  whole : String
  /-- Which digits are taken if two shortest decimals are equally near. -/
  tie : Tie

/-- Plain text: never an exponent, and nothing after a whole number. -/
def Layout.plain : Layout := ⟨none, none, "", .upper⟩

/-- Text that shows a double to be one: whole numbers end in `.0`, numbers below 0.0001 and from
10000000000000000 on have an exponent. -/
def Layout.explicit : Layout := ⟨some (-4), some 16, ".0", .upper⟩

/-- The numbers of a document: like `explicit`, but with one more place before an exponent is used
for a small number, and with even digits where there is a choice. -/
def Layout.document : Layout := ⟨some (-5), some 16, ".0", .even⟩

/-- Whether a number whose point stands at `point` is written without an exponent. -/
def Layout.isPositional (layout : Layout) (point : Int) : Bool :=
  layout.leftmost.all (· < point) && layout.rightmost.all (point ≤ ·)

private def zeros (count : Nat) : List Char := List.replicate count '0'

/-- The digits with the point at its place. -/
def Layout.positional (layout : Layout) (digits : List Char) (point : Int) : String :=
  if point ≤ 0 then
    "0." ++ String.ofList (zeros (-point).toNat ++ digits)
  else if digits.length ≤ point.toNat then
    String.ofList (digits ++ zeros (point.toNat - digits.length)) ++ layout.whole
  else
    String.ofList (digits.take point.toNat) ++ "." ++ String.ofList (digits.drop point.toNat)

/-- The digits with the point after the first, and the power of ten. -/
def exponential (digits : List Char) (point : Int) : String :=
  let lead := String.ofList (digits.take 1)
  let rest := digits.drop 1
  lead ++ (if rest.isEmpty then "" else "." ++ String.ofList rest) ++ "e" ++ toString (point - 1)

/-- Write a positive decimal. -/
def Layout.write (layout : Layout) (s : Scientific) : String :=
  let digits := Nat.toDigits 10 s.digits
  if layout.isPositional s.point then layout.positional digits s.point
  else exponential digits s.point

/-- Write a double. Zero keeps its sign. -/
def Layout.float (layout : Layout) (x : Float) : String :=
  let bits := x.toBits
  if x.isNaN then "NaN"
  else
    let sign := if bits < 0x8000000000000000 then "" else "-"
    if x.isInf then sign ++ "inf"
    else if bits % 0x8000000000000000 = 0 then sign ++ "0" ++ layout.whole
    else sign ++ layout.write ((Binary.ofBits bits).shortest layout.tie)

end Pretext.Decimal
