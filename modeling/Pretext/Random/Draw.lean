import Pretext.Random.Generator

/-! What is drawn besides whole words: numbers below a bound, fractions, bytes, elements, and a random
order of a list. Every draw returns the generator that the next draw starts from. -/
namespace Pretext

namespace Generator

/-- The low half of the next word. -/
def half (g : Generator) : Nat × Generator :=
  (g.next.1.toNat % UInt32.size, g.next.2)

/-- The next word as a number. -/
def whole (g : Generator) : Nat × Generator :=
  (g.next.1.toNat, g.next.2)

/-- Scale a draw from `0, …, range - 1` down to `0, …, bound - 1`: the product of draw and bound is
cut at a multiple of `range`. What is cut off decides whether a second draw is made, whose product
may carry one into the first. No draw is ever rejected, so the result is not exactly uniform, but
the second draw makes the deviation too small to be observed. -/
def scaled (range bound : Nat) (draw : Generator → Nat × Generator) (g : Generator) :
    Nat × Generator :=
  let (first, g) := draw g
  let high := first * bound / range
  let low := first * bound % range
  if low ≤ range - bound then (high, g)
  else
    let (second, g) := draw g
    (if range ≤ low + second * bound / range then high + 1 else high, g)

/-- A number below `bound`. Half a word is enough for a bound that fits into it. -/
def below (bound : Nat) (g : Generator) : Nat × Generator :=
  if bound < UInt32.size then scaled UInt32.size bound half g
  else scaled UInt64.size bound whole g

/-- A fraction from 0 up to, but not including, 1: the upper 53 bits of a word, which a double
holds exactly. -/
def unit (g : Generator) : Float × Generator :=
  let (word, g) := g.next
  ((word >>> 11).toFloat / 9007199254740992, g)

/-- One of the elements. Nothing is drawn if there are none. -/
def choose {α : Type} (elements : List α) (g : Generator) : Option α × Generator :=
  if elements.isEmpty then (none, g)
  else
    let (index, g) := g.below elements.length
    (elements[index]?, g)

/-- The bytes of a word, the lowest first. -/
def littleEndian (word : UInt64) : List UInt8 :=
  [word.toUInt8, (word >>> 8).toUInt8, (word >>> 16).toUInt8, (word >>> 24).toUInt8,
    (word >>> 32).toUInt8, (word >>> 40).toUInt8, (word >>> 48).toUInt8, (word >>> 56).toUInt8]

@[simp] theorem length_littleEndian (word : UInt64) : (littleEndian word).length = 8 := rfl

/-- Write bytes over what stands in a buffer from a place on. There has to be room for all of them. -/
def overwrite {size : Nat} (buffer : Vector UInt8 size) (place : Nat) :
    (bytes : List UInt8) → place + bytes.length ≤ size → Vector UInt8 size
  | [], _ => buffer
  | byte :: rest, hRoom =>
    overwrite (buffer.set place byte (by rw [List.length_cons] at hRoom; omega)) (place + 1) rest
      (by rw [List.length_cons] at hRoom; omega)

/-- Fill a buffer from a place on, with eight bytes from each word. What there is no room for is lost:
the bytes after these begin with a new word. -/
def fillFrom {size : Nat} (g : Generator) (buffer : Vector UInt8 size) (place : Nat) :
    Vector UInt8 size × Generator :=
  if hPlace : place < size then
    let chunk := (littleEndian g.next.1).take (size - place)
    g.next.2.fillFrom (overwrite buffer place chunk (by rw [List.length_take]; omega))
      (place + chunk.length)
  else (buffer, g)
termination_by size - place
decreasing_by rw [List.length_take, length_littleEndian]; omega

/-- Fill a buffer, whatever stands in it. -/
def fill {size : Nat} (g : Generator) (buffer : Vector UInt8 size) : Vector UInt8 size × Generator :=
  g.fillFrom buffer 0

/-- A number of bytes, filled into a buffer of zeros. -/
def bytes (count : Nat) (g : Generator) : List UInt8 × Generator :=
  let (buffer, g) := g.fill (Vector.replicate count 0)
  (buffer.toList, g)

/-- What was before the bytes and what is behind them stays as it is. -/
theorem toList_overwrite {size : Nat} (buffer : Vector UInt8 size) (place : Nat) (bytes : List UInt8)
    (hRoom : place + bytes.length ≤ size) :
    (overwrite buffer place bytes hRoom).toList =
      buffer.toList.take place ++ bytes ++ buffer.toList.drop (place + bytes.length) := by
  induction bytes generalizing buffer place with
  | nil => simp [overwrite]
  | cons byte rest ih =>
    rw [List.length_cons] at hRoom
    have hPlace : place < buffer.toList.length := by
      rw [Vector.length_toList]
      omega
    rw [overwrite, ih, Vector.toList_set, List.take_add_one, List.take_set_of_le (Nat.le_refl _),
      List.getElem?_set_self hPlace, List.drop_set_of_lt (by omega), List.length_cons,
      Nat.add_right_comm place 1]
    simp [Nat.add_assoc]

private theorem scaled_high_lt {range bound first : Nat} (hBound : 0 < bound)
    (hFirst : first < range) : first * bound / range < bound := by
  rw [Nat.div_lt_iff_lt_mul (by omega)]
  rw [Nat.mul_comm bound range]
  exact Nat.mul_lt_mul_of_pos_right hFirst hBound

/-- The carry cannot lift the result to the bound: where it could, the first draw is the greatest,
and then so little is cut off that no second draw is made. -/
theorem scaled_lt {range bound : Nat} {draw : Generator → Nat × Generator} (hBound : 0 < bound)
    (hRange : bound ≤ range) (hDraw : ∀ g, (draw g).1 < range) (g : Generator) :
    (scaled range bound draw g).1 < bound := by
  have hHigh := scaled_high_lt hBound (hDraw g)
  simp only [scaled]
  split
  · exact hHigh
  · rename_i hLow
    split
    · rename_i hCarry
      rcases Nat.lt_or_ge ((draw g).1 * bound / range + 1) bound with h | h
      · exact h
      · exfalso
        have hEq : (draw g).1 * bound / range = bound - 1 := by omega
        have hDivMod := Nat.div_add_mod ((draw g).1 * bound) range
        rw [hEq] at hDivMod
        have hLe : (draw g).1 * bound ≤ (range - 1) * bound :=
          Nat.mul_le_mul_right _ (by have := hDraw g; omega)
        rw [Nat.sub_mul, Nat.one_mul] at hLe
        rw [Nat.mul_sub, Nat.mul_one] at hDivMod
        have : range ≤ range * bound := Nat.le_mul_of_pos_right _ hBound
        omega
    · exact hHigh

/-- A number below a bound is below it. -/
theorem below_lt {bound : Nat} (hPos : 0 < bound) (hBound : bound ≤ UInt64.size) (g : Generator) :
    (g.below bound).1 < bound := by
  unfold below
  split
  · rename_i h
    exact scaled_lt hPos (Nat.le_of_lt h) (fun g => Nat.mod_lt _ (by decide)) g
  · exact scaled_lt hPos hBound (fun g => g.next.1.toNat_lt) g

end Generator

/-- How far a shuffle is. One draw serves several places: it is uniform below the product of their
numbers, and each place takes its share by a division with remainder. `pool` is what is left of
the draw, and `ready` tells for how many places. -/
structure Places where
  placed : Nat
  pool : Nat
  ready : Nat

namespace Places

/-- The first element has only one place, which is known without a draw. -/
def start : Places := ⟨0, 0, 1⟩

/-- Extend a product of consecutive numbers, of which `factor` is the next, while it stays below
`2 ^ 32`. Counts the factors. Since every factor is at least 2, there are fewer than 32. -/
def pack : Nat → Nat → Nat → Nat → Nat × Nat
  | 0, product, _, count => (product, count)
  | fuel + 1, product, factor, count =>
    if product * factor < UInt32.size then pack fuel (product * factor) (factor + 1) (count + 1)
    else (product, count)

/-- The place of the next element, which is at most the number of elements before it. -/
def next (places : Places) (g : Generator) : Nat × Places × Generator :=
  let number := places.placed + 1
  let (pool, ready, g) :=
    if places.ready = 0 then
      let (product, count) := pack 32 number (number + 1) 1
      let (pool, g) := g.below product
      (pool, count, g)
    else (places.pool, places.ready, g)
  if ready = 1 then (pool, ⟨number, pool, 0⟩, g)
  else (pool % number, ⟨number, pool / number, ready - 1⟩, g)

end Places

/-- Put `x` at place `index`, and what stood there at the end. -/
def placeAt {α : Type} (placed : Array α) (index : Nat) (x : α) : Array α :=
  if h : index < placed.size then
    (placed.push placed[index]).set index x (by rw [Array.size_push]; omega)
  else placed.push x

/-- Place the elements of a list behind those that are placed already. -/
def shuffleOnto {α : Type} (placed : Array α) (places : Places) (g : Generator) :
    List α → Array α × Generator
  | [] => (placed, g)
  | x :: rest =>
    let (index, places, g) := places.next g
    shuffleOnto (placeAt placed index x) places g rest

/-- A random order of the elements. -/
def shuffle {α : Type} (elements : List α) (g : Generator) : List α × Generator :=
  let (placed, g) := shuffleOnto #[] Places.start g elements
  (placed.toList, g)

end Pretext
