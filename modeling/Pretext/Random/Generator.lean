/-! A reproducible source of 64-bit words. Every row of a collection has a generator of its own,
derived from the seed of the collection and the number of the row, so that rows can be built in
any order. -/
namespace Pretext

/-- A SplitMix generator. The state is all there is to it: generators in equal states draw equal
words for ever. -/
structure Generator where
  state : UInt64
deriving DecidableEq

namespace Generator

/-- What the state grows by with every word: the fractional part of the golden ratio, made odd. -/
def increment : UInt64 := 0x9E3779B97F4A7C15

/-- Spread every bit of a word over the whole word. -/
def scramble (word : UInt64) : UInt64 :=
  let word := (word ^^^ (word >>> 30)) * 0xBF58476D1CE4E5B9
  let word := (word ^^^ (word >>> 27)) * 0x94D049BB133111EB
  word ^^^ (word >>> 31)

/-- Draw one word. -/
def next (g : Generator) : UInt64 × Generator :=
  let state := g.state + increment
  (scramble state, ⟨state⟩)

/-- The generator of one row. The seed is scrambled before the row joins in: otherwise the rows of
one seed would be the rows of the next seed, shifted by one. -/
def ofRow (seed row : UInt64) : Generator :=
  ⟨scramble (seed + 0x5EEDB10C) ^^^ row⟩

/-- The generator after `count` words. -/
def skip (g : Generator) : Nat → Generator
  | 0 => g
  | count + 1 => g.next.2.skip count

/-- The next `count` words, in the order in which they are drawn. -/
def words (g : Generator) : Nat → List UInt64
  | 0 => []
  | count + 1 => g.next.1 :: g.next.2.words count

@[simp] theorem next_state (g : Generator) : g.next.2.state = g.state + increment := rfl

/-- Each word is scrambled from the state that the draw leads to. -/
@[simp] theorem next_word (g : Generator) : g.next.1 = scramble (g.state + increment) := rfl

@[simp] theorem length_words (g : Generator) (count : Nat) : (g.words count).length = count := by
  induction count generalizing g with
  | zero => rfl
  | succ count ih => simp [words, ih]

end Generator

end Pretext
