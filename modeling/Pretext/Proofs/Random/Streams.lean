import Mathlib.Data.List.Infix
import Mathlib.Tactic.Linarith
import Mathlib.Tactic.LinearCombination
import Mathlib.Tactic.Ring
import Pretext.Proofs.Random.Generator

/-! Rows that have no word in common. All generators grow by the same increment, so that one is ahead of
another by some number of words. The rows of a seed begin close to each other, but the increment leads
far away from where it started, and does not come back near it before billions of words are drawn. -/
namespace Pretext.Generator

section

/- A number of steps along a circle, and how often they lead around it. Two such pairs that are
neighbours, of which one ends past the start and the other short of it, make up all others. -/
variable {many more turns further step circle count times : Int}

/-- Every number of steps with its number of turns is put together from two neighbours. -/
theorem exists_parts (hNeighbours : many * further - more * turns = 1) (count times : Int) :
    ∃ u v, count = u * many + v * more ∧ times = u * turns + v * further := by
  refine ⟨count * further - times * more, times * many - count * turns, ?_, ?_⟩
  · linear_combination (-count) * hNeighbours
  · linear_combination (-times) * hNeighbours

/-- Fewer steps than the one pair has do not end nearer to the start than those of the other do. -/
theorem le_abs_steps (hNeighbours : many * further - more * turns = 1) (hPos : 0 < many)
    (hPast : 0 < many * step - turns * circle) (hShort : more * step - further * circle < 0)
    (hNe : count ≠ 0) (hFew : |count| < more) :
    many * step - turns * circle ≤ |count * step - times * circle| := by
  obtain ⟨u, v, rfl, rfl⟩ := exists_parts hNeighbours count times
  have hEnd : (u * many + v * more) * step - (u * turns + v * further) * circle =
      u * (many * step - turns * circle) + v * (more * step - further * circle) := by ring
  rw [hEnd]
  generalize many * step - turns * circle = past at hPast ⊢
  generalize more * step - further * circle = short at hShort ⊢
  obtain ⟨hLow, hHigh⟩ := abs_lt.mp hFew
  -- Where both pairs have a part in the steps, one is taken backwards, so that both lead the same way.
  rcases lt_trichotomy v 0 with hBack | rfl | hForth
  · have hOther : 0 < u := by
      by_contra hNone
      nlinarith
    exact le_abs.mpr (Or.inl (by nlinarith))
  · rcases lt_trichotomy u 0 with hBack | rfl | hForth
    · exact le_abs.mpr (Or.inr (by nlinarith))
    · simp at hNe
    · exact le_abs.mpr (Or.inl (by nlinarith))
  · have hOther : u < 0 := by
      by_contra hNone
      nlinarith
    exact le_abs.mpr (Or.inr (by nlinarith))

end

variable {seed row other : UInt64} {first second count : Nat}

/-- The increment is so near to a share of the golden ratio that the best fractions for it are those of
consecutive numbers of Fibonacci. -/
theorem le_abs_increments {ahead laps : Int} (hNe : ahead ≠ 0) (hFew : |ahead| < 2971215073) :
    6189034922 ≤ |ahead * increment.toNat - laps * UInt64.size| := by
  have hBound := @le_abs_steps 1134903170 2971215073 701408733 1836311903 increment.toNat UInt64.size
    ahead laps (by decide) (by decide) (by decide) (by decide) hNe hFew
  exact hBound

/-- A row that fits into half a word leaves the upper half of the state as it is. -/
theorem ofRow_state_div (hRow : row.toNat < UInt32.size) :
    (ofRow seed row).state.toNat / UInt32.size = (scramble (seed + 0x5EEDB10C)).toNat / UInt32.size := by
  have hHalf : row.toNat >>> 32 = 0 := Nat.shiftRight_eq_zero _ _ hRow
  show (scramble (seed + 0x5EEDB10C) ^^^ row).toNat / 2 ^ 32 = _ / 2 ^ 32
  rw [UInt64.toNat_xor, ← Nat.shiftRight_eq_div_pow, Nat.shiftRight_xor_distrib, hHalf, Nat.xor_zero,
    Nat.shiftRight_eq_div_pow]

/-- Two such rows begin less than half a word apart. -/
theorem abs_ofRow_sub_lt (hRow : row.toNat < UInt32.size) (hOther : other.toNat < UInt32.size) :
    |((ofRow seed row).state.toNat : Int) - (ofRow seed other).state.toNat| < UInt32.size := by
  have hSame := (@ofRow_state_div seed _ hRow).trans (ofRow_state_div hOther).symm
  rw [UInt32.size] at hSame ⊢
  rw [abs_lt]
  omega

/-- The state after some words, counted from the first state around the circle. -/
theorem skip_state_toNat (g : Generator) (count : Nat) :
    (g.skip count).state.toNat = (g.state.toNat + count * increment.toNat) % UInt64.size := by
  rw [skip_state, UInt64.toNat_add, UInt64.toNat_mul, UInt64.toNat_ofNat', Nat.add_mod_mod,
    Nat.add_mod, Nat.mod_mul_mod, ← Nat.add_mod]

/-- Generators that come to the same state are as far apart as the steps that one is ahead lead. -/
theorem exists_laps_of_skip_eq {g later : Generator} (h : g.skip first = later.skip second) :
    ∃ laps : Int, (later.state.toNat : Int) - g.state.toNat =
      ((first : Int) - second) * increment.toNat - laps * UInt64.size := by
  have hMod : g.state.toNat + first * increment.toNat ≡
      later.state.toNat + second * increment.toNat [MOD UInt64.size] := by
    rw [Nat.ModEq, ← skip_state_toNat, ← skip_state_toNat, h]
  obtain ⟨laps, hLaps⟩ := Nat.modEq_iff_dvd.mp hMod
  push_cast at hLaps
  exact ⟨-laps, by linear_combination hLaps⟩

/-- Rows that fit into half a word draw no word in common, unless one has drawn billions of words more
than the other. -/
theorem next_word_ne_of_rows (hRow : row.toNat < UInt32.size) (hOther : other.toNat < UInt32.size)
    (hNe : row ≠ other) (hFew : |(first : Int) - second| < 2971215073) :
    ((ofRow seed row).skip first).next.1 ≠ ((ofRow seed other).skip second).next.1 := by
  intro hWords
  rw [next_word_inj] at hWords
  obtain ⟨laps, hLaps⟩ := exists_laps_of_skip_eq hWords
  have hNear := @abs_ofRow_sub_lt seed _ _ hOther hRow
  rw [hLaps] at hNear
  have hStep : (first : Int) - second ≠ 0 := by
    intro hZero
    obtain rfl : first = second := by omega
    exact hNe (ofRow_inj_row.mp (skip_inj.mp hWords))
  have hFar := @le_abs_increments _ laps hStep hFew
  rw [UInt32.size] at hNear
  omega

theorem mem_words {g : Generator} {word : UInt64} :
    word ∈ g.words count ↔ ∃ place < count, (g.skip place).next.1 = word := by
  simp [words_eq_map]

/-- The rows of a seed that fit into half a word do not draw a word in common within the first 2 ^ 30,
be it at the same time or not. So no part of what one row draws is a part of what another draws. -/
theorem rows_share_no_word (seed : UInt64) {row other : UInt64} (hRow : row.toNat < UInt32.size)
    (hOther : other.toNat < UInt32.size) (hNe : row ≠ other) :
    (∀ first second : Nat, first < 1073741824 → second < 1073741824 →
      ((ofRow seed row).skip first).next.1 ≠ ((ofRow seed other).skip second).next.1)
    ∧ ∀ part : List UInt64, part ≠ [] → part <:+: (ofRow seed row).words 1073741824 →
      ¬ part <:+: (ofRow seed other).words 1073741824 := by
  have hApart : ∀ first second : Nat, first < 1073741824 → second < 1073741824 →
      ((ofRow seed row).skip first).next.1 ≠ ((ofRow seed other).skip second).next.1 := by
    intro first second hFirst hSecond
    apply next_word_ne_of_rows hRow hOther hNe
    rw [abs_lt]
    omega
  refine ⟨hApart, ?_⟩
  intro part hSome hPart hAlso
  obtain ⟨word, hWord⟩ := List.exists_mem_of_ne_nil part hSome
  obtain ⟨first, hFirst, hDrawn⟩ := mem_words.mp (hPart.subset hWord)
  obtain ⟨second, hSecond, hSame⟩ := mem_words.mp (hAlso.subset hWord)
  exact hApart first second hFirst hSecond (hDrawn.trans hSame.symm)

/-- The next row is no shifted copy, whether it is a little ahead or far behind. -/
theorem rows_share_no_word_neighbours :
    (6 : UInt64).toNat < UInt32.size ∧ (7 : UInt64).toNat < UInt32.size ∧ (6 : UInt64) ≠ 7
      ∧ ((ofRow 42 6).skip 0).next.1 ≠ ((ofRow 42 7).skip 1).next.1
      ∧ ((ofRow 42 6).skip 1000000000).next.1 ≠ ((ofRow 42 7).skip 5).next.1 := by
  have hFirst : (6 : UInt64).toNat < UInt32.size := by decide
  have hSecond : (7 : UInt64).toNat < UInt32.size := by decide
  have hNe : (6 : UInt64) ≠ 7 := by decide
  obtain ⟨hApart, -⟩ := rows_share_no_word 42 hFirst hSecond hNe
  exact ⟨hFirst, hSecond, hNe, hApart 0 1 (by decide) (by decide),
    hApart 1000000000 5 (by decide) (by decide)⟩

end Pretext.Generator
