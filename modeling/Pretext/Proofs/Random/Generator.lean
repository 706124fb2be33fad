import Mathlib.Data.List.Nodup
import Mathlib.Data.Nat.ModEq
import Mathlib.Data.Nat.Prime.Basic
import Pretext.Random.Generator

/-! Words that are drawn apart. Scrambling loses nothing, so that generators draw the same word only in
the same state, and a state comes back only after all others. -/
namespace Pretext.Generator

variable {g other : Generator} {amount factor seed row : UInt64} {first second count : Nat}

/-- Nothing but zero is its own shift. -/
private theorem eq_zero_of_shiftRight_eq {word : UInt64} (hAmount : 0 < amount.toNat % 64)
    (h : word >>> amount = word) : word = 0 := by
  have hDiv : word.toNat / 2 ^ (amount.toNat % 64) = word.toNat := by
    rw [← Nat.shiftRight_eq_div_pow, ← UInt64.toNat_shiftRight, h]
  rcases Nat.eq_zero_or_pos word.toNat with hZero | hPos
  · exact UInt64.toNat_inj.mp hZero
  · have hLt := Nat.div_lt_self hPos (Nat.one_lt_two_pow hAmount.ne')
    omega

/-- A word can be told from what its upper bits make of its lower ones: where two words agree in that,
their difference is its own shift. -/
theorem xor_shiftRight_injective (hAmount : 0 < amount.toNat % 64) :
    Function.Injective fun word : UInt64 => word ^^^ (word >>> amount) := by
  intro word other h
  have hShift : (word ^^^ other) >>> amount = word ^^^ other := by
    dsimp only at h
    rw [← UInt64.xor_eq_zero_iff] at h
    rw [UInt64.shiftRight_xor, ← UInt64.xor_eq_zero_iff, ← h]
    ac_rfl
  exact UInt64.xor_eq_zero_iff.mp (eq_zero_of_shiftRight_eq hAmount hShift)

/-- An odd factor has no part in common with the number of words. -/
theorem mul_injective_of_odd (hOdd : factor.toNat % 2 = 1) :
    Function.Injective fun word : UInt64 => word * factor := by
  intro word other h
  have hCoprime : Nat.Coprime (2 ^ 64) factor.toNat :=
    Nat.Coprime.pow_left 64 (Nat.coprime_two_left.mpr (Nat.odd_iff.mpr hOdd))
  have hMod : word.toNat * factor.toNat ≡ other.toNat * factor.toNat [MOD 2 ^ 64] := by
    have hNat := congrArg UInt64.toNat h
    rwa [UInt64.toNat_mul, UInt64.toNat_mul] at hNat
  have hEq := (Nat.ModEq.cancel_right_of_coprime hCoprime hMod).eq_of_lt_of_lt word.toNat_lt other.toNat_lt
  exact UInt64.toNat_inj.mp hEq

/-- Scrambling loses nothing: each of its steps can be undone. -/
theorem scramble_injective : Function.Injective scramble := by
  intro word other h
  have hThird := @xor_shiftRight_injective 31 (by decide) _ _ h
  have hSecond := @xor_shiftRight_injective 27 (by decide) _ _ (mul_injective_of_odd (by decide) hThird)
  exact @xor_shiftRight_injective 30 (by decide) _ _ (mul_injective_of_odd (by decide) hSecond)

theorem state_inj : g.state = other.state ↔ g = other := by
  cases g
  cases other
  rw [mk.injEq]

/-- Equal words come from equal states. -/
theorem next_word_inj : g.next.1 = other.next.1 ↔ g = other := by
  rw [next_word, next_word, scramble_injective.eq_iff, UInt64.add_left_inj, state_inj]

@[simp] theorem skip_zero (g : Generator) : g.skip 0 = g := rfl

theorem skip_succ (g : Generator) (count : Nat) : g.skip (count + 1) = g.next.2.skip count := by
  -- Its equation one by one, or `rfl`, would have the words evaluated on the way.
  rw [skip.eq_def]

theorem skip_add (g : Generator) (first second : Nat) :
    g.skip (first + second) = (g.skip first).skip second := by
  induction first generalizing g with
  | zero => rw [Nat.zero_add, skip_zero]
  | succ first ih => rw [Nat.add_right_comm, skip_succ, ih, skip_succ]

theorem words_add (g : Generator) (first second : Nat) :
    g.words (first + second) = g.words first ++ (g.skip first).words second := by
  induction first generalizing g with
  | zero => rw [Nat.zero_add, skip_zero, words, List.nil_append]
  | succ first ih => rw [Nat.add_right_comm, words, words, ih, skip_succ, List.cons_append]

/-- Every word moves the state on by the same increment. -/
theorem skip_state (g : Generator) (count : Nat) :
    (g.skip count).state = g.state + UInt64.ofNat count * increment := by
  induction count generalizing g with
  | zero => simp
  | succ count ih =>
      rw [skip_succ, ih, next_state, UInt64.ofNat_add, UInt64.add_mul, UInt64.add_assoc,
        UInt64.add_comm (_ * increment)]
      rfl

/-- Generators that differ still do so after as many words. -/
theorem skip_inj : g.skip count = other.skip count ↔ g = other := by
  rw [← state_inj, skip_state, skip_state, UInt64.add_left_inj, state_inj]

/-- Since the increment is odd, a state comes back only after all others. -/
theorem skip_eq_skip_iff : g.skip first = g.skip second ↔ first ≡ second [MOD UInt64.size] := by
  have hStates : g.skip first = g.skip second ↔ UInt64.ofNat first = UInt64.ofNat second := by
    rw [← state_inj, skip_state, skip_state, UInt64.add_right_inj]
    exact (mul_injective_of_odd (by decide)).eq_iff
  rw [hStates, ← UInt64.toNat_inj, UInt64.toNat_ofNat', UInt64.toNat_ofNat']
  rfl

/-- Each word of a run is the next word behind those that were skipped. -/
theorem words_eq_map (g : Generator) (count : Nat) :
    g.words count = (List.range count).map fun place => (g.skip place).next.1 := by
  induction count generalizing g with
  | zero => rfl
  | succ count ih =>
      rw [words, ih, List.range_succ_eq_map, List.map_cons, List.map_map, skip_zero]
      simp only [Function.comp_def, skip_succ]

/-- As many words as there are follow each other without a repetition. -/
theorem nodup_words (h : count ≤ UInt64.size) (g : Generator) : (g.words count).Nodup := by
  rw [words_eq_map]
  refine List.Nodup.map_on (fun first hFirst second hSecond hEq => ?_) List.nodup_range
  rw [next_word_inj, skip_eq_skip_iff] at hEq
  exact hEq.eq_of_lt_of_lt (Nat.lt_of_lt_of_le (List.mem_range.mp hFirst) h)
    (Nat.lt_of_lt_of_le (List.mem_range.mp hSecond) h)

/-- With one seed, different rows have different generators. -/
theorem ofRow_inj_row {other : UInt64} : ofRow seed row = ofRow seed other ↔ row = other := by
  rw [ofRow, ofRow, mk.injEq, UInt64.xor_right_inj]

theorem ofRow_inj_seed {other : UInt64} : ofRow seed row = ofRow other row ↔ seed = other := by
  rw [ofRow, ofRow, mk.injEq, UInt64.xor_left_inj, scramble_injective.eq_iff, UInt64.add_left_inj]

/-- The rows of a seed never draw the same word at the same time, nor do the seeds of a row, and no
generator draws a word again before it has drawn all others. -/
theorem draws_apart :
    (∀ (seed row other : UInt64) (count : Nat), row ≠ other →
      ((ofRow seed row).skip count).next.1 ≠ ((ofRow seed other).skip count).next.1)
    ∧ (∀ (seed other row : UInt64) (count : Nat), seed ≠ other →
      ((ofRow seed row).skip count).next.1 ≠ ((ofRow other row).skip count).next.1)
    ∧ ∀ (g : Generator) (start : Nat), ((g.skip start).words UInt64.size).Nodup := by
  refine ⟨?_, ?_, ?_⟩
  · intro seed row other count hRows hWords
    rw [next_word_inj, skip_inj, ofRow_inj_row] at hWords
    exact hRows hWords
  · intro seed other row count hSeeds hWords
    rw [next_word_inj, skip_inj, ofRow_inj_seed] at hWords
    exact hSeeds hWords
  · exact fun g start => nodup_words (Nat.le_refl _) (g.skip start)

/-- Also neighbours stay apart, and how many words were drawn before does not matter. -/
theorem draws_apart_neighbours :
    (6 : UInt64) ≠ 7 ∧ (41 : UInt64) ≠ 42
      ∧ ((ofRow 42 6).skip 1000000).next.1 ≠ ((ofRow 42 7).skip 1000000).next.1
      ∧ ((ofRow 41 6).skip 1000000).next.1 ≠ ((ofRow 42 6).skip 1000000).next.1 := by
  have hRows : (6 : UInt64) ≠ 7 := by decide
  have hSeeds : (41 : UInt64) ≠ 42 := by decide
  obtain ⟨hByRow, hBySeed, -⟩ := draws_apart
  exact ⟨hRows, hSeeds, hByRow 42 6 7 1000000 hRows, hBySeed 41 42 6 1000000 hSeeds⟩

end Pretext.Generator
