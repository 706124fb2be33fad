import Mathlib.Data.Nat.Digits.Defs
import Pretext.Proofs.Random.Generator
import Pretext.Random.Draw

/-! Bytes that are drawn. A full buffer spells the words that were drawn for it, the lowest byte of each
first, so that it does not matter whether it was filled at once or in parts, as long as the parts end
where words end. -/
namespace Pretext.Generator

variable {size place count : Nat}

/-- A word is what its bytes make as digits. -/
theorem ofDigits_littleEndian (word : UInt64) :
    Nat.ofDigits 256 ((littleEndian word).map UInt8.toNat) = word.toNat := by
  have hWord := word.toNat_lt
  simp only [littleEndian, List.map_cons, List.map_nil, Nat.ofDigits_cons, Nat.ofDigits_nil,
    UInt64.toNat_toUInt8, UInt64.toNat_shiftRight, Nat.shiftRight_eq_div_pow, UInt64.reduceToNat,
    Nat.reduceMod, Nat.reducePow]
  omega

theorem length_flatMap_littleEndian (words : List UInt64) :
    (words.flatMap littleEndian).length = 8 * words.length := by
  simp [List.length_flatMap, Nat.mul_comm]

theorem fillFrom_of_le (g : Generator) (buffer : Vector UInt8 size) (h : size ≤ place) :
    g.fillFrom buffer place = (buffer, g) := by
  rw [fillFrom, dif_neg (Nat.not_lt.mpr h)]

theorem fillFrom_eq_of_le (g : Generator) (buffer : Vector UInt8 size) (h : size ≤ place)
    (bytes : List UInt8) :
    (g.fillFrom buffer place).1.toList = buffer.toList.take place ++ bytes.take (size - place)
      ∧ (g.fillFrom buffer place).2 = g.skip ((size - place + 7) / 8) := by
  rw [fillFrom_of_le g buffer h, Nat.sub_eq_zero_of_le h, List.take_zero, List.append_nil,
    List.take_of_length_le (by rwa [Vector.length_toList])]
  exact ⟨rfl, rfl⟩

/-- Up to the end of what was written, a buffer holds what was before and then what was written. -/
theorem take_toList_overwrite {stop : Nat} (buffer : Vector UInt8 size) (bytes : List UInt8)
    (hRoom : place + bytes.length ≤ size) (hStop : place + bytes.length = min stop size) :
    (overwrite buffer place bytes hRoom).toList.take stop = buffer.toList.take place ++ bytes := by
  have hBefore : (buffer.toList.take place ++ bytes).length = place + bytes.length := by
    rw [List.length_append, List.length_take, Vector.length_toList]
    omega
  have hBehind : (buffer.toList.drop (place + bytes.length)).take (stop - (place + bytes.length)) = [] := by
    rw [List.take_eq_nil_iff, List.drop_eq_nil_iff, Vector.length_toList]
    omega
  rw [toList_overwrite, List.take_append, hBefore, hBehind, List.append_nil,
    List.take_of_length_le (by omega)]

/-- One word is drawn for the next eight places. Where the buffer ends before them, the rest of the word
is left out, and nothing is drawn any more. -/
theorem exists_fillFrom_of_lt (g : Generator) (buffer : Vector UInt8 size) (h : place < size) :
    ∃ after : Vector UInt8 size, g.fillFrom buffer place = g.next.2.fillFrom after (place + 8)
      ∧ after.toList.take (place + 8) =
        buffer.toList.take place ++ (littleEndian g.next.1).take (size - place) := by
  generalize hChunk : (littleEndian g.next.1).take (size - place) = chunk
  have hLength : chunk.length = min (size - place) 8 := by
    rw [← hChunk, List.length_take, length_littleEndian]
  have hRoom : place + chunk.length ≤ size := by omega
  have hTurn : g.fillFrom buffer place =
      g.next.2.fillFrom (overwrite buffer place chunk hRoom) (place + chunk.length) := by
    subst hChunk
    rw [fillFrom, dif_pos h]
  refine ⟨overwrite buffer place chunk hRoom, ?_, take_toList_overwrite _ _ _ (by omega)⟩
  rcases Nat.le_total (place + 8) size with hWhole | hEnd
  · have hEight : chunk.length = 8 := by omega
    rw [hTurn, hEight]
  · rw [hTurn, fillFrom_of_le _ _ (by omega), fillFrom_of_le _ _ hEnd]

/-- Nothing before the place has changed, and behind it are the first bytes of the words, however many
there are, if they are enough. No more words are drawn than are begun. -/
theorem fillFrom_eq (g : Generator) (buffer : Vector UInt8 size) (place : Nat)
    (hCount : size ≤ place + 8 * count) :
    (g.fillFrom buffer place).1.toList =
        buffer.toList.take place ++ ((g.words count).flatMap littleEndian).take (size - place)
      ∧ (g.fillFrom buffer place).2 = g.skip ((size - place + 7) / 8) := by
  -- The induction is on the words there are, some of which the buffer may end before.
  induction count generalizing g buffer place with
  | zero => exact fillFrom_eq_of_le _ _ hCount _
  | succ count ih =>
      rcases Nat.lt_or_ge place size with hPlace | hEnd
      · obtain ⟨after, hFill, hAfter⟩ := exists_fillFrom_of_lt g buffer hPlace
        obtain ⟨hBytes, hDrawn⟩ := ih g.next.2 after (place + 8) (by omega)
        have hTurns : (size - place + 7) / 8 = (size - (place + 8) + 7) / 8 + 1 := by omega
        refine ⟨?_, ?_⟩
        · rw [hFill, hBytes, hAfter, words, List.flatMap_cons, List.take_append, length_littleEndian,
            Nat.sub_sub, List.append_assoc]
        · rw [hFill, hDrawn, hTurns, skip_succ]
      · exact fillFrom_eq_of_le _ _ hEnd _

/-- A filled buffer holds the bytes of the next words, of the last one only as many as there is room
for. -/
theorem toList_fill (g : Generator) (buffer : Vector UInt8 size) (hCount : size ≤ 8 * count) :
    (g.fill buffer).1.toList = ((g.words count).flatMap littleEndian).take size := by
  obtain ⟨hBytes, -⟩ := fillFrom_eq g buffer 0 (hCount.trans (Nat.le_add_left ..))
  exact hBytes

/-- A word is drawn for every eight bytes, and for a remainder one more. -/
theorem fill_generator (g : Generator) (buffer : Vector UInt8 size) :
    (g.fill buffer).2 = g.skip ((size + 7) / 8) := by
  obtain ⟨-, hDrawn⟩ := @fillFrom_eq size ((size + 7) / 8) g buffer 0 (by omega)
  exact hDrawn

/-- A part that ends where a word ends leaves nothing of a word unused. -/
theorem fill_eq_fill_parts (g : Generator) {first second : Nat}
    (whole : Vector UInt8 (8 * first + second)) (left : Vector UInt8 (8 * first))
    (right : Vector UInt8 second) :
    g.fill whole = ((g.fill left).1 ++ ((g.fill left).2.fill right).1, ((g.fill left).2.fill right).2) := by
  have hMiddle : (g.fill left).2 = g.skip first := by
    rw [fill_generator, Nat.mul_add_div (by decide)]
    rfl
  have hWords : (8 * first + second + 7) / 8 = first + (second + 7) / 8 := by omega
  have hLeft : (g.fill left).1.toList = (g.words first).flatMap littleEndian := by
    rw [toList_fill g left (Nat.le_refl _), List.take_of_length_le]
    rw [length_flatMap_littleEndian, length_words]
  have hRight := @toList_fill second ((second + 7) / 8) (g.skip first) right (by omega)
  refine Prod.ext (Vector.toList_inj.mp ?_) ?_
  · calc
      (g.fill whole).1.toList
          = ((g.words (first + (second + 7) / 8)).flatMap littleEndian).take (8 * first + second) :=
        toList_fill g whole (by omega)
      _ = (g.words first).flatMap littleEndian ++
            (((g.skip first).words ((second + 7) / 8)).flatMap littleEndian).take second := by
        rw [words_add, List.flatMap_append, List.take_append, length_flatMap_littleEndian, length_words,
          Nat.add_sub_cancel_left, List.take_of_length_le]
        rw [length_flatMap_littleEndian, length_words]
        exact Nat.le_add_right ..
      _ = ((g.fill left).1 ++ ((g.fill left).2.fill right).1).toList := by
        rw [Vector.toList_append, hLeft, hMiddle, hRight]
  · rw [fill_generator, hMiddle, fill_generator, hWords, skip_add]

/-- A buffer is filled with the first bytes of the words that follow, each spelled by its eight digits to
the base 256 with the lowest first, whatever stood in it. As many words are drawn as are begun. So a
buffer may be filled in two parts if the first of them ends where a word ends. -/
theorem fill_spells_words :
    (∀ word : UInt64, (littleEndian word).length = 8
      ∧ Nat.ofDigits 256 ((littleEndian word).map UInt8.toNat) = word.toNat)
    ∧ (∀ (g : Generator) (size : Nat) (buffer : Vector UInt8 size),
      (∀ count, size ≤ 8 * count →
        (g.fill buffer).1.toList = ((g.words count).flatMap littleEndian).take size)
      ∧ (g.fill buffer).2 = g.skip ((size + 7) / 8))
    ∧ ∀ (g : Generator) (first second : Nat) (whole : Vector UInt8 (8 * first + second))
      (left : Vector UInt8 (8 * first)) (right : Vector UInt8 second),
      g.fill whole =
        ((g.fill left).1 ++ ((g.fill left).2.fill right).1, ((g.fill left).2.fill right).2) := by
  refine ⟨?_, ?_, ?_⟩
  · exact fun word => ⟨length_littleEndian word, ofDigits_littleEndian word⟩
  · intro g size buffer
    exact ⟨fun count hCount => toList_fill g buffer hCount, fill_generator g buffer⟩
  · exact fun g first second => fill_eq_fill_parts g

/-- Thirteen bytes take two words, and three bytes of the second are lost. What stood in the buffer is of no
account, nor is it if the first eight bytes are filled apart from the others. -/
theorem fill_spells_words_thirteen :
    let g : Generator := ⟨999⟩
    let whole : Vector UInt8 13 := Vector.replicate 13 255
    let left : Vector UInt8 8 := Vector.replicate 8 0
    let right : Vector UInt8 5 := #v[1, 2, 3, 4, 5]
    13 ≤ 8 * 2
      ∧ (g.fill whole).1.toList = [156, 17, 24, 190, 112, 83, 146, 104, 30, 211, 203, 69, 248]
      ∧ (g.fill whole).2 = ⟨4354685564936846353⟩
      ∧ (g.fill whole).1 = (g.fill left).1 ++ ((g.fill left).2.fill right).1
      ∧ (g.fill whole).2 = ((g.fill left).2.fill right).2 := by
  intro g whole left right
  obtain ⟨-, hFilled, hParts⟩ := fill_spells_words
  obtain ⟨hBytes, hDrawn⟩ := hFilled g 13 whole
  have hCount : 13 ≤ 8 * 2 := by decide
  have hWhole := hParts g 1 5 whole left right
  exact ⟨hCount, (hBytes 2 hCount).trans (by decide +kernel), hDrawn.trans (by decide +kernel),
    congrArg Prod.fst hWhole, congrArg Prod.snd hWhole⟩

end Pretext.Generator
