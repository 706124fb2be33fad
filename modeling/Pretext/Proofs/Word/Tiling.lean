import Mathlib.Data.List.Sort
import Pretext.Word.Span

/-! Spans that tile a range: where they lie, and that each position of the range is in one of them. Each
ends where the next one starts, and so words are told by where they start: at the first piece of a
sentence and at every piece that does not continue another. -/
namespace Pretext

namespace Span

variable {first middle last position : Nat} {span : Span} {spans more : List Span}

theorem Tile.le (h : Tile first last spans) : first ≤ last := by
  induction spans generalizing first with
  | nil => exact Nat.le_of_eq h
  | cons span rest ih =>
      obtain ⟨_, hLt, hRest⟩ := h
      exact Nat.le_trans (Nat.le_of_lt hLt) (ih hRest)

/-- Tilings of two ranges that meet are a tiling of both. -/
theorem Tile.append (h : Tile first middle spans) (hMore : Tile middle last more) :
    Tile first last (spans ++ more) := by
  induction spans generalizing first with
  | nil =>
      have hEq : first = middle := h
      rw [List.nil_append, hEq]
      exact hMore
  | cons span rest ih =>
      obtain ⟨hStart, hLt, hRest⟩ := h
      exact ⟨hStart, hLt, ih hRest⟩

/-- No span of a tiling is empty or reaches out of the range. -/
theorem Tile.bounds (h : Tile first last spans) (hSpan : span ∈ spans) :
    first ≤ span.start ∧ span.start < span.stop ∧ span.stop ≤ last := by
  induction spans generalizing first with
  | nil => cases hSpan
  | cons next rest ih =>
      obtain ⟨hStart, hLt, hRest⟩ := h
      rcases List.mem_cons.mp hSpan with rfl | hSpan
      · exact ⟨Nat.le_of_eq hStart.symm, hStart ▸ hLt, hRest.le⟩
      · obtain ⟨hFirst, hBounds⟩ := ih hRest hSpan
        exact ⟨Nat.le_trans (Nat.le_of_lt hLt) hFirst, hBounds⟩

theorem Tile.nodup_positions (h : Tile first last spans) : (spans.flatMap positions).Nodup := by
  rw [h.positions_eq]
  exact List.nodup_range'

/-- The spans have all positions of the range and no others. -/
theorem Tile.mem_flatMap_positions (h : Tile first last spans) :
    position ∈ spans.flatMap positions ↔ first ≤ position ∧ position < last := by
  have hLe := h.le
  rw [h.positions_eq, List.mem_range'_1]
  omega

/-- Every position of the range is in one of the spans. -/
theorem Tile.exists_mem (h : Tile first last spans) (hFirst : first ≤ position)
    (hLast : position < last) : ∃ span ∈ spans, position ∈ span.positions :=
  List.mem_flatMap.mp (h.mem_flatMap_positions.mpr ⟨hFirst, hLast⟩)

/-- Where no two positions of several spans coincide, a position tells the span it is in. -/
theorem eq_of_mem_positions (hNodup : (spans.flatMap positions).Nodup) {other : Span}
    (hSpan : span ∈ spans) (hOther : other ∈ spans) (hPosition : position ∈ span.positions)
    (hAlso : position ∈ other.positions) : span = other := by
  induction spans with
  | nil => cases hSpan
  | cons next rest ih =>
      rw [List.flatMap_cons, List.nodup_append] at hNodup
      obtain ⟨_, hRest, hDisjoint⟩ := hNodup
      have hApart : position ∈ next.positions → position ∉ rest.flatMap positions :=
        fun hNext hIn => hDisjoint position hNext position hIn rfl
      rcases List.mem_cons.mp hSpan with hSpan | hSpan <;>
        rcases List.mem_cons.mp hOther with hOther | hOther
      · rw [hSpan, hOther]
      · rw [hSpan] at hPosition
        exact absurd (List.mem_flatMap.mpr ⟨other, hOther, hAlso⟩) (hApart hPosition)
      · rw [hOther] at hAlso
        exact absurd (List.mem_flatMap.mpr ⟨span, hSpan, hPosition⟩) (hApart hAlso)
      · exact ih hRest hSpan hOther

theorem Tile.headD_start (h : Tile first last spans) : (spans.map start).headD last = first := by
  cases spans with
  | nil => exact Eq.symm h
  | cons span rest => exact h.1

/-- Each span begins behind those before it. -/
theorem Tile.pairwise_start (h : Tile first last spans) : (spans.map start).Pairwise (· < ·) := by
  induction spans generalizing first with
  | nil => exact List.Pairwise.nil
  | cons span rest ih =>
      obtain ⟨hStart, hLt, hRest⟩ := h
      refine List.pairwise_cons.mpr ⟨?_, ih hRest⟩
      intro start hMem
      obtain ⟨later, hLater, rfl⟩ := List.mem_map.mp hMem
      have hStop := (hRest.bounds hLater).1
      omega

/-- Tilings with the same starts are the same. -/
theorem Tile.eq_of_map_start (h : Tile first last spans) (hMore : Tile first last more)
    (hStarts : spans.map start = more.map start) : spans = more := by
  induction spans generalizing first more with
  | nil => exact (List.map_eq_nil_iff.mp hStarts.symm).symm
  | cons span rest ih =>
      cases more with
      | nil => cases hStarts
      | cons next more =>
          obtain ⟨hStart, -, hRest⟩ := h
          obtain ⟨hNext, -, hMoreRest⟩ := hMore
          have hRestStarts : rest.map start = more.map start := (List.cons.inj hStarts).2
          have hStop : span.stop = next.stop := by
            rw [← hRest.headD_start, hRestStarts, hMoreRest.headD_start]
          have hSpan : span = next := by
            cases span
            cases next
            simp_all
          rw [hSpan, ih hRest (hStop ▸ hMoreRest) hRestStarts]

/-- Tilings of one range with the same starts, in whatever order these are known, are the same. -/
theorem Tile.eq_of_starts (h : Tile first last spans) (hMore : Tile first last more)
    (hStarts : ∀ position,
      (∃ span ∈ spans, span.start = position) ↔ ∃ span ∈ more, span.start = position) :
    spans = more := by
  apply h.eq_of_map_start hMore
  apply h.pairwise_start.eq_of_mem_iff hMore.pairwise_start
  intro position
  rw [List.mem_map, List.mem_map]
  exact hStarts position

end Span

namespace Vocabulary

variable {vocabulary : Vocabulary} {sentence : Sentence} {position index : Nat}

/-- A word starts at the one that has begun or at a later piece that continues none. -/
theorem exists_start_groupsAfter (word : Span) (rest : Sentence) :
    (∃ span ∈ vocabulary.groupsAfter word rest, span.start = position) ↔
      word.start = position ∨ ∃ index id, rest[index]? = some id ∧ vocabulary.continues id = false
        ∧ word.stop + index = position := by
  induction rest generalizing word with
  | nil => simp [groupsAfter]
  | cons id rest ih =>
      -- The first piece is split off the pieces at which a word may start.
      have hFirst : (∃ index next, (id :: rest)[index]? = some next
            ∧ vocabulary.continues next = false ∧ word.stop + index = position) ↔
          (vocabulary.continues id = false ∧ word.stop = position) ∨
            ∃ index next, rest[index]? = some next ∧ vocabulary.continues next = false
              ∧ word.stop + 1 + index = position := by
        constructor
        · rintro ⟨index, next, hNext, hBegins, hPosition⟩
          cases index with
          | zero =>
              cases hNext
              exact Or.inl ⟨hBegins, hPosition⟩
          | succ index => exact Or.inr ⟨index, next, hNext, hBegins, by omega⟩
        · rintro (⟨hBegins, hPosition⟩ | ⟨index, next, hNext, hBegins, hPosition⟩)
          · exact ⟨0, id, rfl, hBegins, hPosition⟩
          · exact ⟨index + 1, next, hNext, hBegins, by omega⟩
      rw [hFirst]
      unfold groupsAfter
      split
      · rename_i hContinues
        rw [ih]
        simp [hContinues]
      · rename_i hContinues
        have hBegins : vocabulary.continues id = false := by simpa using hContinues
        simp only [List.mem_cons, exists_eq_or_imp, ih, hBegins, true_and]

/-- The pieces at which the words of a sentence start. -/
theorem exists_start_groups :
    (∃ span ∈ vocabulary.groups sentence, span.start = index) ↔
      ∃ id, sentence[index]? = some id ∧ (index = 0 ∨ vocabulary.continues id = false) := by
  cases sentence with
  | nil => simp [groups]
  | cons first rest =>
      rw [groups, exists_start_groupsAfter]
      cases index with
      | zero => simp
      | succ index =>
          constructor
          · rintro (hZero | ⟨found, id, hId, hBegins, hIndex⟩)
            · cases hZero
            · obtain rfl : found = index := by
                rw [Nat.add_comm] at hIndex
                exact Nat.succ.inj hIndex
              exact ⟨id, hId, Or.inr hBegins⟩
          · rintro ⟨id, hId, hZero | hBegins⟩
            · cases hZero
            · exact Or.inr ⟨index, id, hId, hBegins, Nat.add_comm ..⟩

end Vocabulary

end Pretext
