import Pretext.Proofs.Unicode.CodeSets
import Pretext.Unicode.Property

/-! What becomes of a character that is taken apart and put into lower case. The characters that come
of it are not changed by doing so again. None stands for nothing or for an ideograph unless what it
comes from does. -/
namespace Pretext.Unicode

/-- A character that is not shown: it stands for nothing, or in place of what could not be read. -/
def isDropped (c : Char) : Bool := c.toNat == 0xFFFD || isControl c

/-- The characters with parts, the Hangul syllables excepted. -/
def partsTable : List (Nat × List Nat) := partsRuns.flatMap PartsRun.entries

/-- The capitals, save the one with two letters. -/
def caseTable : List (Nat × Nat) := caseRuns.flatMap CaseRun.entries

/-- A Hangul syllable has parts that no table lists. -/
def IsSyllable (c : Char) : Prop := 0xAC00 ≤ c.toNat ∧ c.toNat ≤ 0xD7A3

/-- The codes of the parts of syllables, among others. -/
def jamo : List Nat := List.range' 0x1100 0x100

def composedSet : Nat := borderSet (partsRuns.flatMap PartsRun.ends) ||| borderSet [0xAC00, 0xD7A4]
def capitalSet : Nat := codeSet (0x130 :: caseTable.map Prod.fst)
def droppedSet : Nat := codeSet [0xFFFD] ||| borderSet controlBorders
def ideographSet : Nat := borderSet ideographBorders
def markSet : Nat := borderSet markBorders

/-- Whether a set has the code of a character. -/
def has (set : Nat) (c : Char) : Bool := set.testBit c.toNat

/-- What is asked of a part: it has no parts, it is shown, and it is no ideograph unless it is the one
part of an ideograph. -/
def partFits (ideograph : Bool) (part : Char) : Bool :=
  !has composedSet part && !has droppedSet part && (ideograph || !has ideographSet part)

/-- What is asked of the letter of a capital: it is no capital, it is not dropped or set apart, and it
has no parts unless the capital has. -/
def letterFits (composed : Bool) (letter : Char) : Bool :=
  !has capitalSet letter && !has droppedSet letter && !has ideographSet letter && !has markSet letter
    && (composed || !has composedSet letter)

variable {c d : Char} {code : Nat} {ideograph composed : Bool}

theorem has_ideographSet (c : Char) : has ideographSet c = isIdeograph c :=
  testBit_borderSet (by decide) (by decide)

theorem has_markSet (c : Char) : has markSet c = isNonspacingMark c :=
  testBit_borderSet (by decide +kernel) (by decide +kernel)

theorem has_droppedSet (c : Char) : has droppedSet c = isDropped c := by
  have hControl : (borderSet controlBorders).testBit c.toNat = isControl c :=
    testBit_borderSet (by decide) (by decide)
  rw [has, droppedSet, Nat.testBit_or, hControl, isDropped, Bool.eq_iff_iff, Bool.or_eq_true,
    testBit_codeSet, List.mem_singleton, Bool.or_eq_true, beq_iff_eq]

/-- The characters that are made of parts: those of the table, and syllables. -/
theorem has_composedSet :
    has composedSet c = true ↔ (partsOfCode c.toNat partsRuns).isSome = true ∨ IsSyllable c := by
  have hSyllable : (borderSet [0xAC00, 0xD7A4]).testBit c.toNat = true ↔ IsSyllable c := by
    rw [testBit_borderSet (by decide) rfl]
    simp [within, IsSyllable]
    omega
  have hTable : (borderSet (partsRuns.flatMap PartsRun.ends)).testBit c.toNat =
      (partsOfCode c.toNat partsRuns).isSome := by
    rw [isSome_partsOfCode, testBit_borderSet (by decide +kernel) (by decide +kernel)]
  rw [has, composedSet, Nat.testBit_or, Bool.or_eq_true, hSyllable, hTable]

private theorem ne_of_has (h : has composedSet c = false) : c.toNat ≠ 0x130 := by
  intro hCode
  have hSome : (partsOfCode 0x130 partsRuns).isSome = true := rfl
  rw [← hCode] at hSome
  rw [has_composedSet.mpr (Or.inl hSome)] at h
  cases h

/-- All entries of the table are looked through at once: their parts are as they should be, and an
ideograph has a single one. -/
private theorem partsTable_fits : (partsTable.all fun entry =>
    (!ideographSet.testBit entry.1 || entry.2.length == 1)
      && (entry.2.map Char.ofNat).all (partFits (ideographSet.testBit entry.1))) = true := by
  decide +kernel

private theorem jamo_fits : ((jamo.map Char.ofNat).all (partFits false)) = true := by
  decide +kernel

private theorem caseTable_fits : (caseTable.all fun entry =>
    letterFits (composedSet.testBit entry.1) (Char.ofNat entry.2)) = true := by
  decide +kernel

theorem partFits_iff : partFits ideograph d = true ↔
    has composedSet d = false ∧ isDropped d = false ∧ (ideograph = true ∨ isIdeograph d = false) := by
  simp [partFits, has_droppedSet, has_ideographSet, and_assoc]

private theorem mem_jamo_of_mem_syllableParts (hSyllable : IsSyllable c)
    (hCode : code ∈ syllableParts c.toNat) : code ∈ jamo := by
  obtain ⟨hFirst, hLast⟩ := hSyllable
  have hCodes : code = 0x1100 + (c.toNat - 0xAC00) / 588 ∨
      code = 0x1161 + (c.toNat - 0xAC00) % 588 / 28 ∨ code = 0x11A7 + (c.toNat - 0xAC00) % 28 := by
    simp only [syllableParts] at hCode
    split at hCode <;> simp at hCode <;> omega
  rw [jamo, List.mem_range'_1]
  omega

private theorem not_ideograph_of_syllable (hSyllable : IsSyllable c) : isIdeograph c = false := by
  obtain ⟨hFirst, hLast⟩ := hSyllable
  simp [isIdeograph, ideographBorders, within]
  omega

/-- What is no syllable has the parts that are listed, if any. -/
private theorem parts_of_not_syllable (hSyllable : ¬ IsSyllable c) :
    parts c = ((partsOfCode c.toNat partsRuns).map (·.map Char.ofNat)).getD [c] := by
  unfold parts
  split
  · exact absurd ‹_› hSyllable
  · cases partsOfCode c.toNat partsRuns <;> rfl

/-- A character that has no parts is all of itself. -/
theorem parts_of_has (h : has composedSet c = false) : parts c = [c] := by
  have hNone : ¬ ((partsOfCode c.toNat partsRuns).isSome = true ∨ IsSyllable c) := by
    rw [← has_composedSet]
    exact ne_true_of_eq_false h
  obtain ⟨hTable, hSyllable⟩ := not_or.mp hNone
  rw [parts_of_not_syllable hSyllable, Option.not_isSome_iff_eq_none.mp hTable]
  rfl

/-- The parts of a character that has some are as is asked of them, and an ideograph has only one. -/
theorem parts_fit (h : has composedSet c = true) :
    (∀ d ∈ parts c, partFits (isIdeograph c) d = true)
      ∧ (isIdeograph c = true → (parts c).length = 1) := by
  by_cases hSyllable : IsSyllable c
  · have hParts : parts c = (syllableParts c.toNat).map Char.ofNat := if_pos hSyllable
    rw [hParts, not_ideograph_of_syllable hSyllable]
    refine ⟨fun d hd => ?_, nofun⟩
    obtain ⟨code, hCode, rfl⟩ := List.mem_map.mp hd
    exact List.all_eq_true.mp jamo_fits _
      (List.mem_map_of_mem (mem_jamo_of_mem_syllableParts hSyllable hCode))
  · have hSome := (has_composedSet.mp h).resolve_right hSyllable
    obtain ⟨codes, hCodes⟩ := Option.isSome_iff_exists.mp hSome
    have hParts : parts c = codes.map Char.ofNat := by
      rw [parts_of_not_syllable hSyllable, hCodes]
      rfl
    have hFits := List.all_eq_true.mp partsTable_fits _ (mem_of_partsOfCode hCodes)
    have hIdeograph : ideographSet.testBit c.toNat = isIdeograph c := has_ideographSet c
    simp only [hIdeograph, Bool.and_eq_true, List.all_eq_true] at hFits
    rw [hParts, List.length_map]
    refine ⟨hFits.2, fun hIs => ?_⟩
    simpa [hIs] using hFits.1

/-- The parts of a character have no parts. -/
theorem has_composed_of_mem_parts (h : d ∈ parts c) : has composedSet d = false := by
  cases hHas : has composedSet c with
  | true => exact (partFits_iff.mp ((parts_fit hHas).1 d h)).1
  | false =>
      rw [parts_of_has hHas, List.mem_singleton] at h
      rw [h, hHas]

/-- What is shown has no parts that are not. -/
theorem isDropped_of_mem_parts (hShown : isDropped c = false) (h : d ∈ parts c) :
    isDropped d = false := by
  cases hHas : has composedSet c with
  | true => exact (partFits_iff.mp ((parts_fit hHas).1 d h)).2.1
  | false =>
      rw [parts_of_has hHas, List.mem_singleton] at h
      rw [h, hShown]

/-- Only ideographs are made of ideographs. -/
theorem isIdeograph_of_mem_parts (hOther : isIdeograph c = false) (h : d ∈ parts c) :
    isIdeograph d = false := by
  cases hHas : has composedSet c with
  | true =>
      apply (partFits_iff.mp ((parts_fit hHas).1 d h)).2.2.resolve_left
      exact ne_true_of_eq_false hOther
  | false =>
      rw [parts_of_has hHas, List.mem_singleton] at h
      rw [h, hOther]

/-- An ideograph stands for itself or for another character. -/
theorem exists_parts_of_ideograph (h : isIdeograph c = true) : ∃ d, parts c = [d] := by
  cases hHas : has composedSet c with
  | true => exact List.length_eq_one_iff.mp ((parts_fit hHas).2 h)
  | false => exact ⟨c, parts_of_has hHas⟩

/-- A character that does not change any more when it is taken apart and put into lower case. -/
structure Settled (c : Char) : Prop where
  parts_eq : parts c = [c]
  lower_eq : lower c = [c]

private theorem lower_of_ne (h : c.toNat ≠ 0x130) :
    lower c = [Char.ofNat (lowerCode c.toNat caseRuns)] := if_neg h

/-- What is no capital is its own lower case. -/
theorem lower_of_has (h : has capitalSet c = false) : lower c = [c] := by
  have hOut : c.toNat ∉ 0x130 :: caseTable.map Prod.fst := by
    rw [← testBit_codeSet]
    exact ne_true_of_eq_false h
  obtain ⟨hNe, hCapital⟩ := List.ne_and_not_mem_of_not_mem_cons hOut
  rw [lower_of_ne hNe]
  rcases lowerCode_cases c.toNat caseRuns with hSame | hEntry
  · rw [hSame, Char.ofNat_toNat]
  · exact absurd (List.mem_map_of_mem hEntry) hCapital

/-- The letter of a character that has no parts, a letter that is settled. Unless it is the character
itself, it is none of those that are dropped or set apart. -/
theorem exists_lower (h : has composedSet c = false) :
    ∃ letter, lower c = [letter] ∧ Settled letter
      ∧ (letter = c ∨ isDropped letter = false ∧ isIdeograph letter = false
        ∧ isNonspacingMark letter = false) := by
  have hLower := lower_of_ne (ne_of_has h)
  rcases lowerCode_cases c.toNat caseRuns with hSame | hEntry
  · rw [hSame, Char.ofNat_toNat] at hLower
    exact ⟨c, hLower, ⟨parts_of_has h, hLower⟩, Or.inl rfl⟩
  · have hFits := List.all_eq_true.mp caseTable_fits _ hEntry
    have hComposed : composedSet.testBit c.toNat = false := h
    simp only [letterFits, hComposed, Bool.and_eq_true, Bool.not_eq_true', Bool.false_or,
      has_droppedSet, has_ideographSet, has_markSet] at hFits
    obtain ⟨⟨⟨⟨hCapital, hDropped⟩, hIdeograph⟩, hMark⟩, hAlone⟩ := hFits
    exact ⟨_, hLower, ⟨parts_of_has hAlone, lower_of_has hCapital⟩,
      Or.inr ⟨hDropped, hIdeograph, hMark⟩⟩

end Pretext.Unicode
