import Mathlib.Data.List.Chain
import Mathlib.Data.Nat.Bitwise
import Pretext.Unicode.Decomposition
import Pretext.Unicode.Lowercase
import Pretext.Unicode.Property

/-! Sets of codes as numbers in which the bits of the members are set, and the tables of characters
entry by entry. What holds of a whole table can be decided by testing a bit for each entry, without a
search for each of them. -/
namespace Pretext.Unicode

/-- The set of some codes. -/
def codeSet (codes : List Nat) : Nat := codes.foldr (fun code set => 1 <<< code ||| set) 0

/-- The set with the given borders, of which there is an even number. -/
def borderSet (borders : List Nat) : Nat :=
  borders.foldr (fun border set => (1 <<< border - 1) ^^^ set) 0

variable {code : Nat} {codes borders : List Nat}

theorem testBit_codeSet : (codeSet codes).testBit code = true ↔ code ∈ codes := by
  induction codes with
  | nil => simp [codeSet]
  | cons other rest ih =>
      have hBits : (codeSet (other :: rest)).testBit code =
          (decide (other = code) || (codeSet rest).testBit code) := by
        rw [codeSet, List.foldr_cons, Nat.testBit_or, Nat.one_shiftLeft, Nat.testBit_two_pow, codeSet]
      rw [hBits, Bool.or_eq_true, decide_eq_true_eq, ih, List.mem_cons, eq_comm]

/-- Every border past a code adds all the codes up to it once more, so that those count which are
met an odd number of times. -/
private theorem testBit_borderSet_xor (hBorders : borders.IsChain (· ≤ ·)) :
    (borderSet borders).testBit code = (within borders code ^^ decide (borders.length % 2 = 1)) := by
  induction borders with
  | nil => simp [borderSet]
  | cons border rest ih =>
      obtain ⟨hFirst, hRest⟩ := List.isChain_cons.mp hBorders
      have hBits : (borderSet (border :: rest)).testBit code =
          (decide (code < border) ^^ (borderSet rest).testBit code) := by
        rw [borderSet, List.foldr_cons, Nat.testBit_xor, Nat.one_shiftLeft,
          Nat.testBit_two_pow_sub_one, borderSet]
      have hParity : decide ((border :: rest).length % 2 = 1) = !decide (rest.length % 2 = 1) := by
        rw [List.length_cons, ← decide_not, decide_eq_decide]
        omega
      rw [hBits, ih hRest, hParity]
      rcases Nat.lt_or_ge code border with hLt | hLe
      · have hNone : within rest code = false := by
          cases rest with
          | nil => rfl
          | cons next rest => exact within_of_lt rest (Nat.lt_of_lt_of_le hLt (hFirst next rfl))
        rw [within_of_lt rest hLt, hNone, decide_eq_true hLt]
        cases decide (rest.length % 2 = 1) <;> rfl
      · rw [within_of_le rest hLe, decide_eq_false (Nat.not_lt.mpr hLe)]
        cases within rest code <;> cases decide (rest.length % 2 = 1) <;> rfl

/-- The set with given borders, as bits. It has to have a last border. -/
theorem testBit_borderSet (hBorders : borders.IsChain (· ≤ ·)) (hEven : borders.length % 2 = 0) :
    (borderSet borders).testBit code = within borders code := by
  rw [testBit_borderSet_xor hBorders, hEven]
  exact Bool.xor_false _

/-- The characters of a run, each with its parts. -/
def PartsRun.entries (run : PartsRun) : List (Nat × List Nat) :=
  run.parts.zipIdx.map fun entry => (run.first + entry.2, entry.1)

theorem PartsRun.mem_entries {run : PartsRun} (hFirst : run.first ≤ code)
    (h : run.parts[code - run.first]? = some codes) : (code, codes) ∈ run.entries := by
  refine List.mem_map.mpr ⟨(codes, code - run.first), List.mem_zipIdx_iff_getElem?.mpr h, ?_⟩
  rw [Nat.add_sub_cancel' hFirst]

/-- What is found is listed. -/
theorem mem_of_partsOfCode {runs : List PartsRun} (h : partsOfCode code runs = some codes) :
    (code, codes) ∈ runs.flatMap PartsRun.entries := by
  induction runs with
  | nil => cases h
  | cons run rest ih =>
      rw [partsOfCode] at h
      rw [List.flatMap_cons, List.mem_append]
      split at h
      · cases h
      · rename_i hFirst
        split at h
        · exact Or.inl (PartsRun.mem_entries (Nat.not_lt.mp hFirst) h)
        · exact Or.inr (ih h)

/-- Where a run begins, and where it ends. -/
def PartsRun.ends (run : PartsRun) : List Nat := [run.first, run.first + run.parts.length]

/-- Within a run something is found. -/
theorem isSome_partsOfCode (code : Nat) (runs : List PartsRun) :
    (partsOfCode code runs).isSome = within (runs.flatMap PartsRun.ends) code := by
  induction runs with
  | nil => rfl
  | cons run rest ih =>
      have hBorders : (run :: rest).flatMap PartsRun.ends =
          run.first :: (run.first + run.parts.length) :: rest.flatMap PartsRun.ends := rfl
      rw [hBorders, partsOfCode]
      split
      · rename_i hBefore
        rw [within_of_lt _ hBefore]
        rfl
      · rename_i hFirst
        rw [within_of_le _ (Nat.not_lt.mp hFirst)]
        split
        · rename_i hInside
          rw [within_of_lt _ hInside, List.getElem?_eq_getElem (by omega)]
          rfl
        · rename_i hPast
          rw [within_of_le _ (Nat.not_lt.mp hPast), ih, Bool.not_not]

/-- The capitals of a run, each with its lower-case letter. -/
def CaseRun.entries (run : CaseRun) : List (Nat × Nat) :=
  (List.range run.count).map fun place =>
    (run.first + place * run.step, run.target + place * run.step)

theorem CaseRun.mem_entries {run : CaseRun} {lower : Nat} (h : run.lower? code = some lower) :
    (code, lower) ∈ run.entries := by
  rw [lower?] at h
  split at h
  · rename_i hCode
    obtain ⟨hFirst, hLast, hStep⟩ := hCode
    cases h
    have hPlace : (code - run.first) / run.step * run.step = code - run.first :=
      Nat.div_mul_cancel (Nat.dvd_of_mod_eq_zero hStep)
    refine List.mem_map.mpr ⟨(code - run.first) / run.step, List.mem_range.mpr ?_, ?_⟩
    · apply Nat.div_lt_of_lt_mul
      rw [Nat.mul_comm]
      omega
    · rw [hPlace, Nat.add_sub_cancel' hFirst]
  · cases h

/-- A code that is listed nowhere stands for itself. -/
theorem lowerCode_cases (code : Nat) (runs : List CaseRun) :
    lowerCode code runs = code ∨ (code, lowerCode code runs) ∈ runs.flatMap CaseRun.entries := by
  induction runs with
  | nil => exact Or.inl rfl
  | cons run rest ih =>
      rw [lowerCode, List.flatMap_cons, List.mem_append]
      split
      · exact Or.inl rfl
      · cases hFound : run.lower? code with
        | some lower => exact Or.inr (Or.inl (CaseRun.mem_entries hFound))
        | none => exact ih.imp id Or.inr

end Pretext.Unicode
