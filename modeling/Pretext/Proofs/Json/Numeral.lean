import Mathlib.Data.List.TakeWhile
import Pretext.Json.Value

/-! Numbers are read as they are written: digits without a zero in front, which spell the number again. -/
namespace Pretext.Json

/-- The spelling of a number without a sign, a point or a power of ten. -/
def Numeral.ofNat (number : Nat) : Numeral :=
  ⟨false, (Nat.toDigits 10 number).map digit, none, none⟩

theorem isDigit_of_mem_toDigits {number : Nat} {c : Char} (h : c ∈ Nat.toDigits 10 number) :
    c.isDigit = true :=
  Nat.isDigit_of_mem_toDigits (by decide) (by decide) h

theorem digit_digitChar {value : Nat} (h : value < 10) : digit value.digitChar = value :=
  Nat.toNat_digitChar_sub_48_of_lt_ten h

/-- The digits of a number spell it. -/
theorem ofDigits_toDigits (number : Nat) :
    ofDigits ((Nat.toDigits 10 number).map digit) = number := by
  have hSpelled := @Nat.ofDigitChars_ten_toDigits number
  rw [Nat.ofDigitChars_eq_foldl] at hSpelled
  rw [ofDigits, List.foldl_map]
  simpa only [Nat.mul_comm, digit] using hSpelled

/-- No number but zero begins with a zero. -/
theorem exists_toDigits_of_pos {number : Nat} (h : 0 < number) :
    ∃ first rest, Nat.toDigits 10 number = first :: rest ∧ digit first ≠ 0 := by
  induction number using Nat.base_induction 10 (by decide) with
  | single number hSmall =>
      refine ⟨number.digitChar, [], Nat.toDigits_of_lt_base hSmall, ?_⟩
      rw [digit_digitChar hSmall]
      exact Nat.ne_of_gt h
  | digit front last hLast hFront ih =>
      obtain ⟨first, rest, hDigits, hFirst⟩ := ih hFront
      refine ⟨first, rest ++ Nat.toDigits 10 last, ?_, hFirst⟩
      rw [← Nat.toDigits_append_toDigits (by decide) hFront hLast, hDigits, List.cons_append]

/-- Digits are taken up to the end of the text. -/
theorem takeDigits_of_isDigit {text : List Char} (h : ∀ c ∈ text, c.isDigit = true) :
    takeDigits text = (text.map digit, []) := by
  rw [takeDigits, List.takeWhile_eq_self_iff.mpr h, List.dropWhile_eq_nil_iff.mpr h]

namespace Numeral

/-- A number as it is written has no needless zero in front, which would be refused. -/
theorem takeWhole?_toDigits (number : Nat) :
    takeWhole? (Nat.toDigits 10 number) = some ((Nat.toDigits 10 number).map digit, []) := by
  rw [takeWhole?, takeDigits_of_isDigit fun c hc => isDigit_of_mem_toDigits hc]
  rcases Nat.eq_zero_or_pos number with rfl | hPos
  · rfl
  · obtain ⟨first, rest, hDigits, hFirst⟩ := exists_toDigits_of_pos hPos
    rw [hDigits, List.map_cons]
    split <;> simp_all

/-- A number is read as it is spelled. -/
theorem ofChars?_toDigits (number : Nat) :
    ofChars? (Nat.toDigits 10 number) = some (.ofNat number) := by
  have hSign : takeSign (Nat.toDigits 10 number) = (false, Nat.toDigits 10 number) := by
    unfold takeSign
    split
    · rename_i hDigits
      have hDigit := @isDigit_of_mem_toDigits number '-' (by rw [hDigits]; exact List.mem_cons_self ..)
      cases hDigit
    · rfl
  rw [ofChars?, hSign]
  simp only [takeWhole?_toDigits, bind, Option.bind]
  rfl

theorem integer?_ofNat (number : Nat) : (ofNat number).integer? = some (number : Int) := by
  simp [integer?, ofNat, ofDigits_toDigits]

end Numeral

/-- The digits of a number are the numeral of that number. -/
theorem numeralToken_toDigits (number : Nat) :
    numeralToken (Nat.toDigits 10 number) = .number (.ofNat number) := by
  rw [numeralToken, Numeral.ofChars?_toDigits]

/-- A number of 64 bits is read again. -/
theorem Value.uint64?_ofNat (number : UInt64) :
    (Value.number (.ofNat number.toNat)).uint64? = some number := by
  have hWithin : (0 : Int) ≤ number.toNat ∧ (number.toNat : Int) < UInt64.size := by
    have hLt := number.toNat_lt
    rw [UInt64.size]
    omega
  rw [uint64?, integerWithin?, Numeral.integer?_ofNat, Option.filter_some, if_pos (by simpa using hWithin)]
  simp

end Pretext.Json
