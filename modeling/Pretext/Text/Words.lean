import Pretext.Unicode.Decomposition
import Pretext.Unicode.Lowercase
import Pretext.Unicode.Property

/-! Cutting a text into words, and the normal form in which that is done. -/
namespace Pretext.Text

open Unicode

/-- A word that is being collected backwards, if it has a character. -/
def closeWord (word : List Char) : List (List Char) :=
  if word.isEmpty then [] else [word.reverse]

/-- The words of the rest of a text, the first of which began with `word`. -/
def splitFrom (blank alone : Char → Bool) (word : List Char) : List Char → List (List Char)
  | [] => closeWord word
  | c :: rest =>
    if blank c then closeWord word ++ splitFrom blank alone [] rest
    else if alone c then closeWord word ++ [c] :: splitFrom blank alone [] rest
    else splitFrom blank alone (c :: word) rest

/-- Cut a text at its blank characters, which are lost, and around the characters that stand alone.
No word is empty. -/
def splitWords (blank alone : Char → Bool) (text : List Char) : List (List Char) :=
  splitFrom blank alone [] text

theorem ne_nil_of_mem_closeWord {word w : List Char} (h : w ∈ closeWord word) : w ≠ [] := by
  unfold closeWord at h
  split at h
  · simp at h
  · rename_i hWord
    simp only [List.mem_singleton] at h
    subst h
    simpa using hWord

/-- No word is empty. -/
theorem ne_nil_of_mem_splitFrom {blank alone : Char → Bool} {text word w : List Char}
    (h : w ∈ splitFrom blank alone word text) : w ≠ [] := by
  induction text generalizing word with
  | nil => exact ne_nil_of_mem_closeWord h
  | cons c rest ih =>
    unfold splitFrom at h
    split at h
    · rcases List.mem_append.1 h with h | h
      · exact ne_nil_of_mem_closeWord h
      · exact ih h
    · split at h
      · rcases List.mem_append.1 h with h | h
        · exact ne_nil_of_mem_closeWord h
        · rcases List.mem_cons.1 h with h | h
          · simp [h]
          · exact ih h
      · exact ih h

/-- Tabs and line ends are control characters too, but separate words. -/
def isLineControl (c : Char) : Bool :=
  c == '\t' || c == '\n' || c == '\r'

/-- What becomes of a character that cannot be seen: blanks of every kind become plain spaces, and
what stands for nothing is dropped, the replacement character included. -/
def cleanChar (c : Char) : Option Char :=
  if isLineControl c then some ' '
  else if c.toNat = 0xFFFD || isControl c then none
  else if isBlank c then some ' '
  else some c

/-- Set ideographs off by spaces. -/
def spaceChar (c : Char) : List Char :=
  if isIdeograph c then [' ', c, ' '] else [c]

/-- Lower case without accents. The accents are taken off before the case changes. -/
def foldCase (text : List Char) : List Char :=
  ((decompose text).filter fun c => !isNonspacingMark c).flatMap lower

/-- The normal form of a text. Case and accents are kept unless `lowerCase` is set. -/
def normalize (lowerCase : Bool) (text : List Char) : List Char :=
  let spaced := (text.filterMap cleanChar).flatMap spaceChar
  if lowerCase then foldCase spaced else spaced

/-- The words of a text in normal form. -/
def words (lowerCase : Bool) (text : List Char) : List (List Char) :=
  splitWords isBlank isPunctuation (normalize lowerCase text)

end Pretext.Text
