import Pretext.FileTree
import Pretext.Text.Encoding
import Pretext.Vocabulary.WordPiece

/-! Vocabulary files, which list one entry on each line. -/
namespace Pretext.WordPiece

/-- The lines of a text, the first of which began with `line`, which is collected backwards. A line
ends at a line feed, and the text may end with one. -/
def linesFrom (line : List Char) : List Char → List (List Char)
  | [] => if line.isEmpty then [] else [line.reverse]
  | c :: rest =>
    if c = '\n' then line.reverse :: linesFrom [] rest else linesFrom (c :: line) rest

/-- A line without the blanks at its end, the carriage return among them. -/
def trimEnd (line : List Char) : List Char :=
  (line.reverse.dropWhile Unicode.isBlank).reverse

/-- The entries that the lines of a file spell. -/
def listed (text : List Char) : List String :=
  (linesFrom [] text).map fun line => String.ofList (trimEnd line)

/-- The entries with the numbers of their lines. Of equal entries only the last is kept. Lines are
counted from `number`. Their numbers are those of tokens, and start again from zero when all of them
are used up. -/
def lastCopies (number : TokenId) : List String → List (String × TokenId)
  | [] => []
  | entry :: rest =>
    if rest.contains entry then lastCopies (number + 1) rest
    else (entry, number) :: lastCopies (number + 1) rest

/-- Entries in the order of their numbers. Where entries have the same number, which takes more lines
than there are numbers, those of earlier lines come first. Nothing relies on that. -/
def inOrder (numbered : List (String × TokenId)) : List (String × TokenId) :=
  numbered.mergeSort fun first second => first.2 ≤ second.2

/-- The first entry whose number is not its place among the entries, with that place. Places are
counted from `place`. -/
def firstGap (place : Nat) : List (String × TokenId) → Option (String × Nat)
  | [] => none
  | (entry, number) :: rest =>
    if number.toNat = place then firstGap (place + 1) rest else some (entry, place)

theorem mem_of_mem_lastCopies {entries : List String} {number : TokenId} {entry : String}
    (h : entry ∈ (lastCopies number entries).map Prod.fst) : entry ∈ entries := by
  induction entries generalizing number with
  | nil => simp [lastCopies] at h
  | cons first rest ih =>
    unfold lastCopies at h
    split at h
    · exact List.mem_cons_of_mem _ (ih h)
    · rcases List.mem_cons.1 h with rfl | h
      · exact List.mem_cons_self ..
      · exact List.mem_cons_of_mem _ (ih h)

/-- The last copies are distinct. -/
theorem nodup_lastCopies (entries : List String) (number : TokenId) :
    ((lastCopies number entries).map Prod.fst).Nodup := by
  induction entries generalizing number with
  | nil => simp [lastCopies]
  | cons entry rest ih =>
    unfold lastCopies
    split
    · exact ih _
    · rename_i hRest
      refine List.nodup_cons.2 ⟨fun hMem => ?_, ih _⟩
      exact hRest (by simpa using mem_of_mem_lastCopies hMem)

theorem inOrder_perm (numbered : List (String × TokenId)) : (inOrder numbered).Perm numbered :=
  List.mergeSort_perm _ _

/-- The last copies stay distinct when they are put in order. -/
theorem nodup_inOrder (entries : List String) (number : TokenId) :
    ((inOrder (lastCopies number entries)).map Prod.fst).Nodup :=
  ((inOrder_perm _).map Prod.fst).nodup_iff.mpr (nodup_lastCopies entries number)

/-- A vocabulary of the lines of a text. Where lines are equal the last counts, which leaves the
numbers of the others without an entry: then the first entry behind such a gap is blamed, be it a
repeated one or not. -/
def ofListing (path : String) (text : List Char) (lowerCase : Bool) : Logged WordPiece :=
  let kept := inOrder (lastCopies 0 (listed text))
  match firstGap 0 kept with
  | some (entry, gap) => .ofExcept (.error (.configuration (.repeatedLine entry path gap)))
  | none => ofDistinct (kept.map Prod.fst) (nodup_inOrder _ _) lowerCase

/-- A vocabulary file as it was found: the bytes of its path, and its own bytes unless it has a
fault. -/
structure File where
  path : List UInt8
  bytes : Except FileFault (List UInt8)

/-- A vocabulary of the lines of a file. The path must be a text as well, for messages. -/
def ofFile (file : File) (lowerCase : Bool) : Logged WordPiece :=
  match Text.Utf8.decode? file.path with
  | none =>
    .ofExcept (.error (.configuration
      (.pathNotText (String.ofList (Text.Utf8.decodeLossy file.path)))))
  | some path =>
    let unreadable (fault : FileFault) : Logged WordPiece :=
      .ofExcept (.error (.configuration (.unreadableVocabulary (String.ofList path) fault)))
    match file.bytes with
    | .error fault => unreadable fault
    | .ok bytes =>
      match Text.Utf8.decode? bytes with
      | none => unreadable .notText
      | some text => ofListing (String.ofList path) text lowerCase

/-- A vocabulary of the lines of the file that a path leads to. -/
def ofPath (root home : FileTree) (path : List UInt8) (lowerCase : Bool) : Logged WordPiece :=
  ofFile ⟨path, root.read home path⟩ lowerCase

end Pretext.WordPiece
