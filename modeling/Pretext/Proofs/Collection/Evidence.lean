import Pretext.Proofs.Block.Basic
import Pretext.Proofs.Collection.Pairs

/-! The block that a query should find is framed like the block of its pair. Where the query stays in
its block the two are the same, and where it is taken out and nothing is cut, one is the other
without the query. -/
namespace Pretext

/-- A block of three sentences under a title, in a frame that it just fits in. -/
def Framed.tight : Framed where
  tokens := [2, 5, 3, 5, 6, 7, 8, 9, 7, 3]
  padMask := [1, 1, 1, 1, 1, 1, 1, 1, 1, 1]

/-- The same block without the sentence in the middle. -/
def Framed.loose : Framed where
  tokens := [2, 5, 3, 5, 6, 7, 7, 3, 0, 0]
  padMask := [1, 1, 1, 1, 1, 1, 1, 1, 0, 0]

/-- The pair of the sentence in the middle and a block. -/
def PairSample.middle (block : Framed) : PairSample where
  query := ⟨[2, 8, 9, 3, 0, 0, 0, 0, 0, 0], [1, 1, 1, 1, 0, 0, 0, 0, 0, 0]⟩
  block := block
  origin := [0, 3, 0, 0]

namespace PairCollection

variable {collection : PairCollection} {start stop document row : UInt64} {sentences : List Sentence}
  {title : Sentence} {framed : Framed} {sample : PairSample}

/-- Evidence is read in this order: the sentences, then the title, and then both are framed. -/
theorem result_evidence (collection : PairCollection) (start stop document : UInt64) :
    (collection.evidence start stop document).result =
      (collection.archive.sentences start stop).bind fun sentences =>
        (collection.archive.title document).bind fun title =>
          collection.splitter.frame.fillFrom sentences (some title) := by
  simp only [evidence, Logged.result_bind, Logged.result_liftM, result_title]
  rfl

/-- Where sentences and title can be read, what does not fit behind the title is cut off. -/
theorem result_evidence_eq (hSentences : collection.archive.sentences start stop = .ok sentences)
    (hTitle : collection.archive.title document = .ok title) :
    (collection.evidence start stop document).result =
      collection.splitter.frame.fill (sentences.flatten.take
        (collection.splitter.frame.room (some title))) (some title) := by
  rw [result_evidence, hSentences, hTitle]
  rfl

/-- A framed block has the title of its document and as much of its sentences as there is room for. -/
theorem exists_of_evidence (h : (collection.evidence start stop document).result = .ok framed) :
    ∃ sentences title, collection.archive.sentences start stop = .ok sentences
      ∧ collection.archive.title document = .ok title
      ∧ collection.splitter.frame.Holds (sentences.flatten.take
          (collection.splitter.frame.room (some title))) (some title) framed := by
  rw [result_evidence] at h
  obtain ⟨sentences, hSentences, h⟩ := bind_eq_ok_iff.mp h
  obtain ⟨title, hTitle, h⟩ := bind_eq_ok_iff.mp h
  exact ⟨sentences, title, hSentences, hTitle, Frame.holds_of_fill h⟩

theorem exists_of_title? (hTitles : collection.useTitles = true) {heading : Option Sentence}
    (h : (collection.title? document).result = .ok heading) :
    ∃ title, heading = some title ∧ collection.archive.title document = .ok title := by
  rw [title?, if_pos hTitles, Logged.result_bind, result_title] at h
  obtain ⟨title, hTitle, h⟩ := bind_eq_ok_iff.mp h
  exact ⟨title, (Except.ok.inj h).symm, hTitle⟩

/-- A pair with titles is made of the sentences of its row and the title of their document. -/
theorem exists_of_get (hTitles : collection.useTitles = true)
    (h : (collection.get row).result = .ok sample) :
    ∃ window title, collection.rows.windows[row.toNat]? = some window
      ∧ collection.archive.sentences window.start window.stop =
        .ok (collection.archive.blocks.within window)
      ∧ collection.archive.title window.document = .ok title
      ∧ (collection.splitter.split
          (.ofSentences window (collection.archive.blocks.within window)) (some title)
          (.ofRow collection.seed row)).1 = .ok sample := by
  rw [result_get] at h
  obtain ⟨window, hRow, h⟩ := bind_eq_ok_iff.mp h
  obtain ⟨block, hBlock, h⟩ := bind_eq_ok_iff.mp h
  obtain ⟨heading, hHeading, h⟩ := bind_eq_ok_iff.mp h
  obtain ⟨title, rfl, hTitle⟩ := exists_of_title? hTitles hHeading
  obtain rfl := Archive.eq_of_primary hBlock
  exact ⟨window, title, Rows.getElem?_of_get hRow, Archive.sentences_of_primary hBlock, hTitle, h⟩

/-- Wherever there is a pair with titles, there is the block that its query should find. If the query
stays, it is the block of the pair. If the query is taken out and the frame has room for all of the
block, the block of the pair is what is left of it without the query. -/
theorem evidence_of_get (hTitles : collection.useTitles = true)
    (h : (collection.get row).result = .ok sample) :
    ∃ window title evidence, collection.rows.windows[row.toNat]? = some window
      ∧ collection.archive.title window.document = .ok title
      ∧ (collection.evidence window.start window.stop window.document).result = .ok evidence
      ∧ let block := Block.ofSentences window (collection.archive.blocks.within window)
        let g := Generator.ofRow collection.seed row
        let before := (block.sentences.take (block.drawn g)).flatten
        let behind := (block.sentences.drop (block.drawn g + 1)).flatten
        (collection.splitter.keeps block g = true → sample.block = evidence)
          ∧ (collection.splitter.keeps block g = false →
            3 + title.length + block.sentences.flatten.length ≤ collection.splitter.frame.length →
            block.sentences[block.drawn g]? = some (sample.query.payload none)
              ∧ evidence.payload (some title) = before ++ (sample.query.payload none ++ behind)
              ∧ sample.block.payload (some title) = before ++ behind) := by
  obtain ⟨window, title, hRow, hSentences, hTitle, hSplit⟩ := exists_of_get hTitles h
  obtain ⟨query, hQuery, hPairs⟩ := Splitter.exists_pairs_of_split hSplit
  have hRoom := Nat.le_of_add_left_le hPairs.block_holds.le
  obtain ⟨evidence, hFill, hHolds⟩ := Frame.fill_take_of_le collection.splitter.frame
    (collection.archive.blocks.within window).flatten (some title) hRoom
  refine ⟨window, title, evidence, hRow, hTitle, ?_, ?_⟩
  · rw [result_evidence_eq hSentences hTitle, hFill]
  · dsimp only
    constructor
    · intro hKeeps
      rw [hKeeps] at hPairs
      exact hPairs.block_holds.eq hHolds
    · intro hTaken hFits
      rw [hTaken] at hPairs
      obtain ⟨hQueryPayload, hPayload⟩ := hPairs.payload_eq hQuery hFits
      refine ⟨by rw [hQueryPayload, hQuery], ?_, hPayload⟩
      rw [hHolds.payload_eq, hQueryPayload, ← flatten_eq_append hQuery]
      apply List.take_of_length_le
      have hOverhead : frameOverhead (some title) = 3 + title.length := rfl
      rw [Frame.room, hOverhead]
      exact Nat.le_sub_of_add_le' hFits

/-- One row, in frames that its block just fits in. -/
def tight (keepRate : Float) : PairCollection :=
  opened { Settings.standard with length := 10, keepRate := keepRate } Masker.tiny.vocabulary .tiny
    .strayed

theorem evidence_of_get_tight :
    ((tight 1).get 0).result = .ok (.middle .tight)
      ∧ ((tight 1).evidence 0 3 0).result = .ok .tight
      ∧ ((tight 0).get 0).result = .ok (.middle .loose)
      ∧ ∃ evidence, ((tight 0).evidence 0 3 0).result = .ok evidence
        ∧ evidence.payload (some [5]) = [5, 6, 7] ++ ([8, 9] ++ [7])
        ∧ Framed.loose.payload (some [5]) = [5, 6, 7] ++ [7] := by
  have hKept : ((tight 1).get 0).result = .ok (.middle .tight) := by decide +kernel
  have hTaken : ((tight 0).get 0).result = .ok (.middle .loose) := by decide +kernel
  refine ⟨hKept, ?_, hTaken, ?_⟩
  · obtain ⟨window, title, evidence, hRow, -, hEvidence, hSame, -⟩ := evidence_of_get rfl hKept
    cases hRow
    rw [hEvidence, ← hSame (by decide +kernel)]
    rfl
  · obtain ⟨window, title, evidence, hRow, hTitle, hEvidence, -, hCut⟩ := evidence_of_get rfl hTaken
    cases hRow
    cases hTitle
    obtain ⟨-, hWhole, hRest⟩ := hCut (by decide +kernel) (by decide)
    refine ⟨evidence, hEvidence, hWhole.trans ?_, hRest.trans ?_⟩
    · decide +kernel
    · decide +kernel

end PairCollection

end Pretext
