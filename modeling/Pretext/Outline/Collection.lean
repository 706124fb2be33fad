import Pretext.Collection.Pairs
import Pretext.Unicode.Unprintable
import Pretext.Vocabulary.WordPiece

/-! Outlines: values on one line, for people who look for a fault. Nothing reads them back. There are
outlines of blocks and samples, of what they are made with, and of collections and their settings. -/
namespace Pretext

namespace Outline

/-- A character of a quoted text. What has no shape is shown by its code. -/
def quotedChar (c : Char) : String :=
  if c.toNat = 0 then "\\0"
  else if c = '\t' then "\\t"
  else if c = '\n' then "\\n"
  else if c = '\r' then "\\r"
  else if c = '"' then "\\\""
  else if c = '\\' then "\\\\"
  else if Unicode.isUnprintable c then
    "\\u\x7b" ++ String.ofList (Nat.toDigits 16 c.toNat) ++ "\x7d"
  else String.singleton c

/-- A text in quotes. -/
def quote (text : String) : String :=
  "\"" ++ String.join (text.toList.map quotedChar) ++ "\""

/-- Parts with commas between them. -/
def separated : List String → String
  | [] => ""
  | [part] => part
  | part :: rest => part ++ ", " ++ separated rest

/-- A list. -/
def list {α : Type} (item : α → String) (items : List α) : String :=
  "[" ++ separated (items.map item) ++ "]"

/-- Something that may be missing. -/
def option {α : Type} (shown : α → String) : Option α → String
  | none => "None"
  | some value => "Some(" ++ shown value ++ ")"

/-- A record with all of its fields. -/
def record (name : String) (fields : List (String × String)) : String :=
  name ++ " \x7b " ++ separated (fields.map fun field => field.1 ++ ": " ++ field.2) ++ " \x7d"

/-- A record of which some fields are not shown. -/
def openRecord (name : String) (fields : List (String × String)) : String :=
  name ++ " \x7b "
    ++ separated (fields.map (fun field => field.1 ++ ": " ++ field.2) ++ [".."]) ++ " \x7d"

/-- A double. -/
def float (x : Float) : String :=
  Decimal.Layout.explicit.float x

/-- A list of numbers. -/
def numbers {α : Type} [ToString α] (items : List α) : String :=
  list toString items

end Outline

open Outline

def Window.outline (window : Window) : String :=
  record "BlockWindow" [("start_idx", toString window.start), ("end_idx", toString window.stop),
    ("doc_idx", toString window.document), ("block_idx", toString window.block)]

def Rows.outline (rows : Rows) : String :=
  record "SampleMapping" [("rows", list Window.outline rows.windows)]

/-- The vocabulary of the second tokenization is not shown. -/
def Alternate.outline (alternate : Alternate) : String :=
  openRecord "Tokens" [("sentences", list numbers alternate.sentences)]

def Block.outline (block : Block) : String :=
  let auxiliary := match block.auxiliary with
    | none => "None"
    | some values => "Values(" ++ list numbers values ++ ")"
  let alternate := match block.alternate with
    | none => "None"
    | some alternate => alternate.outline
  record "AssembledBlock" [("window", block.window.outline),
    ("sentences", list numbers block.sentences), ("aux", auxiliary), ("alt", alternate)]

/-- Of stores only the sizes are shown, and of channels whether there are any. -/
def Archive.outline (archive : Archive) : String :=
  record "BlockAssembler" [("blocks", toString archive.blocks.size),
    ("titles", toString archive.titles.size), ("aux", toString archive.auxiliary.isSome),
    ("alt", toString archive.alternate.isSome)]

def Generator.outline (g : Generator) : String :=
  record "DeterministicRng" [("state", toString g.state)]

def SpecialIds.outline (special : SpecialIds) : String :=
  record "SpecialTokenIds" [("cls", toString special.cls), ("sep", toString special.sep),
    ("mask", toString special.mask), ("pad", toString special.pad), ("unk", toString special.unk)]

/-- Of the entries only the number is shown. -/
def WordPiece.outline (vocab : WordPiece) : String :=
  openRecord "WordPieceVocab" [("vocab_size", toString vocab.entries.length),
    ("lower_case", toString vocab.lowerCase), ("special", vocab.special.outline)]

def Framed.outline (framed : Framed) : String :=
  record "FramedSequence" [("tokens", numbers framed.tokens), ("pad_mask", numbers framed.padMask)]

def MaskedSample.outline (sample : MaskedSample) : String :=
  record "MaskedLmSample" [("tokens", numbers sample.tokens),
    ("pad_mask", numbers sample.padMask), ("labels", numbers sample.labels),
    ("loss_mask", numbers sample.lossMask), ("token_types", numbers sample.segments),
    ("query_block_indices", numbers sample.blocks)]

def PairSample.outline (sample : PairSample) : String :=
  record "IctSample" [("query_tokens", numbers sample.query.tokens),
    ("query_pad_mask", numbers sample.query.padMask),
    ("block_tokens", numbers sample.block.tokens),
    ("block_pad_mask", numbers sample.block.padMask), ("block_data", numbers sample.origin)]

def Frame.outline (frame : Frame) : String :=
  record "Framer" [("cls", toString frame.cls), ("sep", toString frame.sep),
    ("pad", toString frame.pad), ("max_seq_length", toString frame.length)]

def Splitter.outline (splitter : Splitter) : String :=
  record "QueryBlockSplitter" [("framer", splitter.frame.outline),
    ("query_in_block_prob", float splitter.keepRate)]

def NoisePolicy.outline (policy : NoisePolicy) : String :=
  record "MaskingPolicy" [("mask_token_prob", float policy.maskShare),
    ("random_token_prob", float policy.randomShare)]

def Settings.outline (settings : Settings) : String :=
  record "DatasetConfig" [("name", quote settings.name),
    ("data_prefix", quote settings.dataPrefix), ("seed", toString settings.seed),
    ("max_seq_length", toString settings.length), ("masked_lm_prob", float settings.maskedRate),
    ("short_seq_prob", float settings.shortRate), ("query_in_block_prob", float settings.keepRate),
    ("use_titles", toString settings.useTitles), ("num_epochs", option toString settings.epochs),
    ("max_num_samples", option toString settings.samples), ("masking", settings.noise.outline)]

def MaskedCollection.outline (collection : MaskedCollection) : String :=
  openRecord "RealmDataset" [("name", quote collection.name), ("seed", toString collection.seed),
    ("rows", toString collection.rows.length), ("assembler", collection.archive.outline)]

def PairCollection.outline (collection : PairCollection) : String :=
  openRecord "IctDataset" [("name", quote collection.name), ("seed", toString collection.seed),
    ("use_titles", toString collection.useTitles), ("rows", toString collection.rows.length),
    ("splitter", collection.splitter.outline)]

end Pretext
