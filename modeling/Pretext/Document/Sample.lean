import Pretext.InverseCloze.Pair
import Pretext.Json.Value
import Pretext.Masked.Sample

/-! Samples as documents. -/
namespace Pretext

open Json

/-- Write numbers as an array. -/
def numbersToJson {α : Type} [ToString α] (numbers : List α) : String :=
  array (numbers.map toString)

namespace SpecialIds

/-- Write special tokens. -/
def toJson (special : SpecialIds) : String :=
  object [("cls", toString special.cls), ("sep", toString special.sep),
    ("mask", toString special.mask), ("pad", toString special.pad), ("unk", toString special.unk)]

/-- Read special tokens. All of them must be there. -/
def ofJson? (value : Value) : Option SpecialIds := do
  match ← value.fields? ["cls", "sep", "mask", "pad", "unk"] with
  | [cls, sep, mask, pad, unk] =>
    return {
      cls := ← required cls Value.uint32?
      sep := ← required sep Value.uint32?
      mask := ← required mask Value.uint32?
      pad := ← required pad Value.uint32?
      unk := ← required unk Value.uint32? }
  | _ => none

end SpecialIds

namespace Framed

/-- Write a framed sequence. -/
def toJson (framed : Framed) : String :=
  object [("tokens", numbersToJson framed.tokens), ("pad_mask", numbersToJson framed.padMask)]

/-- Read a framed sequence. Nothing keeps the mask from being of another length. -/
def ofJson? (value : Value) : Option Framed := do
  match ← value.fields? ["tokens", "pad_mask"] with
  | [tokens, padMask] =>
    return {
      tokens := ← required tokens (Value.list? Value.uint32?)
      padMask := ← required padMask (Value.list? Value.uint8?) }
  | _ => none

end Framed

namespace MaskedSample

/-- The names of the fields in a document. -/
def fieldNames : List String :=
  ["tokens", "pad_mask", "labels", "loss_mask", "token_types", "query_block_indices"]

/-- Write a masked sample. -/
def toJson (sample : MaskedSample) : String :=
  object (fieldNames.zip [numbersToJson sample.tokens, numbersToJson sample.padMask,
    numbersToJson sample.labels, numbersToJson sample.lossMask, numbersToJson sample.segments,
    numbersToJson sample.blocks])

/-- Read a masked sample. -/
def ofJson? (value : Value) : Option MaskedSample := do
  match ← value.fields? fieldNames with
  | [tokens, padMask, labels, lossMask, segments, blocks] =>
    return {
      tokens := ← required tokens (Value.list? Value.uint32?)
      padMask := ← required padMask (Value.list? Value.uint8?)
      labels := ← required labels (Value.list? Value.int64?)
      lossMask := ← required lossMask (Value.list? Value.uint8?)
      segments := ← required segments (Value.list? Value.uint8?)
      blocks := ← required blocks (Value.list? Value.int64?) }
  | _ => none

end MaskedSample

namespace PairSample

/-- The names of the fields in a document. -/
def fieldNames : List String :=
  ["query_tokens", "query_pad_mask", "block_tokens", "block_pad_mask", "block_data"]

/-- Write a pair. -/
def toJson (sample : PairSample) : String :=
  object (fieldNames.zip [numbersToJson sample.query.tokens, numbersToJson sample.query.padMask,
    numbersToJson sample.block.tokens, numbersToJson sample.block.padMask,
    numbersToJson sample.origin])

/-- Read a pair. There must be exactly four numbers of the window. -/
def ofJson? (value : Value) : Option PairSample := do
  match ← value.fields? fieldNames with
  | [queryTokens, queryPadMask, blockTokens, blockPadMask, origin] =>
    let sample : PairSample := {
      query.tokens := ← required queryTokens (Value.list? Value.uint32?)
      query.padMask := ← required queryPadMask (Value.list? Value.uint8?)
      block.tokens := ← required blockTokens (Value.list? Value.uint32?)
      block.padMask := ← required blockPadMask (Value.list? Value.uint8?)
      origin := ← required origin (Value.list? Value.int64?) }
    if sample.origin.length = 4 then some sample else none
  | _ => none

end PairSample

namespace NoisePolicy

/-- Write a noise policy. -/
def toJson (policy : NoisePolicy) : String :=
  object [("mask_token_prob", Json.float policy.maskShare),
    ("random_token_prob", Json.float policy.randomShare)]

/-- Read a noise policy. A share that is missing is that of the standard policy. -/
def ofJson? (value : Value) : Option NoisePolicy := do
  match ← value.fields? ["mask_token_prob", "random_token_prob"] with
  | [maskShare, randomShare] =>
    return {
      maskShare := ← defaulted maskShare standard.maskShare Value.float?
      randomShare := ← defaulted randomShare standard.randomShare Value.float? }
  | _ => none

end NoisePolicy

end Pretext
