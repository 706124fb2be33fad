import Pretext.Random.Draw
import Pretext.Token

/-! How many positions of a sample are to be masked, and what is put in place of their tokens. -/
namespace Pretext

/-- The number of 64 bits that is nearest to a double, of two the greater. What is less than 0 or no
number at all counts as 0. -/
def nearest (x : Float) : Nat :=
  let whole := x.toUInt64
  if 0.5 ≤ x - whole.toFloat then min (whole.toNat + 1) (UInt64.size - 1) else whole.toNat

/-- How many positions of a frame are to be masked, given how many it has and how many of them hold
payload. The rate applies to the payload, of which one position at least is wanted, but no more
than the rate of the whole frame. -/
def maskBudget (rate : Float) (length payload : Nat) : Nat :=
  min (rate * length.toUInt64.toFloat).toUInt64.toNat
    (max (nearest (payload.toUInt64.toFloat * rate)) 1)

/-- The shares of the positions that get the mask and a random token. The others keep their
token. -/
structure NoisePolicy where
  maskShare : Float
  randomShare : Float
deriving DecidableEq

/-- Four positions of five get the mask, and one of ten a random token. -/
def NoisePolicy.standard : NoisePolicy := ⟨0.8, 0.1⟩

/-- What is put in place of `token`. If there is nothing to choose from, a token that should be
random stays. -/
def NoisePolicy.draw (policy : NoisePolicy) (mask : TokenId) (replacements : List TokenId)
    (token : TokenId) (g : Generator) : TokenId × Generator :=
  let (fraction, g) := g.unit
  if fraction < policy.maskShare then (mask, g)
  else if fraction < policy.maskShare + policy.randomShare then
    let (replacement, g) := g.choose replacements
    (replacement.getD token, g)
  else (token, g)

end Pretext
