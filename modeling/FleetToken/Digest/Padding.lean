import FleetToken.Bytes.Basic

/-!
# Padding of hashed messages

A message is hashed in blocks. It is followed by a one bit, by zeros, and by its length in bits
at the end of the last block.

## Main definitions

- `Digest.padded`: the padded message.
-/

namespace FleetToken.Digest

/-- The message with padding to a multiple of `block` bytes, of which `bitLength` are the last. -/
def padded (block : Nat) (message bitLength : Bytes) : Bytes :=
  let zeros := (block - (message.length + 1 + bitLength.length) % block) % block
  message ++ 0x80 :: List.replicate zeros 0x00 ++ bitLength

end FleetToken.Digest
