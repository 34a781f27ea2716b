import FleetToken.Digest.Padding

/-!
# SHA-2

The digests that signatures are made over. One scheme works on 32-bit words (SHA-256) and on
64-bit words (SHA-384, SHA-512); its constants are the first bits of the fractions of roots of
primes, so that those of the narrow words begin those of the wide ones.

## Main definitions

- `Digest.sha256`, `Digest.sha384`, `Digest.sha512`: the digests of some bytes.
-/

namespace FleetToken.Digest

namespace Sha2

/-- The eight chaining words. -/
structure State (W : Type) where
  a : W
  b : W
  c : W
  d : W
  e : W
  f : W
  g : W
  h : W

/-- What the two word sizes have of their own. -/
structure Rules (W : Type) where
  /-- One constant for each round. -/
  constants : List W
  /-- The function of the first chaining word in a round. -/
  upper : W → W
  /-- The function of the fifth chaining word in a round. -/
  lower : W → W
  /-- The function of an old word in the schedule. -/
  older : W → W
  /-- The function of a recent word in the schedule. -/
  newer : W → W
  /-- The word that some bytes write. -/
  ofBytes : Bytes → W

variable {W : Type} [Add W] [XorOp W] [AndOp W] [Complement W]

/-- One round, with the next word of the schedule and the round's constant. -/
def round (rules : Rules W) (s : State W) (word constant : W) : State W :=
  let choice := (s.e &&& s.f) ^^^ (~~~s.e &&& s.g)
  let majority := (s.a &&& s.b) ^^^ (s.a &&& s.c) ^^^ (s.b &&& s.c)
  let first := s.h + rules.lower s.e + choice + constant + word
  let second := rules.upper s.a + majority
  ⟨first + second, s.a, s.b, s.c, s.d + first, s.e, s.f, s.g⟩

/-- The sixteen words of the schedule from the next one on. -/
def slide (rules : Rules W) : List W → List W
  | w₀ :: w₁ :: rest =>
    match rest.drop 7, rest.drop 12 with
    | w₉ :: _, w₁₄ :: _ => w₁ :: rest ++ [rules.newer w₁₄ + w₉ + rules.older w₁ + w₀]
    | _, _ => w₁ :: rest
  | window => window

/-- The rounds for the given constants, where `window` holds the next sixteen words. -/
def rounds (rules : Rules W) : List W → List W → State W → State W
  | constant :: constants, word :: window, s =>
    rounds rules constants (slide rules (word :: window)) (round rules s word constant)
  | _, _, s => s

/-- The chaining words after one more block. -/
def compress (rules : Rules W) (s : State W) (words : List W) : State W :=
  let t := rounds rules rules.constants words s
  ⟨s.a + t.a, s.b + t.b, s.c + t.c, s.d + t.d, s.e + t.e, s.f + t.f, s.g + t.g, s.h + t.h⟩

/-- The chaining words as a list. -/
def State.toList (s : State W) : List W :=
  [s.a, s.b, s.c, s.d, s.e, s.f, s.g, s.h]

/-- The chaining words after a message, for words of `width` bytes. -/
def run (rules : Rules W) (width : Nat) (start : State W) (message : Bytes) : List W :=
  let bitLength := Bytes.ofNatBig (2 * width) (8 * message.length)
  let blocks := Bytes.blocks (16 * width) (padded (16 * width) message bitLength)
  (blocks.foldl (fun s block =>
    compress rules s ((Bytes.blocks width block).map rules.ofBytes)) start).toList

/-- The first 64 bits of the fractions of the cube roots of the first eighty primes. -/
def cubeRoots : List UInt64 :=
  [0x428A2F98D728AE22, 0x7137449123EF65CD, 0xB5C0FBCFEC4D3B2F, 0xE9B5DBA58189DBBC,
   0x3956C25BF348B538, 0x59F111F1B605D019, 0x923F82A4AF194F9B, 0xAB1C5ED5DA6D8118,
   0xD807AA98A3030242, 0x12835B0145706FBE, 0x243185BE4EE4B28C, 0x550C7DC3D5FFB4E2,
   0x72BE5D74F27B896F, 0x80DEB1FE3B1696B1, 0x9BDC06A725C71235, 0xC19BF174CF692694,
   0xE49B69C19EF14AD2, 0xEFBE4786384F25E3, 0x0FC19DC68B8CD5B5, 0x240CA1CC77AC9C65,
   0x2DE92C6F592B0275, 0x4A7484AA6EA6E483, 0x5CB0A9DCBD41FBD4, 0x76F988DA831153B5,
   0x983E5152EE66DFAB, 0xA831C66D2DB43210, 0xB00327C898FB213F, 0xBF597FC7BEEF0EE4,
   0xC6E00BF33DA88FC2, 0xD5A79147930AA725, 0x06CA6351E003826F, 0x142929670A0E6E70,
   0x27B70A8546D22FFC, 0x2E1B21385C26C926, 0x4D2C6DFC5AC42AED, 0x53380D139D95B3DF,
   0x650A73548BAF63DE, 0x766A0ABB3C77B2A8, 0x81C2C92E47EDAEE6, 0x92722C851482353B,
   0xA2BFE8A14CF10364, 0xA81A664BBC423001, 0xC24B8B70D0F89791, 0xC76C51A30654BE30,
   0xD192E819D6EF5218, 0xD69906245565A910, 0xF40E35855771202A, 0x106AA07032BBD1B8,
   0x19A4C116B8D2D0C8, 0x1E376C085141AB53, 0x2748774CDF8EEB99, 0x34B0BCB5E19B48A8,
   0x391C0CB3C5C95A63, 0x4ED8AA4AE3418ACB, 0x5B9CCA4F7763E373, 0x682E6FF3D6B2B8A3,
   0x748F82EE5DEFB2FC, 0x78A5636F43172F60, 0x84C87814A1F0AB72, 0x8CC702081A6439EC,
   0x90BEFFFA23631E28, 0xA4506CEBDE82BDE9, 0xBEF9A3F7B2C67915, 0xC67178F2E372532B,
   0xCA273ECEEA26619C, 0xD186B8C721C0C207, 0xEADA7DD6CDE0EB1E, 0xF57D4F7FEE6ED178,
   0x06F067AA72176FBA, 0x0A637DC5A2C898A6, 0x113F9804BEF90DAE, 0x1B710B35131C471B,
   0x28DB77F523047D84, 0x32CAAB7B40C72493, 0x3C9EBE0A15C9BEBC, 0x431D67C49C100D4C,
   0x4CC5D4BECB3E42B6, 0x597F299CFC657E2A, 0x5FCB6FAB3AD6FAEC, 0x6C44198C4A475817]

/-- The 32-bit word `x` rotated to the right. -/
def rotate32 (x n : UInt32) : UInt32 :=
  (x >>> n) ||| (x <<< (32 - n))

/-- The 64-bit word `x` rotated to the right. -/
def rotate64 (x n : UInt64) : UInt64 :=
  (x >>> n) ||| (x <<< (64 - n))

/-- The rules for 32-bit words. -/
def narrow : Rules UInt32 where
  constants := (cubeRoots.take 64).map fun (k : UInt64) => (k >>> 32).toUInt32
  upper x := rotate32 x 2 ^^^ rotate32 x 13 ^^^ rotate32 x 22
  lower x := rotate32 x 6 ^^^ rotate32 x 11 ^^^ rotate32 x 25
  older x := rotate32 x 7 ^^^ rotate32 x 18 ^^^ (x >>> 3)
  newer x := rotate32 x 17 ^^^ rotate32 x 19 ^^^ (x >>> 10)
  ofBytes bytes := UInt32.ofNat bytes.toNatBig

/-- The rules for 64-bit words. -/
def wide : Rules UInt64 where
  constants := cubeRoots
  upper x := rotate64 x 28 ^^^ rotate64 x 34 ^^^ rotate64 x 39
  lower x := rotate64 x 14 ^^^ rotate64 x 18 ^^^ rotate64 x 41
  older x := rotate64 x 1 ^^^ rotate64 x 8 ^^^ (x >>> 7)
  newer x := rotate64 x 19 ^^^ rotate64 x 61 ^^^ (x >>> 6)
  ofBytes bytes := UInt64.ofNat bytes.toNatBig

/-- The start of SHA-512: the fractions of the square roots of the first eight primes. -/
def start512 : State UInt64 where
  a := 0x6A09E667F3BCC908
  b := 0xBB67AE8584CAA73B
  c := 0x3C6EF372FE94F82B
  d := 0xA54FF53A5F1D36F1
  e := 0x510E527FADE682D1
  f := 0x9B05688C2B3E6C1F
  g := 0x1F83D9ABFB41BD6B
  h := 0x5BE0CD19137E2179

/-- The start of SHA-384: the fractions of the square roots of the next eight primes. -/
def start384 : State UInt64 where
  a := 0xCBBB9D5DC1059ED8
  b := 0x629A292A367CD507
  c := 0x9159015A3070DD17
  d := 0x152FECD8F70E5939
  e := 0x67332667FFC00B31
  f := 0x8EB44A8768581511
  g := 0xDB0C2E0D64F98FA7
  h := 0x47B5481DBEFA4FA4

/-- The start of SHA-256: the upper halves of the words that SHA-512 starts from. -/
def start256 : State UInt32 where
  a := (start512.a >>> 32).toUInt32
  b := (start512.b >>> 32).toUInt32
  c := (start512.c >>> 32).toUInt32
  d := (start512.d >>> 32).toUInt32
  e := (start512.e >>> 32).toUInt32
  f := (start512.f >>> 32).toUInt32
  g := (start512.g >>> 32).toUInt32
  h := (start512.h >>> 32).toUInt32

/-- The bytes of 64-bit words. -/
def bytes64 (words : List UInt64) : Bytes :=
  words.flatMap fun word => Bytes.ofNatBig 8 word.toNat

end Sha2

/-- The SHA-256 digest, thirty-two bytes. -/
def sha256 (message : Bytes) : Bytes :=
  (Sha2.run Sha2.narrow 4 Sha2.start256 message).flatMap fun word => Bytes.ofNatBig 4 word.toNat

/-- The SHA-384 digest, forty-eight bytes. -/
def sha384 (message : Bytes) : Bytes :=
  Sha2.bytes64 ((Sha2.run Sha2.wide 8 Sha2.start384 message).take 6)

/-- The SHA-512 digest, sixty-four bytes. -/
def sha512 (message : Bytes) : Bytes :=
  Sha2.bytes64 (Sha2.run Sha2.wide 8 Sha2.start512 message)

end FleetToken.Digest
