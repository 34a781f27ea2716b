import FleetToken.Digest.Padding

/-!
# MD5

The 128-bit digest that names private reply inboxes. It separates identities; nothing is
authenticated by it.

## Main definitions

- `Digest.md5`: the digest of some bytes.
-/

namespace FleetToken.Digest

namespace Md5

/-- The four chaining words. -/
structure State where
  /-- The first word. -/
  a : UInt32
  /-- The second word. -/
  b : UInt32
  /-- The third word. -/
  c : UInt32
  /-- The fourth word. -/
  d : UInt32

/-- The words before the first block. -/
def initial : State :=
  ⟨0x67452301, 0xEFCDAB89, 0x98BADCFE, 0x10325476⟩

/-- The integer parts of `2 ^ 32 * |sin (i + 1)|`, one for each step. -/
def sines : List UInt32 :=
  [0xD76AA478, 0xE8C7B756, 0x242070DB, 0xC1BDCEEE, 0xF57C0FAF, 0x4787C62A, 0xA8304613, 0xFD469501,
   0x698098D8, 0x8B44F7AF, 0xFFFF5BB1, 0x895CD7BE, 0x6B901122, 0xFD987193, 0xA679438E, 0x49B40821,
   0xF61E2562, 0xC040B340, 0x265E5A51, 0xE9B6C7AA, 0xD62F105D, 0x02441453, 0xD8A1E681, 0xE7D3FBC8,
   0x21E1CDE6, 0xC33707D6, 0xF4D50D87, 0x455A14ED, 0xA9E3E905, 0xFCEFA3F8, 0x676F02D9, 0x8D2A4C8A,
   0xFFFA3942, 0x8771F681, 0x6D9D6122, 0xFDE5380C, 0xA4BEEA44, 0x4BDECFA9, 0xF6BB4B60, 0xBEBFBC70,
   0x289B7EC6, 0xEAA127FA, 0xD4EF3085, 0x04881D05, 0xD9D4D039, 0xE6DB99E5, 0x1FA27CF8, 0xC4AC5665,
   0xF4292244, 0x432AFF97, 0xAB9423A7, 0xFC93A039, 0x655B59C3, 0x8F0CCC92, 0xFFEFF47D, 0x85845DD1,
   0x6FA87E4F, 0xFE2CE6E0, 0xA3014314, 0x4E0811A1, 0xF7537E82, 0xBD3AF235, 0x2AD7D2BB, 0xEB86D391]

/-- How far step `i` rotates. -/
def rotation (i : Nat) : UInt32 :=
  match i / 16, i % 4 with
  | 0, 0 => 7 | 0, 1 => 12 | 0, 2 => 17 | 0, _ => 22
  | 1, 0 => 5 | 1, 1 => 9 | 1, 2 => 14 | 1, _ => 20
  | 2, 0 => 4 | 2, 1 => 11 | 2, 2 => 16 | 2, _ => 23
  | _, 0 => 6 | _, 1 => 10 | _, 2 => 15 | _, _ => 21

/-- Which word of the block step `i` takes. -/
def wordIndex (i : Nat) : Nat :=
  match i / 16 with
  | 0 => i
  | 1 => (5 * i + 1) % 16
  | 2 => (3 * i + 5) % 16
  | _ => 7 * i % 16

/-- The bitwise function of step `i`. -/
def mix (i : Nat) (s : State) : UInt32 :=
  match i / 16 with
  | 0 => (s.b &&& s.c) ||| (~~~s.b &&& s.d)
  | 1 => (s.d &&& s.b) ||| (~~~s.d &&& s.c)
  | 2 => s.b ^^^ s.c ^^^ s.d
  | _ => s.c ^^^ (s.b ||| ~~~s.d)

/-- One of the sixty-four steps on a block. -/
def step (words : Array UInt32) (s : State) (numbered : UInt32 × Nat) : State :=
  let (sine, i) := numbered
  let sum := s.a + mix i s + sine + words.getD (wordIndex i) 0
  let turn := rotation i
  ⟨s.d, s.b + ((sum <<< turn) ||| (sum >>> (32 - turn))), s.b, s.c⟩

/-- The chaining words after one more block. -/
def compress (s : State) (block : Bytes) : State :=
  let words := ((Bytes.blocks 4 block).map fun w => UInt32.ofNat w.toNatLittle).toArray
  let t := sines.zipIdx.foldl (step words) s
  ⟨s.a + t.a, s.b + t.b, s.c + t.c, s.d + t.d⟩

end Md5

/-- The MD5 digest, sixteen bytes. -/
def md5 (message : Bytes) : Bytes :=
  let blocks := Bytes.blocks 64 (padded 64 message (Bytes.ofNatLittle 8 (8 * message.length)))
  let s := blocks.foldl Md5.compress Md5.initial
  [s.a, s.b, s.c, s.d].flatMap fun word => Bytes.ofNatLittle 4 word.toNat

end FleetToken.Digest
