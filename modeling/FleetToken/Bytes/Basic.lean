/-!
# Bytes

Keys, seeds, signatures and token segments are lists of bytes.

## Main definitions

- `Bytes`: a list of bytes.
- `Bytes.toNatBig`, `Bytes.ofNatBig`: numbers with the most significant byte first.
- `Bytes.toNatLittle`, `Bytes.ofNatLittle`: numbers with the least significant byte first.
-/

namespace FleetToken

/-- Bytes in order. -/
abbrev Bytes := List UInt8

namespace Bytes

/-- The ASCII characters of a string as bytes. -/
def ofAscii (s : String) : Bytes :=
  s.toList.map fun c => UInt8.ofNat c.toNat

/-- The number that bytes write, the most significant byte first. -/
def toNatBig (bytes : Bytes) : Nat :=
  bytes.foldl (fun n b => n * 0x100 + b.toNat) 0

/-- The number that bytes write, the least significant byte first. -/
def toNatLittle : Bytes → Nat
  | [] => 0
  | b :: rest => b.toNat + 0x100 * toNatLittle rest

/-- The last `width` bytes of a number, the least significant first. -/
def ofNatLittle : Nat → Nat → Bytes
  | 0, _ => []
  | width + 1, n => UInt8.ofNat (n % 0x100) :: ofNatLittle width (n / 0x100)

/-- The last `width` bytes of a number, the most significant first. -/
def ofNatBig (width n : Nat) : Bytes :=
  (ofNatLittle width n).reverse

/-- Cuts bytes into blocks of `size`, of which the last may be shorter. -/
def blocks (size : Nat) (bytes : Bytes) : List Bytes :=
  go size bytes.length bytes
where
  /-- At most `count` blocks. -/
  go (size : Nat) : Nat → Bytes → List Bytes
    | 0, _ => []
    | _, [] => []
    | count + 1, bytes => bytes.take size :: go size count (bytes.drop size)

/-- What follows `front` in the bytes, if they begin with it. -/
def after? : Bytes → Bytes → Option Bytes
  | [], rest => some rest
  | _ :: _, [] => none
  | f :: front, b :: rest => if f = b then after? front rest else none

/-- What stands before and after the first place where the bytes hold `part`. -/
def cut? (part : Bytes) : Bytes → Option (Bytes × Bytes)
  | [] => if part.isEmpty then some ([], []) else none
  | b :: rest =>
    match after? part (b :: rest) with
    | some tail => some ([], tail)
    | none => (cut? part rest).map fun (front, tail) => (b :: front, tail)

/-- Whether `part` stands somewhere in the bytes. -/
def includes (part : Bytes) : Bytes → Bool
  | [] => part.isEmpty
  | b :: rest => (after? part (b :: rest)).isSome || includes part rest

end Bytes

end FleetToken
