import FleetToken.Bytes.Basic
import FleetToken.Digest.Sha2
import FleetToken.Number.Modular

/-!
# Ed25519

Signatures over the twisted Edwards curve `-x² + y² = 1 + d x² y²` modulo `2²⁵⁵ - 19`. Signing is
deterministic. A signature is accepted if its scalar is below the group order and the point it
commits to has exactly the bytes that the equation gives.

## Main definitions

- `Ed25519.Seed`, `Ed25519.PublicKey`: the two halves of a key, thirty-two bytes each.
- `Ed25519.Seed.publicKey`: the public half of a seed.
- `Ed25519.sign`, `Ed25519.verify`: signatures of sixty-four bytes.
-/

namespace FleetToken.Ed25519

/-- The bytes of a seed, and of a public key. -/
def keySize : Nat := 32

/-- The bytes of a signature. -/
def signatureSize : Nat := 64

/-- The private half of a key. -/
structure Seed where
  /-- The bytes of the seed. -/
  bytes : Bytes
  /-- A seed has thirty-two bytes. -/
  length_eq : bytes.length = keySize
deriving DecidableEq

/-- The public half of a key: the bytes of a point, which need not exist. -/
structure PublicKey where
  /-- The bytes of the key. -/
  bytes : Bytes
  /-- A public key has thirty-two bytes. -/
  length_eq : bytes.length = keySize
deriving DecidableEq

/-- The seed of some bytes, if there are thirty-two. -/
def Seed.ofBytes? (bytes : Bytes) : Option Seed :=
  if h : bytes.length = keySize then some ⟨bytes, h⟩ else none

/-- The public key of some bytes, if there are thirty-two. -/
def PublicKey.ofBytes? (bytes : Bytes) : Option PublicKey :=
  if h : bytes.length = keySize then some ⟨bytes, h⟩ else none

/-- The field prime. -/
def fieldPrime : Nat := Nat.pow 2 255 - 19

/-- The prime order of the base point. -/
def order : Nat := Nat.pow 2 252 + 27742317777372353535851937790883648493

def addField (a b : Nat) : Nat := (a + b) % fieldPrime

def subField (a b : Nat) : Nat := (a + (fieldPrime - b % fieldPrime)) % fieldPrime

def mulField (a b : Nat) : Nat := a * b % fieldPrime

def invField (a : Nat) : Nat := powMod a (fieldPrime - 2) fieldPrime

/-- The curve constant `d = -121665 / 121666`. -/
def curveD : Nat := mulField (subField 0 121665) (invField 121666)

/-- A square root of minus one. -/
def rootOfMinusOne : Nat := powMod 2 ((fieldPrime - 1) / 4) fieldPrime

/-- A point of the curve as `(X : Y : Z : T)` with `x = X/Z`, `y = Y/Z` and `x y = T/Z`. -/
structure Point where
  /-- The numerator of `x`. -/
  x : Nat
  /-- The numerator of `y`. -/
  y : Nat
  /-- The common denominator. -/
  z : Nat
  /-- The numerator of `x y`. -/
  t : Nat

namespace Point

/-- The neutral point. -/
def zero : Point := ⟨0, 1, 1, 0⟩

/-- The sum of two points. -/
def add (p q : Point) : Point :=
  let a := mulField (subField p.y p.x) (subField q.y q.x)
  let b := mulField (addField p.y p.x) (addField q.y q.x)
  let c := mulField (mulField p.t (2 * curveD)) q.t
  let d := mulField (2 * p.z) q.z
  let e := subField b a
  let f := subField d c
  let g := addField d c
  let h := addField b a
  ⟨mulField e f, mulField g h, mulField f g, mulField e h⟩

/-- The point on the other side. -/
def neg (p : Point) : Point := ⟨subField 0 p.x, p.y, p.z, subField 0 p.t⟩

/-- A multiple of a point, where the factor has at most `bits` binary digits. -/
def multiple : Nat → Nat → Point → Point
  | 0, _, _ => zero
  | bits + 1, factor, p =>
    if factor = 0 then zero
    else
      let rest := multiple bits (factor / 2) (p.add p)
      if factor % 2 = 1 then p.add rest else rest

/-- A multiple of a point by a scalar of at most 256 bits. -/
def smul (factor : Nat) (p : Point) : Point := multiple 256 factor p

/-- The bytes of a point: `y`, with the parity of `x` in the top bit. -/
def encode (p : Point) : Bytes :=
  let inverse := invField p.z
  let x := mulField p.x inverse
  let y := mulField p.y inverse
  Bytes.ofNatLittle keySize (y + x % 2 * Nat.pow 2 255)

/-- The `x` of given parity that belongs to `y`, if there is one. -/
def recover? (y parity : Nat) : Option Nat :=
  let ySquared := mulField y y
  let u := subField ySquared 1
  let v := addField (mulField curveD ySquared) 1
  -- The candidate is a root of `u / v` up to a root of minus one.
  let v3 := mulField (mulField v v) v
  let v7 := mulField (mulField v3 v3) v
  let power := powMod (mulField u v7) ((fieldPrime - 5) / 8) fieldPrime
  let candidate := mulField (mulField u v3) power
  let check := mulField v (mulField candidate candidate)
  let root? :=
    if check = u then some candidate
    else if check = subField 0 u then some (mulField candidate rootOfMinusOne)
    else none
  root?.map fun root => if root % 2 = parity then root else subField 0 root

/-- The point that bytes stand for. A `y` beyond the field is reduced. -/
def decode? (bytes : Bytes) : Option Point :=
  let n := bytes.toNatLittle
  let y := n % Nat.pow 2 255 % fieldPrime
  (recover? y (n / Nat.pow 2 255)).map fun x => ⟨x, y, 1, mulField x y⟩

/-- The base point: `y = 4/5` and `x` even. -/
def base : Point :=
  let y := mulField 4 (invField 5)
  let x := (recover? y 0).getD 0
  ⟨x, y, 1, mulField x y⟩

end Point

/-- The secret scalar of a seed and the bytes that hide the nonces of its signatures. -/
def Seed.expand (seed : Seed) : Nat × Bytes :=
  let digest := Digest.sha512 seed.bytes
  let low := Bytes.toNatLittle (digest.take 32)
  (Nat.pow 2 254 + low % Nat.pow 2 254 / 8 * 8, digest.drop 32)

theorem length_ofNatLittle (width n : Nat) : (Bytes.ofNatLittle width n).length = width := by
  induction width generalizing n with
  | zero => rfl
  | succ width ih => simp [Bytes.ofNatLittle, ih]

/-- The public half of a seed. -/
def Seed.publicKey (seed : Seed) : PublicKey where
  bytes := (Point.base.smul seed.expand.1).encode
  length_eq := length_ofNatLittle ..

/-- The number that binds a commitment, a public key and a message. -/
def challenge (commitment publicKey message : Bytes) : Nat :=
  (Digest.sha512 (commitment ++ publicKey ++ message)).toNatLittle % order

/-- The signature of a message. -/
def sign (seed : Seed) (message : Bytes) : Bytes :=
  let (scalar, mask) := seed.expand
  let nonce := (Digest.sha512 (mask ++ message)).toNatLittle % order
  let commitment := (Point.base.smul nonce).encode
  let response := (nonce + challenge commitment seed.publicKey.bytes message * scalar) % order
  commitment ++ Bytes.ofNatLittle 32 response

/-- Whether a signature belongs to a message under a public key. -/
def verify (key : PublicKey) (message signature : Bytes) : Bool :=
  let commitment := signature.take 32
  let response := Bytes.toNatLittle (signature.drop 32)
  if signature.length ≠ signatureSize ∨ order ≤ response then false
  else
    match Point.decode? key.bytes with
    | none => false
    | some point =>
      let product := point.neg.smul (challenge commitment key.bytes message)
      ((Point.base.smul response).add product).encode == commitment

end FleetToken.Ed25519
