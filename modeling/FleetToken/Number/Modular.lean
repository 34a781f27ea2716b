/-!
# Modular arithmetic

Powers of natural numbers modulo another one.

## Main definitions

- `powMod`: a power modulo a number, by squaring.
- `isProbablePrime`: the strong probable-prime test for some bases.
-/

namespace FleetToken

/-- The power `base ^ exponent` modulo `modulus`, where the exponent has at most `bits` binary
digits. -/
def powModBits (modulus : Nat) : Nat → Nat → Nat → Nat
  | 0, _, _ => 1 % modulus
  | bits + 1, base, exponent =>
    let tail := powModBits modulus bits (base * base % modulus) (exponent / 2)
    if exponent % 2 = 1 then base * tail % modulus else tail

/-- The power `base ^ exponent` modulo `modulus`. -/
def powMod (base exponent modulus : Nat) : Nat :=
  powModBits modulus (exponent.log2 + 1) (base % modulus) exponent

/-- The exponent of two in `n` and the odd rest, with at most `count` divisions. -/
def splitTwos : Nat → Nat → Nat × Nat
  | 0, n => (0, n)
  | count + 1, n =>
    if n % 2 = 1 then (0, n)
    else
      let (twos, odd) := splitTwos count (n / 2)
      (twos + 1, odd)

/-- Whether squaring `x` up to `count` times meets `n - 1`. -/
def squaresToMinusOne (n : Nat) : Nat → Nat → Bool
  | 0, x => x == n - 1
  | count + 1, x => x == n - 1 || squaresToMinusOne n count (x * x % n)

/-- Whether the odd number `n` passes the strong test to the given base. -/
def isStrongProbablePrime (n base : Nat) : Bool :=
  let (twos, odd) := splitTwos n.log2 (n - 1)
  let x := powMod base odd n
  x == 1 || squaresToMinusOne n (twos - 1) x

/-- Whether `n` is prime as far as the strong test to the first twelve prime bases tells. -/
def isProbablePrime (n : Nat) : Bool :=
  let bases := [2, 3, 5, 7, 11, 13, 17, 19, 23, 29, 31, 37]
  2 ≤ n && (bases.contains n ||
    (bases.all (fun p => n % p != 0) && bases.all (isStrongProbablePrime n)))

end FleetToken
