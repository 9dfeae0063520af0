import CryptoProvider.Arithmetic.Modular

/-! Recognizing primes by strong tests to several bases, and searching for them in steps. -/

set_option autoImplicit false

namespace CryptoProvider.Arithmetic

def primesBelow (bound : Nat) : List Nat :=
  (List.range bound).filter fun n =>
    2 ≤ n && (List.range n).all fun d => d * d > n || d < 2 || n % d != 0

def smallPrimes : List Nat := primesBelow 1000

-- Whether one of the squarings of `x` gives `n - 1`.
def squaresToMinusOne (n : Nat) : (squarings : Nat) → (x : Nat) → Bool
  | 0, _ => false
  | squarings + 1, x => x == n - 1 || squaresToMinusOne n squarings (x * x % n)

def oddPart : (fuel : Nat) → (n twos : Nat) → Nat × Nat
  | 0, n, twos => (n, twos)
  | fuel + 1, n, twos => if n % 2 = 0 then oddPart fuel (n / 2) (twos + 1) else (n, twos)

def passesStrongTest (n base : Nat) : Bool :=
  let (odd, twos) := oddPart (bitLength n) (n - 1) 0
  let x := powMod base odd n
  x == 1 || squaresToMinusOne n twos x

-- Whether no small prime divides a number, other than the number itself.
def hasNoSmallFactor (n : Nat) : Bool :=
  smallPrimes.all fun p => n % p != 0 || n == p

-- Whether a number is prime, up to the error of twelve strong tests.
def isPrime (n : Nat) : Bool :=
  2 ≤ n && hasNoSmallFactor n &&
    [2, 3, 5, 7, 11, 13, 17, 19, 23, 29, 31, 37].all fun base =>
      n == base || passesStrongTest n base

def search (accept : Nat → Bool) (step : Nat) : (fuel : Nat) → (start : Nat) → Option Nat
  | 0, _ => none
  | fuel + 1, start => if accept start then some start else search accept step fuel (start + step)

end CryptoProvider.Arithmetic
