/-! Powers and inverses modulo a number. -/

set_option autoImplicit false

namespace CryptoProvider.Arithmetic

def powMod (base exponent modulus : Nat) : Nat :=
  if _h : exponent = 0 then 1 % modulus
  else
    let half := powMod (base * base % modulus) (exponent / 2) modulus
    if exponent % 2 = 1 then half * base % modulus else half
termination_by exponent
decreasing_by exact Nat.div_lt_self (Nat.pos_of_ne_zero _h) (by omega)

-- Runs Euclid's algorithm on `a` and `b`, keeping for each the factor that some third number has
-- in it; returns the greatest common divisor with its factor.
def euclid (a b : Nat) (s t : Int) : Nat × Int :=
  if _h : b = 0 then (a, s)
  else euclid b (a % b) t (s - (a / b : Nat) * t)
termination_by b
decreasing_by exact Nat.mod_lt _ (Nat.pos_of_ne_zero _h)

def inverse? (a modulus : Nat) : Option Nat :=
  match euclid (a % modulus) modulus 1 0 with
  | (1, s) => some (s % (modulus : Int)).toNat
  | _ => none

-- The inverse modulo a number, or zero if there is none.
def inverse (a modulus : Nat) : Nat :=
  (inverse? a modulus).getD 0

def subMod (a b modulus : Nat) : Nat :=
  (a + (modulus - b % modulus)) % modulus

def twoTo (exponent : Nat) : Nat :=
  1 <<< exponent

def bitLength (n : Nat) : Nat :=
  if n = 0 then 0 else n.log2 + 1

end CryptoProvider.Arithmetic
