/-!
# Binary floating point numbers of 64 bits

Finite numbers are kept as a sign, a whole number `m` and an exponent `e`, for the value
`m * 2 ^ e`. Arithmetic is exact and then rounded once to the nearest number, a tie going to the
even one. All of it is done on natural numbers.
-/

namespace Catalog

/-- A number of the binary 64 bit format. In `finite`, `m` has at most 53 bits, and 53 of them
unless `e` is the least exponent -1074. -/
inductive Binary64 where
  | finite (negative : Bool) (m : Nat) (e : Int)
  | infinite (negative : Bool)
  | notANumber
  deriving DecidableEq, Repr, Inhabited

namespace Binary64

/-- Bits of a full significand. -/
def precision : Nat := 53

/-- The least exponent of a significand read as a whole number. -/
def minExponent : Int := -1074

/-- The greatest exponent of a significand read as a whole number. -/
def maxExponent : Int := 971

/-- The quotient `num / den` rounded to a whole number, a tie going to the even neighbour. -/
def roundDiv (num den : Nat) : Nat :=
  let q := num / den
  let r := num % den
  if 2 * r < den then q
  else if 2 * r > den then q + 1
  else if q % 2 = 0 then q else q + 1

/-- A power of whole numbers. -/
def pow (base exponent : Nat) : Nat := Nat.pow base exponent

/-- The quotient `num / den` divided by `2 ^ e` and rounded. -/
def scaledDiv (num den : Nat) (e : Int) : Nat :=
  if e ≥ 0 then roundDiv num (den * pow 2 e.toNat) else roundDiv (num * pow 2 (-e).toNat) den

/-- The exponent at which `num / den` has a significand of 53 bits, or the least one. -/
def fitExponent (num den : Nat) : Int :=
  let guess : Int := (Nat.log2 num : Int) - (Nat.log2 den : Int) - (precision : Int) + 1
  -- the true quotient of logarithms is `guess` or one less
  let low := guess - 1
  let small :=
    if low ≥ 0 then num / (den * pow 2 low.toNat) else num * pow 2 (-low).toNat / den
  max minExponent (if small < pow 2 precision then low else guess)

/-- The number nearest to `num / den`, with the given sign. -/
def ofRatio (negative : Bool) (num den : Nat) : Binary64 :=
  if num = 0 ∨ den = 0 then finite negative 0 minExponent
  else
    let e := fitExponent num den
    let m := scaledDiv num den e
    let (m, e) := if m = pow 2 precision then (pow 2 (precision - 1), e + 1) else (m, e)
    if e > maxExponent then infinite negative else finite negative m e

/-- The number nearest to `digits * 10 ^ exponent`. Exponents far outside the format are
answered without computing the power. -/
def ofDecimal (negative : Bool) (digits : Nat) (exponent : Int) : Binary64 :=
  if digits = 0 then finite negative 0 minExponent
  else
    let size : Int := (Nat.toDigits 10 digits).length
    if size + exponent > 310 then infinite negative
    else if size + exponent < -330 then finite negative 0 minExponent
    else if exponent ≥ 0 then ofRatio negative (digits * pow 10 exponent.toNat) 1
    else ofRatio negative digits (pow 10 (-exponent).toNat)

/-- The number nearest to `m * 2 ^ e`. -/
def ofScaled (negative : Bool) (m : Nat) (e : Int) : Binary64 :=
  if e ≥ 0 then ofRatio negative (m * pow 2 e.toNat) 1 else ofRatio negative m (pow 2 (-e).toNat)

/-- The signed significand. -/
def signed (negative : Bool) (m : Nat) : Int :=
  if negative then -(m : Int) else m

/-- Rounded sum. -/
def add : Binary64 → Binary64 → Binary64
  | notANumber, _ => notANumber
  | _, notANumber => notANumber
  | infinite a, infinite b => if a = b then infinite a else notANumber
  | infinite a, _ => infinite a
  | _, infinite b => infinite b
  | finite na ma ea, finite nb mb eb =>
    let e := min ea eb
    let total := signed na ma * pow 2 (ea - e).toNat + signed nb mb * pow 2 (eb - e).toNat
    ofScaled (if total = 0 then na && nb else total < 0) total.natAbs e

/-- Rounded product. -/
def mul : Binary64 → Binary64 → Binary64
  | notANumber, _ => notANumber
  | _, notANumber => notANumber
  | infinite a, infinite b => infinite (a != b)
  | infinite a, finite b m _ => if m = 0 then notANumber else infinite (a != b)
  | finite a m _, infinite b => if m = 0 then notANumber else infinite (a != b)
  | finite na ma ea, finite nb mb eb => ofScaled (na != nb) (ma * mb) (ea + eb)

/-- The number with the opposite sign. -/
def neg : Binary64 → Binary64
  | finite n m e => finite (!n) m e
  | infinite n => infinite (!n)
  | notANumber => notANumber

/-- The whole number `n` as a floating point number. -/
def ofNat (n : Nat) : Binary64 := ofRatio false n 1

end Binary64

end Catalog
