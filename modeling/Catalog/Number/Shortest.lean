import Catalog.Number.Binary64

/-!
# The shortest decimal text of a number

A finite number is written with the fewest significant digits that read back as the same number,
and among those with the digits nearest to it. The text is positional while the decimal point
stands within sixteen digits after the first one or three zeros before it, and has an exponent of
at least two digits otherwise.
-/

namespace Catalog

namespace Binary64

/-- The decimals of `count` digits on both sides of `num / den`, as multiples of a power of ten
whose exponent is the second component. -/
def neighbours (num den count : Nat) (scale : Int) : List (Nat × Int) :=
  let e : Int := scale - (count : Int)
  let q := if e ≥ 0 then num / (den * pow 10 e.toNat) else num * pow 10 (-e).toNat / den
  [(q, e), (q + 1, e)]

/-- The distance of `digits * 10 ^ e` from `num / den`, multiplied by a positive factor that
depends on `e` and `den` only. -/
def distance (num den : Nat) (digits : Nat) (e : Int) : Nat :=
  let a : Int := if e ≥ 0 then digits * pow 10 e.toNat * den else digits * den
  let b : Int := if e ≥ 0 then num else num * pow 10 (-e).toNat
  (a - b).natAbs

/-- The least `s` with `num / den < 10 ^ s`, searched upwards from `s`. -/
def decimalScale (num den : Nat) : Nat → Int → Int
  | 0, s => s
  | fuel + 1, s =>
    let below := if s ≥ 0 then num < den * pow 10 s.toNat else num * pow 10 (-s).toNat < den
    if below then s else decimalScale num den fuel (s + 1)

/-- The first digit count from `count` on at which one of the two neighbours reads back. -/
def shortestFrom (negative : Bool) (m : Nat) (exp : Int) (num den : Nat) (scale : Int) :
    Nat → Nat → Nat × Int
  | 0, count => ((neighbours num den count scale).headD (0, 0))
  | fuel + 1, count =>
    let hits := (neighbours num den count scale).filter fun (digits, e) =>
      ofDecimal negative digits e == finite negative m exp
    match hits with
    | [] => shortestFrom negative m exp num den scale fuel (count + 1)
    | [hit] => hit
    | a :: b :: _ =>
      if distance num den b.1 b.2 < distance num den a.1 a.2 then b
      else if distance num den a.1 a.2 < distance num den b.1 b.2 then a
      else if a.1 % 2 = 0 then a else b

/-- The digits and the exponent of ten of the shortest decimal. -/
def shortest (negative : Bool) (m : Nat) (e : Int) : Nat × Int :=
  let (num, den) := if e ≥ 0 then (m * pow 2 e.toNat, 1) else (m, pow 2 (-e).toNat)
  let start : Int := ((Nat.log2 num : Int) - (Nat.log2 den : Int)) * 3 / 10 - 2
  let scale := decimalScale num den 700 start
  shortestFrom negative m e num den scale 17 1

/-- The digits of a whole number without trailing zeros. -/
def significantDigits (n : Nat) : List Char :=
  ((Nat.toDigits 10 n).reverse.dropWhile (· == '0')).reverse

/-- An exponent with its sign and at least two digits. -/
def exponentText (e : Int) : String :=
  let digits := Nat.toDigits 10 e.natAbs
  String.ofList ((if e < 0 then '-' else '+') :: (List.replicate (2 - digits.length) '0' ++ digits))

/-- The text of the decimal `0.d1 d2 ... * 10 ^ point`. -/
def decimalText (digits : List Char) (point : Int) : String :=
  let count : Int := digits.length
  if point > 16 ∨ point < -3 then
    let tail := digits.drop 1
    let fraction := if tail.isEmpty then [] else '.' :: tail
    String.ofList (digits.take 1 ++ fraction) ++ "e" ++ exponentText (point - 1)
  else if point ≤ 0 then
    "0." ++ String.ofList (List.replicate (-point).toNat '0' ++ digits)
  else if count ≤ point then
    String.ofList (digits ++ List.replicate (point - count).toNat '0') ++ ".0"
  else
    String.ofList (digits.take point.toNat) ++ "." ++ String.ofList (digits.drop point.toNat)

/-- The text of a number. -/
def text : Binary64 → String
  | notANumber => "nan"
  | infinite negative => if negative then "-inf" else "inf"
  | finite negative m e =>
    let sign := if negative then "-" else ""
    if m = 0 then sign ++ "0.0"
    else
      let (digits, exponent) := shortest negative m e
      let point : Int := (Nat.toDigits 10 digits).length + exponent
      sign ++ decimalText (significantDigits digits) point

end Binary64

end Catalog
