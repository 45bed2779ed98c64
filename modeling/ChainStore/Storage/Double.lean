set_option autoImplicit false
set_option relaxedAutoImplicit false

/-!
Binary floating-point numbers of 64 bits, held as their bit patterns: the exact value of a
pattern, the pattern nearest to a fraction, and the layout of fifteen significant digits.
-/

namespace ChainStore.Storage

structure Dyadic where
  negative : Bool
  mantissa : Nat
  exponent : Int

namespace Dyadic

def ofBits? (bits : UInt64) : Option Dyadic :=
  let n : Nat := bits.toNat
  let negative := n / Nat.pow 2 63 == 1
  let field : Nat := n / Nat.pow 2 52 % 2048
  let fraction : Nat := n % Nat.pow 2 52
  if field = 2047 then none
  else if field = 0 then some ⟨negative, fraction, -1074⟩
  else some ⟨negative, Nat.pow 2 52 + fraction, (field : Int) - 1075⟩

def numerator (x : Dyadic) : Int :=
  let size : Int := ((x.mantissa * Nat.pow 2 x.exponent.toNat : Nat) : Int)
  if x.negative then -size else size

def denominator (x : Dyadic) : Nat := Nat.pow 2 (-x.exponent).toNat

def toInt? (x : Dyadic) : Option Int :=
  if x.numerator % (x.denominator : Int) = 0 then some (x.numerator / (x.denominator : Int))
  else none

def compareInt (x : Dyadic) (n : Int) : Ordering :=
  compare x.numerator (n * (x.denominator : Int))

end Dyadic

namespace Double

/-- The nearest integer to a quotient; of two equally near the even one. -/
def roundEven (num den : Nat) : Nat :=
  let q := num / den
  let r := num % den
  if 2 * r < den then q
  else if den < 2 * r then q + 1
  else q + q % 2

def shifted (num den : Nat) (e : Int) : Nat × Nat :=
  (num * Nat.pow 2 (-e).toNat, den * Nat.pow 2 e.toNat)

/-- The bit pattern of the number nearest to `± num / den`, ties to the even mantissa. Values
past the largest finite number give the infinity of their sign. -/
def nearest (negative : Bool) (num den : Nat) : UInt64 :=
  let sign : Nat := if negative then Nat.pow 2 63 else 0
  if num = 0 then UInt64.ofNat sign
  else
    let guess : Int := (num.log2 : Int) - (den.log2 : Int) - 52
    let (n, d) := shifted num den guess
    let e := max (if n / d < Nat.pow 2 52 then guess - 1 else guess) (-1074)
    let (n, d) := shifted num den e
    let rounded := roundEven n d
    let (m, e) := if rounded = Nat.pow 2 53 then (Nat.pow 2 52, e + 1) else (rounded, e)
    if 971 < e then UInt64.ofNat (sign + 2047 * Nat.pow 2 52)
    else if m < Nat.pow 2 52 then UInt64.ofNat (sign + m)
    else UInt64.ofNat (sign + (e + 1075).toNat * Nat.pow 2 52 + (m - Nat.pow 2 52))

/-- The bit pattern nearest to `± digits · 10 ^ exponent`. Exponents far outside the range of
the format are settled without computing the power. -/
def ofDecimal (negative : Bool) (digits : Nat) (exponent : Int) : UInt64 :=
  let sign : Nat := if negative then Nat.pow 2 63 else 0
  if digits = 0 then UInt64.ofNat sign
  else if 400 < exponent then UInt64.ofNat (sign + 2047 * Nat.pow 2 52)
  else if exponent + (digits.log2 : Int) < -1200 then UInt64.ofNat sign
  else nearest negative (digits * Nat.pow 10 exponent.toNat) (Nat.pow 10 (-exponent).toNat)

def trimZeros (digits : List Char) : List Char :=
  match (digits.reverse.dropWhile (· == '0')).reverse with
  | [] => ['0']
  | kept => kept

def exponentText (k : Int) : String :=
  let size := k.natAbs
  let digits := if size < 10 then "0" ++ toString size else toString size
  (if k < 0 then "e-" else "e+") ++ digits

/-- The text of the fifteen significant digits `digits` with the first one at `10 ^ k`:
positional from `10 ^ -4` up to `10 ^ 14`, else with an exponent; zeros at the end are dropped
but one digit stays behind the point. -/
def place (digits : List Char) (k : Int) : String :=
  if k < -4 ∨ 14 < k then
    String.ofList (digits.take 1) ++ "." ++ String.ofList (trimZeros (digits.drop 1))
      ++ exponentText k
  else if k < 0 then
    "0." ++ String.ofList (List.replicate ((-k).toNat - 1) '0' ++ trimZeros digits)
  else
    let whole := k.toNat + 1
    String.ofList (digits.take whole) ++ "." ++ String.ofList (trimZeros (digits.drop whole))

end Double

end ChainStore.Storage
