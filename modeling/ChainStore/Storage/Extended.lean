import ChainStore.Storage.Double

set_option autoImplicit false
set_option relaxedAutoImplicit false

/-!
Numbers with a significand of 64 bits, in which the engine converts between decimal text and
numbers of the narrower format. Powers of ten are multiplied in one after the other, and every
product is rounded, so a conversion can miss the nearest result in its last place.
-/

namespace ChainStore.Storage

/-- A number `mantissa · 2 ^ exponent` with a mantissa of at most `2 ^ 64`. -/
structure Extended where
  mantissa : Nat
  exponent : Int
deriving DecidableEq

namespace Extended

def round (n : Nat) (e : Int) : Extended :=
  let excess := n.log2 + 1 - 64
  ⟨Double.roundEven n (Nat.pow 2 excess), e + (excess : Int)⟩

def tenTo (k : Int) : Extended :=
  let num := Nat.pow 10 k.toNat
  let den := Nat.pow 10 (-k).toNat
  let guess : Int := (num.log2 : Int) - (den.log2 : Int) - 64
  let (n, d) := Double.shifted num den guess
  let e := if n / d < Nat.pow 2 64 then guess else guess + 1
  let (n, d) := Double.shifted num den e
  ⟨Double.roundEven n d, e⟩

def times (x y : Extended) : Extended :=
  round (x.mantissa * y.mantissa) (x.exponent + y.exponent)

def below (x y : Extended) : Bool :=
  let e := min x.exponent y.exponent
  decide (x.mantissa * Nat.pow 2 (x.exponent - e).toNat <
    y.mantissa * Nat.pow 2 (y.exponent - e).toNat)

def scaled (factor : Extended) : Nat → Extended → Extended
  | 0, x => x
  | count + 1, x => scaled factor count (x.times factor)

def shiftedBy (e : Int) (x : Extended) : Extended :=
  let sign : Int := if e < 0 then -1 else 1
  let places := e.natAbs
  let x := scaled (tenTo (sign * 100)) (places / 100) x
  let x := scaled (tenTo (sign * 10)) (places % 100 / 10) x
  scaled (tenTo sign) (places % 10) x

def floor (x : Extended) : Nat :=
  x.mantissa * Nat.pow 2 x.exponent.toNat / Nat.pow 2 (-x.exponent).toNat

/-- The bit pattern of the nearest number of the narrower format. What lies above its largest
number, by however little, becomes an infinity. -/
def toDouble (negative : Bool) (x : Extended) : UInt64 :=
  if below ⟨Nat.pow 2 53 - 1, 971⟩ x then
    UInt64.ofNat ((if negative then Nat.pow 2 63 else 0) + 2047 * Nat.pow 2 52)
  else
    Double.nearest negative (x.mantissa * Nat.pow 2 x.exponent.toNat)
      (Nat.pow 2 (-x.exponent).toNat)

end Extended

/-! ### From decimal digits -/

structure Gathered where
  significand : Nat
  exponent : Int

namespace Gathered

/-- From here on a significand takes no more digits, so that it keeps within 64 bits. -/
def full : Nat := (Nat.pow 2 64 - 10) / 10

def takeWhole (x : Gathered) (digit : Nat) : Gathered :=
  if x.significand < full then ⟨10 * x.significand + digit, x.exponent⟩
  else ⟨x.significand, x.exponent + 1⟩

def takePart (x : Gathered) (digit : Nat) : Gathered :=
  if x.significand < full then ⟨10 * x.significand + digit, x.exponent - 1⟩ else x

def widen : Nat → Gathered → Gathered
  | 0, x => x
  | steps + 1, x =>
    if 0 < x.exponent ∧ x.significand < (Nat.pow 2 64 - 1) / 10 then
      widen steps ⟨10 * x.significand, x.exponent - 1⟩
    else x

def narrow : Nat → Gathered → Gathered
  | 0, x => x
  | steps + 1, x =>
    if x.exponent < 0 ∧ x.significand % 10 = 0 then
      narrow steps ⟨x.significand / 10, x.exponent + 1⟩
    else x

/-- The bit pattern of the value with its sign. A significand has less than twenty digits, so
exponents beyond four hundred are settled without computing. -/
def toDouble (negative : Bool) (x : Gathered) : UInt64 :=
  let sign : Nat := if negative then Nat.pow 2 63 else 0
  if x.significand = 0 then UInt64.ofNat sign
  else
    let x := narrow 20 (widen 20 x)
    if 400 < x.exponent then UInt64.ofNat (sign + 2047 * Nat.pow 2 52)
    else if x.exponent < -400 then UInt64.ofNat sign
    else if x.exponent = 0 then Double.nearest negative x.significand 1
    else (Extended.shiftedBy x.exponent ⟨x.significand, 0⟩).toDouble negative

end Gathered

/-! ### To decimal digits -/

namespace Extended

/-- Multiplies by `factor`, which takes `places` decimal places away, while `more` says so, a
number of times at most. The places taken away are counted. -/
def settle (more : Extended → Bool) (factor : Extended) (places : Int) :
    Nat → Int × Extended → Int × Extended
  | 0, x => x
  | steps + 1, (taken, x) =>
    if more x then settle more factor places steps (taken + places, x.times factor)
    else (taken, x)

def normal (x : Extended) : Int × Extended :=
  if x.below (tenTo 19) then
    let y := settle (fun y => y.below (tenTo (-97))) (tenTo 100) (-100) 4 (0, x)
    let y := settle (fun y => y.below (tenTo 7)) (tenTo 10) (-10) 12 y
    settle (fun y => y.below (tenTo 17)) (tenTo 1) (-1) 12 y
  else
    let y := settle (fun y => !y.below (tenTo 119)) (tenTo (-100)) 100 4 (0, x)
    let y := settle (fun y => !y.below (tenTo 29)) (tenTo (-10)) 10 12 y
    settle (fun y => !y.below (tenTo 19)) (tenTo (-1)) 1 12 y

/-- The first fifteen significant digits of a positive number, a half rounded up, as a number of
fifteen digits, and the power of ten of the first one. -/
def fifteenDigits (x : Extended) : Nat × Int :=
  let (taken, y) := x.normal
  let whole := y.floor
  let count := (Nat.toDigits 10 whole).length
  let unit := Nat.pow 10 (count - 15)
  let rounded := (whole / (unit / 10) + 5) / 10
  let k := (count : Int) - 1 + taken
  if rounded = Nat.pow 10 15 then (Nat.pow 10 14, k + 1) else (rounded, k)

end Extended

namespace Double

/-- The text of a number: zero is `0.0` whatever its sign, infinities are `Inf` and `-Inf`. -/
def text (bits : UInt64) : String :=
  match Dyadic.ofBits? bits with
  | none => if bits.toNat / Nat.pow 2 63 = 1 then "-Inf" else "Inf"
  | some x =>
    if x.mantissa = 0 then "0.0"
    else
      let (digits, k) := Extended.fifteenDigits ⟨x.mantissa, x.exponent⟩
      (if x.negative then "-" else "") ++ place (Nat.toDigits 10 digits) k

end Double

end ChainStore.Storage
