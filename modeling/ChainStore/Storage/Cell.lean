import ChainStore.Storage.Extended
import ChainStore.Text.Bytes

set_option autoImplicit false
set_option relaxedAutoImplicit false

/-!
Values as a table stores them. A column has a preferred form (its affinity) but keeps what
cannot take that form, so a reader has to check what it finds.
-/

namespace ChainStore.Storage

/-- The four forms of a stored value. A real number is its bit pattern, and a text its bytes, which
nobody has checked. -/
inductive Cell where
  | int (n : Int)
  | real (bits : UInt64)
  | text (t : Text)
  | blob (bytes : List UInt8)
deriving DecidableEq

inductive Kind where
  | integer
  | real
  | text
  | blob
deriving DecidableEq

def Kind.name : Kind → String
  | .integer => "Integer"
  | .real => "Real"
  | .text => "Text"
  | .blob => "Blob"

namespace Cell

def kind : Cell → Kind
  | .int _ => .integer
  | .real _ => .real
  | .text _ => .text
  | .blob _ => .blob

/-- Order of a value against an integer: numbers by value, and every number comes before every
text and every blob. An infinity lies beyond all integers on its side. -/
def compareInt (n : Int) : Cell → Ordering
  | .int m => compare m n
  | .real bits =>
    match Dyadic.ofBits? bits with
    | some x => x.compareInt n
    | none => if bits.toNat / Nat.pow 2 63 = 1 then .lt else .gt
  | .text _ => .gt
  | .blob _ => .gt

def above (n : Int) (c : Cell) : Bool := c.compareInt n == .gt

def equalsInt (n : Int) (c : Cell) : Bool := c.compareInt n == .eq

def isText (s : String) : Cell → Bool
  | .text t => t == Text.ofString s
  | _ => false

end Cell

/-- A number written out: its sign, its digits in front of the point and behind it, its exponent,
and whether it was written without point and exponent. -/
structure Numeral where
  negative : Bool
  whole : List Nat
  part : List Nat
  power : Int
  plain : Bool

namespace Numeral

def isSpace (c : Char) : Bool := c == ' ' || ('\t' ≤ c && c ≤ '\r')

def digits (cs : List Char) : List Nat := cs.map (fun c => c.toNat - '0'.toNat)

/-- The value of an exponent. Past ten thousand it does not grow any more. -/
def powerOf (ds : List Nat) : Nat :=
  ds.foldl (fun n d => if n < 10000 then 10 * n + d else 10000) 0

def signed : List Char → Bool × List Char
  | '-' :: cs => (true, cs)
  | '+' :: cs => (false, cs)
  | cs => (false, cs)

/-- The exponent part, if any is written. An `e` without digits behind it is no exponent. -/
def exponentPart : List Char → Option (Option Int × List Char)
  | [] => some (none, [])
  | c :: cs =>
    if c == 'e' || c == 'E' then
      let (negative, rest) := signed cs
      let ds := rest.takeWhile Char.isDigit
      if ds.isEmpty then none
      else
        let size : Int := ((powerOf (digits ds) : Nat) : Int)
        some (some (if negative then -size else size), rest.dropWhile Char.isDigit)
    else some (none, c :: cs)

/-- Reads a whole text as a number: blanks around it, a sign, digits with at most one point
among or beside them, an exponent. Anything else is no number. -/
def ofText? (s : String) : Option Numeral :=
  let cs := s.toList.dropWhile isSpace
  let (negative, cs) := signed cs
  let whole := cs.takeWhile Char.isDigit
  let cs := cs.dropWhile Char.isDigit
  let (pointed, part, cs) :=
    match cs with
    | '.' :: rest => (true, rest.takeWhile Char.isDigit, rest.dropWhile Char.isDigit)
    | _ => (false, [], cs)
  if whole.isEmpty && part.isEmpty then none
  else
    match exponentPart cs with
    | none => none
    | some (power, rest) =>
      if rest.all isSpace then
        some ⟨negative, digits whole, digits part, power.getD 0, !pointed && power.isNone⟩
      else none

def wholeValue (x : Numeral) : Int :=
  let size : Int := ((x.whole.foldl (fun n d => 10 * n + d) 0 : Nat) : Int)
  if x.negative then -size else size

def toDouble (x : Numeral) : UInt64 :=
  let gathered := x.part.foldl Gathered.takePart (x.whole.foldl Gathered.takeWhole ⟨0, 0⟩)
  Gathered.toDouble x.negative ⟨gathered.significand, gathered.exponent + x.power⟩

end Numeral

namespace Cell

def fitsInteger (n : Int) : Bool :=
  decide (-9223372036854775808 ≤ n ∧ n ≤ 9223372036854775807)

/-- A real number strictly inside the integer range becomes an integer when it is whole. -/
def wholeReal (bits : UInt64) : Cell :=
  match (Dyadic.ofBits? bits).bind Dyadic.toInt? with
  | some n => if -9223372036854775808 < n ∧ n ≤ 9223372036854775807 then .int n else .real bits
  | none => .real bits

def asTextColumn : Cell → Cell
  | .int n => .text (Text.ofString (toString n))
  | .real bits => .text (Text.ofString (Double.text bits))
  | c => c

/-- What an integer column keeps: numeric text becomes a number, a whole number an integer. -/
def asIntegerColumn : Cell → Cell
  | .real bits => wholeReal bits
  | .text t =>
    match t.read?.bind Numeral.ofText? with
    | none => .text t
    | some x =>
      if x.plain && fitsInteger x.wholeValue then .int x.wholeValue else wholeReal x.toDouble
  | c => c

end Cell

end ChainStore.Storage
