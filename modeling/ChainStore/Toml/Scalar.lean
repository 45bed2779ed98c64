set_option autoImplicit false
set_option relaxedAutoImplicit false

/-!
The values of a TOML document, and the reading of those that stand without quotes or brackets:
numbers, truth values, dates and times. Each of these is one unbroken run of characters, read as a
whole or refused.
-/

namespace ChainStore.Toml

/-- A value. Floats and date-times are kept as they are written, since only their being such
matters here. A table keeps its keys in the order in which they first appear. -/
inductive Value where
  | string (s : String)
  | integer (n : Int)
  | float (text : String)
  | boolean (b : Bool)
  | datetime (text : String)
  | array (elements : List Value)
  | table (entries : List (String × Value))

abbrev Entries := List (String × Value)

def digitValue (c : Char) : Nat := c.toNat - '0'.toNat

def hexValue? (c : Char) : Option Nat :=
  if c.isDigit then some (c.toNat - '0'.toNat)
  else if 'a' ≤ c ∧ c ≤ 'f' then some (c.toNat - 'a'.toNat + 10)
  else if 'A' ≤ c ∧ c ≤ 'F' then some (c.toNat - 'A'.toNat + 10)
  else none

/-- Reads digits of a base, most significant first. An underscore may stand between two digits
and nowhere else. `after` says whether a digit has just been read. -/
def readDigits (base : Nat) : Bool → Nat → List Char → Option Nat
  | after, n, [] => if after then some n else none
  | after, n, c :: cs =>
    if c = '_' then if after then readDigits base false n cs else none
    else
      match hexValue? c with
      | some d => if d < base then readDigits base true (base * n + d) cs else none
      | none => none

def natural? (base : Nat) (cs : List Char) : Option Nat := readDigits base false 0 cs

def unpadded? (cs : List Char) : Option Nat :=
  match cs with
  | '0' :: _ :: _ => none
  | _ => natural? 10 cs

def splitSign : List Char → Bool × List Char
  | '-' :: cs => (true, cs)
  | '+' :: cs => (false, cs)
  | cs => (false, cs)

/-- Integers have 64 bits. -/
def inRange (n : Int) : Option Int :=
  if -9223372036854775808 ≤ n ∧ n ≤ 9223372036854775807 then some n else none

/-- An integer: decimal with an optional sign, or hexadecimal, octal or binary without one. -/
def integer? (cs : List Char) : Option Int :=
  match cs with
  | '0' :: 'x' :: ds => (natural? 16 ds).bind (fun n => inRange n)
  | '0' :: 'o' :: ds => (natural? 8 ds).bind (fun n => inRange n)
  | '0' :: 'b' :: ds => (natural? 2 ds).bind (fun n => inRange n)
  | _ =>
    let (negative, ds) := splitSign cs
    (unpadded? ds).bind (fun n => inRange (if negative then -(n : Int) else (n : Int)))

def overflows (digits : Nat) (exponent : Int) : Bool :=
  if digits = 0 then false
  else if 400 < exponent then true
  else if exponent + (digits.log2 : Int) < 0 then false
  else decide ((Nat.pow 2 54 - 1) * Nat.pow 2 970 * Nat.pow 10 (-exponent).toNat ≤
    digits * Nat.pow 10 exponent.toNat)

def isExponentMark (c : Char) : Bool := c == 'e' || c == 'E'

def bareDigits (cs : List Char) : Nat × Nat :=
  let ds := cs.filter Char.isDigit
  (ds.foldl (fun n c => 10 * n + digitValue c) 0, ds.length)

def exponent? (cs : List Char) : Option Int :=
  let (negative, ds) := splitSign cs
  (natural? 10 ds).map (fun n => if negative then -(n : Int) else (n : Int))

/-- Whether the characters are a float: a decimal number with a point, an exponent or both, or
one of the special values. A positive number past the range is refused. -/
def isFloat (cs : List Char) : Bool :=
  let (negative, body) := splitSign cs
  if body = ['i', 'n', 'f'] ∨ body = ['n', 'a', 'n'] then true
  else
    let mantissa := body.takeWhile (fun c => !isExponentMark c)
    let power := body.drop mantissa.length
    let whole := mantissa.takeWhile (fun c => c != '.')
    let fraction := mantissa.drop whole.length
    let exponent : Option (Option Int) :=
      match power with
      | [] => some none
      | _ :: ds => (exponent? ds).map some
    let fractionDigits : Option (List Char) :=
      match fraction with
      | [] => some []
      | _ :: ds => if (natural? 10 ds).isSome then some ds else none
    match unpadded? whole, fractionDigits, exponent with
    | some _, some part, some e =>
      if fraction.isEmpty && e.isNone then false
      else
        let (digits, _) := bareDigits (whole ++ part)
        let (_, places) := bareDigits part
        negative || !overflows digits (e.getD 0 - (places : Int))
    | _, _, _ => false

def fixedDigits? (count : Nat) (cs : List Char) : Option (Nat × List Char) :=
  let ds := cs.take count
  if ds.length = count ∧ ds.all Char.isDigit then
    some (ds.foldl (fun n c => 10 * n + digitValue c) 0, cs.drop count)
  else none

def expect? (c : Char) : List Char → Option (List Char)
  | d :: cs => if d = c then some cs else none
  | [] => none

def isLeapYear (year : Nat) : Bool := year % 4 == 0 && (year % 100 != 0 || year % 400 == 0)

def daysInMonth (year month : Nat) : Nat :=
  if month = 2 then if isLeapYear year then 29 else 28
  else if month = 4 ∨ month = 6 ∨ month = 9 ∨ month = 11 then 30
  else 31

def date? (cs : List Char) : Option (List Char) := do
  let (year, cs) ← fixedDigits? 4 cs
  let cs ← expect? '-' cs
  let (month, cs) ← fixedDigits? 2 cs
  let cs ← expect? '-' cs
  let (day, cs) ← fixedDigits? 2 cs
  if 1 ≤ month ∧ month ≤ 12 ∧ 1 ≤ day ∧ day ≤ daysInMonth year month then some cs else none

def hourMinute? (cs : List Char) : Option (List Char) := do
  let (hour, cs) ← fixedDigits? 2 cs
  let cs ← expect? ':' cs
  let (minute, cs) ← fixedDigits? 2 cs
  if hour ≤ 23 ∧ minute ≤ 59 then some cs else none

/-- Reads a time of day with seconds, a leap second included, and an optional fraction. -/
def time? (cs : List Char) : Option (List Char) := do
  let cs ← hourMinute? cs
  let cs ← expect? ':' cs
  let (second, cs) ← fixedDigits? 2 cs
  if 60 < second then none
  else
    match cs with
    | '.' :: rest =>
      if (rest.takeWhile Char.isDigit).isEmpty then none else some (rest.dropWhile Char.isDigit)
    | _ => some cs

def isOffset : List Char → Bool
  | [] => true
  | 'Z' :: rest => rest.isEmpty
  | 'z' :: rest => rest.isEmpty
  | '+' :: rest => hourMinute? rest == some []
  | '-' :: rest => hourMinute? rest == some []
  | _ => false

/-- Whether the characters are a date, a time, or a date and a time with or without the distance
from universal time. -/
def isDatetime (cs : List Char) : Bool :=
  match date? cs with
  | some [] => true
  | some (c :: rest) =>
    (c == 'T' || c == 't' || c == ' ') &&
      match time? rest with
      | some offset => isOffset offset
      | none => false
  | none => time? cs == some []

def scalar? (cs : List Char) : Option Value :=
  if cs = ['t', 'r', 'u', 'e'] then some (.boolean true)
  else if cs = ['f', 'a', 'l', 's', 'e'] then some (.boolean false)
  else if isDatetime cs then some (.datetime (String.ofList cs))
  else
    match integer? cs with
    | some n => some (.integer n)
    | none => if isFloat cs then some (.float (String.ofList cs)) else none

end ChainStore.Toml
