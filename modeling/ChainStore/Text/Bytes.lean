set_option autoImplicit false
set_option relaxedAutoImplicit false

/-!
Text as it is stored: bytes that are meant to be UTF-8 and need not be. Whoever wants characters
has to read them off, which fails where the bytes stop being text, or puts a mark in the place of
every piece that is none.
-/

namespace ChainStore

structure Text where
  bytes : List UInt8
deriving DecidableEq

namespace Text

def ofString (s : String) : Text := ⟨s.toUTF8.data.toList⟩

instance : Coe String Text := ⟨ofString⟩

def read? (text : Text) : Option String := String.fromUTF8? ⟨text.bytes.toArray⟩

theorem read?_eq_some {text : Text} {s : String} : text.read? = some s ↔ text = ofString s := by
  unfold read? String.fromUTF8? ofString
  constructor
  · intro read
    split at read
    · cases read
      rfl
    · cases read
  · rintro rfl
    rw [dif_pos (by simpa using s.isValidUTF8)]
    simp [String.fromUTF8]

@[simp] theorem read?_ofString (s : String) : (ofString s).read? = some s :=
  read?_eq_some.mpr rfl

theorem ofString_inj {s t : String} : ofString s = ofString t ↔ s = t := by
  constructor
  · intro same
    exact Option.some.inj (by rw [← read?_ofString s, same, read?_ofString])
  · exact fun same => same ▸ rfl

/-- A character of which some bytes have been read: the bits so far, the number of bytes to come,
and the bounds of the next one. -/
structure Unfinished where
  bits : Nat
  missing : Nat
  low : UInt8
  high : UInt8

inductive Beginning where
  | character (c : Char)
  | sequence (part : Unfinished)
  | nothing

def beginning (b : UInt8) : Beginning :=
  if b < 0x80 then .character (Char.ofNat b.toNat)
  else if b < 0xc2 then .nothing
  else if b < 0xe0 then .sequence ⟨b.toNat % 32, 1, 0x80, 0xbf⟩
  else if b < 0xf0 then
    .sequence
      ⟨b.toNat % 16, 2, if b = 0xe0 then 0xa0 else 0x80, if b = 0xed then 0x9f else 0xbf⟩
  else if b < 0xf5 then
    .sequence ⟨b.toNat % 8, 3, if b = 0xf0 then 0x90 else 0x80, if b = 0xf4 then 0x8f else 0xbf⟩
  else .nothing

def Unfinished.takes (part : Unfinished) (b : UInt8) : Bool := part.low ≤ b && b ≤ part.high

def Unfinished.add (part : Unfinished) (b : UInt8) : Beginning :=
  let bits := 64 * part.bits + b.toNat % 64
  if part.missing = 1 then .character (Char.ofNat bits)
  else .sequence ⟨bits, part.missing - 1, 0x80, 0xbf⟩

/-! ### Where bytes stop being text -/

/-- Where bytes stop being text: how many come before, and how many of the others are wrong for
certain. Where the bytes end too early no number can be given. -/
structure Flaw where
  position : Nat
  size : Option Nat
deriving DecidableEq

/-- Reads on at a position, possibly inside a character that started before it. -/
def flawFrom (start position : Nat) : Option Unfinished → List UInt8 → Flaw
  | _, [] => ⟨start, none⟩
  | none, b :: bs =>
    match beginning b with
    | .character _ => flawFrom (position + 1) (position + 1) none bs
    | .sequence part => flawFrom position (position + 1) (some part) bs
    | .nothing => ⟨position, some 1⟩
  | some part, b :: bs =>
    if part.takes b then
      match part.add b with
      | .sequence longer => flawFrom start (position + 1) (some longer) bs
      | _ => flawFrom (position + 1) (position + 1) none bs
    else ⟨start, some (position - start)⟩

def flaw (text : Text) : Flaw := flawFrom 0 0 none text.bytes

def Flaw.message : Flaw → String
  | ⟨position, some size⟩ => s!"invalid utf-8 sequence of {size} bytes from index {position}"
  | ⟨position, none⟩ => s!"incomplete utf-8 byte sequence from index {position}"

/-! ### Marks in the place of what is no text -/

def replacement : Char := '\ufffd'

def Beginning.characters : Beginning → List Char
  | .character c => [c]
  | .sequence _ => []
  | .nothing => [replacement]

def Beginning.unfinished? : Beginning → Option Unfinished
  | .sequence part => some part
  | _ => none

def readLossy : Option Unfinished → List UInt8 → List Char
  | none, [] => []
  | some _, [] => [replacement]
  | none, b :: bs => (beginning b).characters ++ readLossy (beginning b).unfinished? bs
  | some part, b :: bs =>
    if part.takes b then (part.add b).characters ++ readLossy (part.add b).unfinished? bs
    else replacement :: ((beginning b).characters ++ readLossy (beginning b).unfinished? bs)

def ofBytesLossy (bytes : List UInt8) : String := String.ofList (readLossy none bytes)

end Text

end ChainStore
