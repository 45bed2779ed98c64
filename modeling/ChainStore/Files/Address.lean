import ChainStore.Files.Path
import ChainStore.Storage.Fault
import ChainStore.Text.Bytes

set_option autoImplicit false
set_option relaxedAutoImplicit false

/-!
Addresses of databases. A path is an address by itself; a text that begins with `file:` is taken
apart into an authority, a name and parameters that say how the database is to be opened.
-/

namespace ChainStore.Files

open Storage (Fault)

/-- How a database is opened: to read it, to write it as well, to create it where it is missing,
or in memory, where no file is looked for. -/
inductive Access where
  | readOnly
  | readWrite
  | create
  | memory
deriving DecidableEq

/-- The file systems that a database can be put on. They differ in how they keep others out. -/
inductive FileSystem where
  | ordinary
  | exclusive
  | withoutLocks
  | lockFiles
  | memory
deriving DecidableEq

structure Address where
  name : Name
  system : FileSystem := .ordinary
  access : Access := .create
  /-- Whether connections of one process share the pages of the database. -/
  shared : Bool := false
  /-- Whether locks are left out. -/
  lockless : Bool := false
  /-- Whether the file is taken as one that nobody changes. -/
  frozen : Bool := false
  /-- The file whose permissions a new file is given. -/
  permissionsOf : Option String := none

/-! ### The parts of an address -/

def hexDigit? (b : UInt8) : Option UInt8 :=
  if 0x30 ≤ b ∧ b ≤ 0x39 then some (b - 0x30)
  else if 0x41 ≤ b ∧ b ≤ 0x46 then some (b - 0x37)
  else if 0x61 ≤ b ∧ b ≤ 0x66 then some (b - 0x57)
  else none

/-- Replaces every percent sign with two hexadecimal digits by the byte that they write. A zero
byte ends the part. -/
def percentDecoded : Name → Name
  | 0x25 :: h :: l :: rest =>
    match hexDigit? h, hexDigit? l with
    | some high, some low =>
      if high = 0 ∧ low = 0 then [] else (16 * high + low) :: percentDecoded rest
    | _, _ => 0x25 :: percentDecoded (h :: l :: rest)
  | b :: rest => b :: percentDecoded rest
  | [] => []

def fields : Name → List Name
  | [] => [[]]
  | b :: bs =>
    if b = 0x26 then [] :: fields bs
    else
      match fields bs with
      | [] => [[b]]
      | field :: more => (b :: field) :: more

def parameter (field : Name) : String × String :=
  (Text.ofBytesLossy (percentDecoded (field.takeWhile (· != 0x3d))),
    Text.ofBytesLossy (percentDecoded ((field.dropWhile (· != 0x3d)).drop 1)))

def parameters (query : Name) : List (String × String) :=
  ((fields query).map parameter).filter (fun p => p.1 != "")

/-- Whether the value of a parameter switches something on: one of three words, or a number
that is not zero in its last byte. -/
def switchesOn (value : String) : Bool :=
  let digits := value.toList.takeWhile Char.isDigit
  if digits.isEmpty then ["on", "yes", "true"].contains value.toLower
  else
    let n := digits.foldl (fun n c => 10 * n + (c.toNat - '0'.toNat)) 0
    decide (n < 2147483648 ∧ n % 256 ≠ 0)

/-! ### What parameters say -/

def Access.named? : String → Option Access
  | "ro" => some .readOnly
  | "rw" => some .readWrite
  | "rwc" => some .create
  | "memory" => some .memory
  | _ => none

def Access.rank : Access → Nat
  | .readOnly => 1
  | .readWrite => 2
  | .create => 3
  | .memory => 4

/-- Whether a way of opening stays within what has been settled before. A database in memory is
always within it. -/
def Access.within (wanted settled : Access) : Bool :=
  wanted == .memory || decide (wanted.rank ≤ settled.rank)

def FileSystem.named? : String → Option FileSystem
  | "unix" => some .ordinary
  | "unix-excl" => some .exclusive
  | "unix-none" => some .withoutLocks
  | "unix-dotfile" => some .lockFiles
  | "memdb" => some .memory
  | _ => none

namespace Address

/-- Follows a parameter that says how to open or to share; the others are left for later. -/
def refine (address : Address) : String × String → Except Fault Address
  | ("mode", value) =>
    match Access.named? value with
    | none => .error (.noSuchAccessMode value)
    | some access =>
      if access.within address.access then .ok { address with access := access }
      else .error (.accessNotAllowed value)
  | ("cache", value) =>
    if value = "shared" then .ok { address with shared := true }
    else if value = "private" then .ok { address with shared := false }
    else .error (.noSuchCacheMode value)
  | _ => .ok address

def settleSystem (address : Address) (given : List (String × String)) : Except Fault Address :=
  match (given.filter (fun p => p.1 == "vfs")).getLast? with
  | none => .ok address
  | some (_, value) =>
    match FileSystem.named? value with
    | none => .error (.noSuchFileSystem value)
    | some system => .ok { address with system := system }

/-- An address with its parameters. Of several switches of one name the first counts. -/
def withParameters (name : Name) (given : List (String × String)) : Except Fault Address := do
  let address ← given.foldlM refine { name := name }
  let address ← address.settleSystem given
  return { address with
    lockless := ((given.lookup "nolock").map switchesOn).getD false
    frozen := ((given.lookup "immutable").map switchesOn).getD false
    permissionsOf := given.lookup "modeof" }

def authority (bytes : Name) : Name × Name :=
  match bytes with
  | 0x2f :: 0x2f :: rest => (rest.takeWhile (· != 0x2f), rest.dropWhile (· != 0x2f))
  | _ => ([], bytes)

/-- The address that a text is. Only this machine may be named as the authority. -/
def ofText (text : String) : Except Fault Address :=
  let bytes := Name.ofText text
  if (Name.ofText "file:").isPrefixOf bytes then
    let (host, rest) := authority (bytes.drop 5)
    if host = [] ∨ host = Name.ofText "localhost" then
      let body := rest.takeWhile (· != 0x23)
      withParameters (percentDecoded (body.takeWhile (· != 0x3f)))
        (parameters ((body.dropWhile (· != 0x3f)).drop 1))
    else .error (.foreignAuthority (Text.ofBytesLossy host))
  else .ok { name := bytes }

def fileless (address : Address) : Bool :=
  address.name.isEmpty || address.name == Name.ofText ":memory:" || address.access == .memory

def inMemory (address : Address) : Bool := address.fileless || address.system == .memory

/-- Whether nothing can be written. What is no file cannot be frozen. -/
def readOnly (address : Address) : Bool :=
  address.access == .readOnly || (address.frozen && !address.fileless)

def heedsLocks (address : Address) : Bool :=
  !address.lockless && (address.system == .ordinary || address.system == .exclusive)

end Address

end ChainStore.Files
