import ChainStore.Storage.Cell

set_option autoImplicit false
set_option relaxedAutoImplicit false

/-!
Why the storage engine refuses a statement or cannot hand over a value.
-/

namespace ChainStore.Storage

inductive Table where
  | metadata
  | tip
  | blocks
  | transactions
deriving DecidableEq

def Table.name : Table → String
  | .metadata => "metadata"
  | .tip => "chain_state"
  | .blocks => "blocks"
  | .transactions => "transactions"

inductive Fault where
  /-- The statement names a table that does not exist. -/
  | noSuchTable (table : Table)
  /-- A table that is to be created is there already. -/
  | tableExists (table : Table)
  /-- Another connection holds the write lock. -/
  | locked
  /-- The connection may only read. -/
  | readOnly
  /-- The file holds something else than a database. -/
  | notADatabase
  /-- The file cannot be opened at all. -/
  | cannotOpen (path : String)
  /-- The log of the file cannot be followed. -/
  | logOutOfReach
  /-- The file system fails to read. -/
  | unreadable
  /-- The address of the database names another machine. -/
  | foreignAuthority (authority : String)
  /-- The address asks for a file system that is not there. -/
  | noSuchFileSystem (name : String)
  /-- The address asks for an unknown way to share pages. -/
  | noSuchCacheMode (mode : String)
  /-- The address asks for an unknown way to open the file. -/
  | noSuchAccessMode (mode : String)
  /-- The address asks for more than it has already settled for. -/
  | accessNotAllowed (mode : String)
  /-- The name of the file holds a NUL, which ends names. -/
  | nulInPath (path : String)
  /-- A rejection standing on the table refused a row. -/
  | rejected (message : String)
  /-- A stored integer does not fit what is read from the column. -/
  | outOfRange (column : Nat) (value : Int)
  /-- A stored value has the wrong form for the column. -/
  | wrongKind (column : Nat) (name : String) (found : Kind)
  /-- A stored text is no text: its bytes are not UTF-8. -/
  | misencoded (column : Nat) (flaw : Text.Flaw)
  /-- A row was promised and none came. -/
  | noRows
deriving DecidableEq

def nulPosition (s : String) : Nat :=
  (String.ofList (s.toList.takeWhile (fun c => c != '\x00'))).utf8ByteSize

def Fault.message : Fault → String
  | .noSuchTable table => "no such table: " ++ table.name
  | .tableExists table => "table " ++ table.name ++ " already exists"
  | .locked => "database is locked"
  | .readOnly => "attempt to write a readonly database"
  | .notADatabase => "file is not a database"
  | .cannotOpen path => "unable to open database file: " ++ path
  | .logOutOfReach => "unable to open database file"
  | .unreadable => "disk I/O error"
  | .foreignAuthority authority => "invalid uri authority: " ++ authority
  | .noSuchFileSystem name => "no such vfs: " ++ name
  | .noSuchCacheMode mode => "no such cache mode: " ++ mode
  | .noSuchAccessMode mode => "no such access mode: " ++ mode
  | .accessNotAllowed mode => "access mode not allowed: " ++ mode
  | .nulInPath path => s!"nul byte found in provided data at position: {nulPosition path}"
  | .rejected message => message
  | .outOfRange column value => s!"Integer {value} out of range at index {column}"
  | .wrongKind column name found =>
    "Invalid column type " ++ found.name ++ " at index: " ++ toString column ++ ", name: " ++ name
  | .misencoded column flaw =>
    s!"Conversion error from type Text at index: {column}, " ++ flaw.message
  | .noRows => "Query returned no rows"

namespace Cell

def word (column : Nat) (name : String) : Cell → Except Fault UInt32
  | .int n =>
    if 0 ≤ n ∧ n < 4294967296 then .ok (UInt32.ofNat n.toNat) else .error (.outOfRange column n)
  | c => .error (.wrongKind column name c.kind)

def string (column : Nat) (name : String) : Cell → Except Fault String
  | .text t =>
    match t.read? with
    | some s => .ok s
    | none => .error (.misencoded column t.flaw)
  | c => .error (.wrongKind column name c.kind)

@[simp] theorem string_ofString (column : Nat) (name s : String) :
    (Cell.text (Text.ofString s)).string column name = .ok s := by
  simp [string]

/-- Reads a value as a flag: any integer but zero is true. -/
def flag (column : Nat) (name : String) : Cell → Except Fault Bool
  | .int n => .ok (n != 0)
  | c => .error (.wrongKind column name c.kind)

def bytes (column : Nat) (name : String) : Cell → Except Fault (List UInt8)
  | .blob b => .ok b
  | c => .error (.wrongKind column name c.kind)

end Cell

end ChainStore.Storage
