import ChainStore.Storage.Database
import ChainStore.Storage.Script

set_option autoImplicit false
set_option relaxedAutoImplicit false

/-!
Reading the bytes of a database file. A file is cut into pages; each table is a tree of pages whose
leaves hold its rows, and the first page lists the tables. Only files are read whose tables are laid
out as a cache lays them out, with the values that a cache can be given in their rows; other tables
are passed over, and triggers are not read.
-/

namespace ChainStore.Storage

/-- The bytes of a database file with the size of its pages and of the part of a page that is used.
-/
structure Image where
  bytes : ByteArray
  pageSize : Nat
  usable : Nat

namespace Image

/-! ### Numbers -/

def natural (bytes : List UInt8) : Nat := bytes.foldl (fun n b => 256 * n + b.toNat) 0

def integer (bytes : List UInt8) : Int := Int.bmod (natural bytes) (Nat.pow 256 bytes.length)

def take? (size : Nat) (bytes : List UInt8) : Option (List UInt8 × List UInt8) :=
  if size ≤ bytes.length then some (bytes.splitAt size) else none

def naturalAt? (bytes : List UInt8) (offset size : Nat) : Option Nat :=
  (take? size (bytes.drop offset)).map (fun taken => natural taken.1)

/-- Reads on in a number of varying length, of which `n` has been read and at most `left` bytes
with seven bits each are to come before one with eight. -/
def varintFrom : Nat → Nat → List UInt8 → Option (Nat × List UInt8)
  | _, _, [] => none
  | 0, n, b :: bs => some (256 * n + b.toNat, bs)
  | left + 1, n, b :: bs =>
    if b < 0x80 then some (128 * n + b.toNat, bs)
    else varintFrom left (128 * n + (b.toNat - 128)) bs

def varint? (bytes : List UInt8) : Option (Nat × List UInt8) := varintFrom 8 0 bytes

/-! ### Rows -/

/-- The values of a row; a value that is missing is `none`. -/
abbrev Record := List (Option Cell)

def integerSize : Nat → Nat
  | 5 => 6
  | 6 => 8
  | type => type

def value? (type : Nat) (bytes : List UInt8) : Option (Option Cell × List UInt8) :=
  if type = 0 then some (none, bytes)
  else if type ≤ 6 then
    (take? (integerSize type) bytes).map fun taken => (some (.int (integer taken.1)), taken.2)
  else if type = 7 then
    (take? 8 bytes).map fun taken => (some (.real (UInt64.ofNat (natural taken.1))), taken.2)
  else if type = 8 then some (some (.int 0), bytes)
  else if type = 9 then some (some (.int 1), bytes)
  else if type < 12 then none
  else if type % 2 = 0 then
    (take? ((type - 12) / 2) bytes).map fun taken => (some (.blob taken.1), taken.2)
  else (take? ((type - 13) / 2) bytes).map fun taken => (some (.text ⟨taken.1⟩), taken.2)

def values? : List Nat → List UInt8 → Option Record
  | [], _ => some []
  | type :: types, bytes => do
    let (value, rest) ← value? type bytes
    return value :: (← values? types rest)

def varints? : Nat → List UInt8 → Option (List Nat)
  | _, [] => some []
  | 0, _ => none
  | count + 1, bytes => do
    let (n, rest) ← varint? bytes
    return n :: (← varints? count rest)

def record? (payload : List UInt8) : Option Record := do
  let (size, rest) ← varint? payload
  let (header, body) ← take? (size - (payload.length - rest.length)) rest
  values? (← varints? header.length header) body

/-! ### Pages -/

variable (image : Image)

def pages : Nat := image.bytes.size / image.pageSize

def page? (n : Nat) : Option (List UInt8) :=
  if 1 ≤ n ∧ n ≤ image.pages then
    some (image.bytes.extract ((n - 1) * image.pageSize) (n * image.pageSize)).data.toList
  else none

def overflow? : Nat → Nat → Nat → Option (List UInt8)
  | _, 0, _ => some []
  | 0, _, _ => none
  | count + 1, size, n => do
    let page ← image.page? n
    let next ← naturalAt? page 0 4
    let here := (page.drop 4).take (min size (image.usable - 4))
    return here ++ (← overflow? count (size - here.length) next)

/-- How many bytes of a row stand in its leaf when the row takes a number of bytes. -/
def localSize (size : Nat) : Nat :=
  let most := image.usable - 35
  let least := (image.usable - 12) * 32 / 255 - 23
  let wanted := least + (size - least) % (image.usable - 4)
  if size ≤ most then size else if wanted ≤ most then wanted else least

def payload? (size : Nat) (bytes : List UInt8) : Option (List UInt8) := do
  let (here, rest) ← take? (image.localSize size) bytes
  if here.length = size then return here
  return here ++ (← image.overflow? image.pages (size - here.length) (← naturalAt? rest 0 4))

def cell? (bytes : List UInt8) : Option (Int × Record) := do
  let (size, rest) ← varint? bytes
  let (number, rest) ← varint? rest
  return (Int.bmod number (Nat.pow 2 64), ← record? (← image.payload? size rest))

def rows? : Nat → Nat → Option (List (Int × Record))
  | 0, _ => none
  | depth + 1, n => do
    let page ← image.page? n
    let header := page.drop (if n = 1 then 100 else 0)
    let count ← naturalAt? header 3 2
    let offsets (start : Nat) :=
      (List.range count).mapM fun i => naturalAt? header (start + 2 * i) 2
    match header.head? with
    | some 0x0d => (← offsets 8).mapM fun offset => image.cell? (page.drop offset)
    | some 0x05 =>
      let children ← (← offsets 12).mapM fun offset => naturalAt? page offset 4
      let last ← naturalAt? header 8 4
      return (← (children ++ [last]).mapM (rows? depth)).flatten
    | _ => none

/-! ### Tables -/

structure Entry where
  kind : String
  name : String
  table : String
  root : Nat
  statement : Option String

def entry? : Record → Option Entry
  | [some (.text kind), some (.text name), some (.text table), some (.int root), statement] => do
    let statement ← match statement with
      | none => some none
      | some (.text t) => t.read?.map some
      | some _ => none
    return ⟨← kind.read?, ← name.read?, ← table.read?, root.toNat, statement⟩
  | _ => none

def squeezed (statement : String) : String :=
  String.ofList (statement.toList.filter (fun c => !c.isWhitespace))

def definition (table : Table) : String :=
  squeezed ("CREATE TABLE " ++ table.name ++ "(" ++ String.intercalate "," table.columns ++ ")")

def indexDefinitions (table : Table) : List String :=
  table.indexes.map fun index =>
    squeezed ("CREATE INDEX " ++ table.name ++ "_by_" ++ index.1 ++ " ON " ++ table.name ++ "("
      ++ index.2 ++ ")")

/-- Whether an entry is one that a cache makes, or has nothing to do with the tables of a cache. -/
def Entry.plain (entry : Entry) : Bool :=
  match [Table.metadata, .tip, .blocks, .transactions].find? (·.name == entry.table.toLower) with
  | none => entry.kind == "table" || entry.kind == "index"
  | some table =>
    match entry.kind, entry.statement.map squeezed with
    | "table", some statement => statement == definition table
    | "index", some statement => (indexDefinitions table).contains statement
    | "index", none => true
    | _, _ => false

/-- The rows of a table as what they are to be read as; `some none` if there is no such table. -/
def table? {α : Type} (entries : List Entry) (table : Table)
    (read : List (Int × Record) → Option α) : Option (Option α) :=
  match entries.find? (fun entry => entry.kind == "table" && entry.table == table.name) with
  | none => some none
  | some entry => ((image.rows? image.pages entry.root).bind read).map some

def versionRow? : Int × Record → Option (String × String)
  | (_, [some (.text key), some (.text value)]) => do return (← key.read?, ← value.read?)
  | _ => none

def tipRow? : Int × Record → Option TipRow
  | (1, [none, some (.int height), some (.int updatedAt)]) => some ⟨height, updatedAt⟩
  | _ => none

def blockRow? : Int × Record → Option BlockRow
  | (height, [none, some hash, some prevHash, some sapling, some payload]) =>
    some ⟨height, hash, prevHash, sapling, payload⟩
  | _ => none

def transactionRow? : Int × Record → Option TransactionRow
  | (_, [none, some height, some blockHash, some index, some hash, some payload]) =>
    some ⟨height, blockHash, index, hash, payload⟩
  | _ => none

/-- The database in an image, if it has a table of a cache. -/
def database? (logged : Bool) : Option Database := do
  let entries ← (← image.rows? image.pages 1).mapM (fun row => entry? row.2)
  if !entries.all Entry.plain then none
  let metadata ← image.table? entries .metadata fun rows =>
    (rows.mapM versionRow?).map (List.lookup "schema_version")
  let tip ← image.table? entries .tip fun rows => (rows.mapM tipRow?).map List.head?
  let blocks ← image.table? entries .blocks fun rows =>
    (rows.mapM blockRow?).map (List.foldl (fun table row => table.put row) BlockTable.empty)
  let transactions ← image.table? entries .transactions fun rows => rows.mapM transactionRow?
  let db : Database := ⟨metadata, tip, blocks, transactions, [], false, logged⟩
  if db.tables.isEmpty then none else some db

def magic : List UInt8 := "SQLite format 3\x00".toUTF8.data.toList

end Image

/-- The database that bytes hold: behind those that every such file begins with stand the size of
its pages, whether changes go to a log, how much of a page is left alone, and how texts are encoded.
-/
def Database.ofBytes? (bytes : List UInt8) : Option Database :=
  if Image.magic.isPrefixOf bytes then do
    let size ← Image.naturalAt? bytes 16 2
    let format ← Image.naturalAt? bytes 19 1
    let reserved ← Image.naturalAt? bytes 20 1
    let encoding ← Image.naturalAt? bytes 56 4
    let pageSize := if size = 1 then 65536 else size
    if pageSize < 512 || encoding != 1 then none
    Image.database? ⟨⟨bytes.toArray⟩, pageSize, pageSize - reserved⟩ (format == 2)
  else none

end ChainStore.Storage
