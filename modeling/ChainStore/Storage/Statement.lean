import ChainStore.Calendar
import ChainStore.Record
import ChainStore.Storage.Task

set_option autoImplicit false
set_option relaxedAutoImplicit false

/-!
Single statements through a connection. A statement needs its table; one that writes needs the
right to write next, then the write lock, then the consent of the standing rejections, row by row.
A statement that fails leaves no effect on the database.
-/

namespace ChainStore.Storage

/-- Begins a unit of several changes: takes the write lock, which another connection may hold. A
connection that may only read begins without it. -/
def beginWrite : Statement Unit where
  run c :=
    match c.readFault? with
    | some fault => (.error fault, c)
    | none =>
      match if c.readOnly then none else c.writeFault? with
      | some fault => (.error fault, c)
      | none => (.ok (), c)

def query {α : Type} (read : Database → Except Fault α) : Statement α where
  run c :=
    match c.readFault? with
    | some fault => (.error fault, c)
    | none => (read c.database, c.look)

/-- A change of the contents of a table. The connection has to know the table, at a second look if
need be, the way to write has to be free, and the table has to be there still. When the change
fails, it is undone. -/
def change {τ α : Type} (table : Table) (contents : Database → Option τ)
    (act : Database → τ → Except Fault α × Database) : Statement α :=
  Task.atomically ⟨fun c =>
    let c := c.seek table
    if c.known.contains table then
      match c.writeFault? with
      | some fault => (.error fault, c)
      | none =>
        match contents c.database with
        | none => (.error (.noSuchTable table), c.look)
        | some t =>
          match act c.database t with
          | (outcome, after) => (outcome, c.look.holding after)
    else (.error (.noSuchTable table), c)⟩

def readRow {α β : Type} (read : α → Except Fault β) : Option α → Except Fault (Option β)
  | none => .ok none
  | some row => (read row).map some

/-! ### Blocks -/

def BlockRow.ofBlock (block : Block) : BlockRow where
  height := block.height.toNat
  hash := .text block.hash
  prevHash := .text block.prevHash
  sapling := .int (if block.sapling then 1 else 0)
  payload := .blob block.payload

/-- Reads a row column by column; the first column that cannot be read is the fault. -/
def BlockRow.toBlock (row : BlockRow) : Except Fault Block := do
  let height ← (Cell.int row.height).word 0 "height"
  let hash ← row.hash.string 1 "hash"
  let prevHash ← row.prevHash.string 2 "prev_hash"
  let sapling ← row.sapling.flag 3 "sapling_flag"
  let payload ← row.payload.bytes 4 "payload"
  return ⟨height, hash, prevHash, sapling, payload⟩

namespace Database

def blockTable (db : Database) : Except Fault BlockTable :=
  match db.blocks with
  | none => .error (.noSuchTable .blocks)
  | some table => .ok table

def payloadAt (height : Height) (db : Database) : Except Fault (Option Payload) := do
  let table ← db.blockTable
  readRow (fun row => row.payload.bytes 0 "payload") (table.row? height.toNat)

def hashAt (height : Height) (db : Database) : Except Fault (Option String) := do
  let table ← db.blockTable
  readRow (fun row => row.hash.string 0 "hash") (table.row? height.toNat)

def blockAt (height : Height) (db : Database) : Except Fault (Option Block) := do
  let table ← db.blockTable
  readRow BlockRow.toBlock (table.row? height.toNat)

def blockWithHash (hash : String) (db : Database) : Except Fault (Option Block) := do
  let table ← db.blockTable
  readRow BlockRow.toBlock (table.highestWithHash? hash)

def highestBlock (db : Database) : Except Fault (Option Height) := do
  let table ← db.blockTable
  readRow (fun height => (Cell.int height).word 0 "MAX(height)") table.highest?

end Database

/-- Stores a block row, in place of the row at its height if there is one. Replacing counts as
an insertion only. -/
def putBlockRow (row : BlockRow) : Statement Unit :=
  change .blocks Database.blocks fun db table =>
    match db.refusal .blocks .insert (.int row.height) with
    | some message => (.error (.rejected message), db)
    | none => (.ok (), { db with blocks := some (table.put row) })

def removeBlockRows (chosen : BlockRow → Bool) : Statement Nat :=
  change .blocks Database.blocks fun db table =>
    match table.remove chosen (fun row => db.refusal .blocks .delete (.int row.height)) with
    | (.ok n, rest) => (.ok n, { db with blocks := some rest })
    | (.error message, rest) => (.error (.rejected message), { db with blocks := some rest })

/-! ### Transactions -/

def TransactionRow.ofTransaction (transaction : Transaction) : TransactionRow where
  blockHeight := .int transaction.blockHeight.toNat
  blockHash := .text transaction.blockHash
  index := .int transaction.index.toNat
  hash := .text transaction.hash
  payload := .blob transaction.payload

def TransactionRow.toTransaction (row : TransactionRow) : Except Fault Transaction := do
  let blockHeight ← row.blockHeight.word 0 "block_height"
  let blockHash ← row.blockHash.string 1 "block_hash"
  let index ← row.index.word 2 "tx_index"
  let hash ← row.hash.string 3 "tx_hash"
  let payload ← row.payload.bytes 4 "payload"
  return ⟨blockHeight, blockHash, index, hash, payload⟩

/-- Of the transactions that match, the one inserted last. -/
def Database.newestTransaction (chosen : TransactionRow → Bool) (db : Database) :
    Except Fault (Option Transaction) :=
  match db.transactions with
  | none => .error (.noSuchTable .transactions)
  | some rows => readRow TransactionRow.toTransaction (rows.filter chosen).getLast?

def addTransactionRow (row : TransactionRow) : Statement Unit :=
  change .transactions Database.transactions fun db rows =>
    match db.refusal .transactions .insert row.blockHeight with
    | some message => (.error (.rejected message), db)
    | none => (.ok (), { db with transactions := some (rows ++ [row]) })

def removeTransactionRows (chosen : TransactionRow → Bool) : Statement Nat :=
  change .transactions Database.transactions fun db rows =>
    match sweep chosen (fun row => db.refusal .transactions .delete row.blockHeight) rows with
    | (.ok n, rest) => (.ok n, { db with transactions := some rest })
    | (.error message, rest) =>
      (.error (.rejected message), { db with transactions := some rest })

/-! ### The tip -/

namespace Database

def tipRow (db : Database) : Except Fault (Option TipRow) :=
  match db.tip with
  | none => .error (.noSuchTable .tip)
  | some row => .ok row

def tipHeight (db : Database) : Except Fault (Option Height) := do
  let row ← db.tipRow
  readRow (fun row : TipRow => (Cell.int row.height).word 0 "height") row

end Database

/-- Reads the row of the tip. Its second is checked before its height. -/
def TipRow.toTip (row : TipRow) : Except Fault Tip :=
  if Calendar.representable row.updatedAt then
    ((Cell.int row.height).word 0 "height").map (fun height => ⟨height, row.updatedAt⟩)
  else .error (.outOfRange 1 row.updatedAt)

def Database.wholeTip (db : Database) : Except Fault (Option Tip) := do
  let row ← db.tipRow
  readRow TipRow.toTip row

/-- Writes the tip. Every write counts as an insertion, and as an update too when a row is there
already. -/
def writeTip (height : Height) (now : Int) : Statement Unit :=
  change .tip Database.tip fun db row =>
    match db.refusal .tip .insert (.int height.toNat) with
    | some message => (.error (.rejected message), db)
    | none =>
      match row.bind (fun _ => db.refusal .tip .update (.int height.toNat)) with
      | some message => (.error (.rejected message), db)
      | none => (.ok (), { db with tip := some (some ⟨height.toNat, now⟩) })

def clearTip : Statement Unit :=
  change .tip Database.tip fun db row =>
    match row.bind (fun row => db.refusal .tip .delete (.int row.height)) with
    | some message => (.error (.rejected message), db)
    | none => (.ok (), { db with tip := some none })

/-! ### Tables -/

def Database.withEmpty (db : Database) : Table → Database
  | .metadata => { db with metadata := some none }
  | .tip => { db with tip := some none }
  | .blocks => { db with blocks := some BlockTable.empty }
  | .transactions => { db with transactions := some [] }

def createTable (table : Table) : Statement Unit where
  run c :=
    if c.database.has table then (.error (.tableExists table), c.look)
    else
      match c.writeFault? with
      | some fault => (.error fault, c)
      | none => (.ok (), (c.holding (c.database.withEmpty table)).look)

def ensureTable (table : Table) : Statement Unit where
  run c :=
    if c.database.has table then (query (fun _ => .ok ())).run c else (createTable table).run c

def Database.recordedVersion (db : Database) : Except Fault (Option String) :=
  match db.metadata with
  | none => .error (.noSuchTable .metadata)
  | some version => .ok version

def recordVersion (version : String) : Statement Unit :=
  change .metadata Database.metadata fun db _ =>
    match db.refusal .metadata .insert (.text version) with
    | some message => (.error (.rejected message), db)
    | none => (.ok (), { db with metadata := some (some version) })

end ChainStore.Storage
