import ChainStore.Storage.Fault

set_option autoImplicit false
set_option relaxedAutoImplicit false

/-!
The contents of a cache file: four tables, any of which may be missing, the rejections that other
programs left standing on them, whether another connection holds the write lock, and whether changes
go to a log beside the file. Block rows are kept in ascending order with one row a height. Behind
the back of the cache other programs may change rows and tables at will, leave rejections standing
and hold the write lock.
-/

namespace ChainStore.Storage

structure BlockRow where
  height : Int
  hash : Cell
  prevHash : Cell
  sapling : Cell
  payload : Cell
deriving DecidableEq

structure TransactionRow where
  blockHeight : Cell
  blockHash : Cell
  index : Cell
  hash : Cell
  payload : Cell
deriving DecidableEq

structure TipRow where
  height : Int
  updatedAt : Int
deriving DecidableEq

/-- Removes the chosen rows one by one. A row whose removal is refused ends the walk: it and all
rows behind it stay, and the refusal is the outcome. Otherwise the outcome is the number removed. -/
def sweep {α : Type} (chosen : α → Bool) (refusal : α → Option String) :
    List α → Except String Nat × List α
  | [] => (.ok 0, [])
  | row :: rows =>
    if chosen row then
      match refusal row with
      | some message => (.error message, row :: rows)
      | none =>
        match sweep chosen refusal rows with
        | (.ok n, rest) => (.ok (n + 1), rest)
        | (.error message, rest) => (.error message, rest)
    else
      match sweep chosen refusal rows with
      | (outcome, rest) => (outcome, row :: rest)

theorem sweep_sublist {α : Type} (chosen : α → Bool) (refusal : α → Option String)
    (rows : List α) : (sweep chosen refusal rows).2.Sublist rows := by
  induction rows with
  | nil => exact List.Sublist.refl _
  | cons row rows ih =>
    unfold sweep
    split
    · split
      · exact List.Sublist.refl _
      · split <;> simp_all
    · split
      simp_all

/-- Block rows in ascending order of height, hence at most one row a height. -/
structure BlockTable where
  rows : List BlockRow
  ordered : rows.Pairwise (fun a b => a.height < b.height)

namespace BlockTable

instance : DecidableEq BlockTable := fun a b =>
  decidable_of_iff (a.rows = b.rows)
    ⟨fun same => by cases a; cases b; cases same; rfl, fun same => same ▸ rfl⟩

def empty : BlockTable := ⟨[], List.Pairwise.nil⟩

def place (row : BlockRow) : List BlockRow → List BlockRow
  | [] => [row]
  | r :: rs =>
    if r.height < row.height then r :: place row rs
    else if r.height = row.height then row :: rs
    else row :: r :: rs

theorem mem_place {row r : BlockRow} {rows : List BlockRow} (member : r ∈ place row rows) :
    r = row ∨ r ∈ rows := by
  induction rows with
  | nil => simpa [place] using member
  | cons first rows ih =>
    unfold place at member
    split at member
    · rcases List.mem_cons.mp member with same | deeper
      · exact .inr (same ▸ List.mem_cons_self)
      · exact (ih deeper).imp_right (List.mem_cons_of_mem first)
    · split at member
      · rcases List.mem_cons.mp member with same | deeper
        · exact .inl same
        · exact .inr (List.mem_cons_of_mem first deeper)
      · rcases List.mem_cons.mp member with same | deeper
        · exact .inl same
        · exact .inr deeper

theorem place_ordered (row : BlockRow) (rows : List BlockRow)
    (ordered : rows.Pairwise (fun a b => a.height < b.height)) :
    (place row rows).Pairwise (fun a b => a.height < b.height) := by
  induction rows with
  | nil => simp [place]
  | cons first rows ih =>
    obtain ⟨above, rest⟩ := List.pairwise_cons.mp ordered
    unfold place
    split
    · refine List.pairwise_cons.mpr ⟨fun r member => ?_, ih rest⟩
      rcases mem_place member with same | old
      · subst same
        assumption
      · exact above r old
    · split
      · refine List.pairwise_cons.mpr ⟨fun r member => ?_, rest⟩
        have := above r member
        omega
      · refine List.pairwise_cons.mpr ⟨fun r member => ?_, ordered⟩
        rcases List.mem_cons.mp member with same | old
        · subst same
          omega
        · have := above r old
          omega

def put (row : BlockRow) (table : BlockTable) : BlockTable :=
  ⟨place row table.rows, place_ordered row table.rows table.ordered⟩

def row? (table : BlockTable) (height : Int) : Option BlockRow :=
  table.rows.find? (fun row => row.height == height)

def highestWithHash? (table : BlockTable) (hash : String) : Option BlockRow :=
  (table.rows.filter (fun row => row.hash.isText hash)).getLast?

def highest? (table : BlockTable) : Option Int :=
  table.rows.getLast?.map BlockRow.height

def remove (chosen : BlockRow → Bool) (refusal : BlockRow → Option String) (table : BlockTable) :
    Except String Nat × BlockTable :=
  ((sweep chosen refusal table.rows).1,
    ⟨(sweep chosen refusal table.rows).2,
      table.ordered.sublist (sweep_sublist chosen refusal table.rows)⟩)

end BlockTable

inductive Event where
  | insert
  | update
  | delete
deriving DecidableEq

/-- A standing order to refuse an event on a table, for every row or for one height only. -/
structure Rejection where
  table : Table
  event : Event
  message : String
  height : Option Int
deriving DecidableEq

def Rejection.applies (r : Rejection) (table : Table) (event : Event) (height : Cell) : Bool :=
  r.table == table && r.event == event &&
    match r.height with
    | none => true
    | some only => height.equalsInt only

/-- The contents of a cache file. A table that does not exist is `none`; of the metadata only
the recorded layout version matters. -/
structure Database where
  metadata : Option (Option String)
  tip : Option (Option TipRow)
  blocks : Option BlockTable
  transactions : Option (List TransactionRow)
  rejections : List Rejection
  locked : Bool
  logged : Bool
deriving DecidableEq

namespace Database

def blank : Database := ⟨none, none, none, none, [], false, false⟩

def has (db : Database) : Table → Bool
  | .metadata => db.metadata.isSome
  | .tip => db.tip.isSome
  | .blocks => db.blocks.isSome
  | .transactions => db.transactions.isSome

def tables (db : Database) : List Table :=
  [Table.metadata, .tip, .blocks, .transactions].filter db.has

/-- The message of the rejection that is heard, which is the youngest of those that apply. The
rejections stand in the order in which they were made. -/
def refusal (db : Database) (table : Table) (event : Event) (height : Cell) : Option String :=
  (db.rejections.findRev? (fun r => r.applies table event height)).map Rejection.message

end Database

/-! ### Other programs -/

inductive Interference where
  | setTip (row : TipRow)
  | setVersion (version : Option String)
  | putBlock (row : BlockRow)
  | addTransaction (row : TransactionRow)
  | dropTable (table : Table)
  | reject (rejection : Rejection)
  | allow (table : Table) (event : Event)
  | lock
  | unlock
deriving DecidableEq

def BlockRow.kept (row : BlockRow) : BlockRow where
  height := row.height
  hash := row.hash.asTextColumn
  prevHash := row.prevHash.asTextColumn
  sapling := row.sapling.asIntegerColumn
  payload := row.payload

def TransactionRow.kept (row : TransactionRow) : TransactionRow where
  blockHeight := row.blockHeight.asIntegerColumn
  blockHash := row.blockHash.asTextColumn
  index := row.index.asIntegerColumn
  hash := row.hash.asTextColumn
  payload := row.payload

/-- The database without a table. Its rejections go with it. -/
def Database.without (db : Database) (table : Table) : Database :=
  let rest := { db with rejections := db.rejections.filter (fun r => r.table != table) }
  match table with
  | .metadata => { rest with metadata := none }
  | .tip => { rest with tip := none }
  | .blocks => { rest with blocks := none }
  | .transactions => { rest with transactions := none }

/-- The effect of an interference. Rows for a missing table are lost. -/
def Interference.apply (db : Database) : Interference → Database
  | .setTip row => { db with tip := db.tip.map (fun _ => some row) }
  | .setVersion version => { db with metadata := db.metadata.map (fun _ => version) }
  | .putBlock row => { db with blocks := db.blocks.map (BlockTable.put row.kept) }
  | .addTransaction row => { db with transactions := db.transactions.map (· ++ [row.kept]) }
  | .dropTable table => db.without table
  | .reject rejection => { db with rejections := db.rejections ++ [rejection] }
  | .allow table event =>
    { db with rejections := db.rejections.filter (fun r => r.table != table || r.event != event) }
  | .lock => { db with locked := true }
  | .unlock => { db with locked := false }

end ChainStore.Storage
