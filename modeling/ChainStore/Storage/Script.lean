import ChainStore.Storage.Fault

set_option autoImplicit false
set_option relaxedAutoImplicit false

/-!
The script that creates the tables of a cache, as the engine is given it. Only its wording matters
here: the engine quotes what was left of the script when a statement in it was wrong.
-/

namespace ChainStore.Storage

def scripted : List Table := [.tip, .blocks, .transactions]

def Table.columns : Table → List String
  | .metadata => ["key TEXT PRIMARY KEY", "value TEXT NOT NULL"]
  | .tip =>
    ["id INTEGER PRIMARY KEY CHECK (id = 1)", "height INTEGER NOT NULL",
      "updated_at INTEGER NOT NULL"]
  | .blocks =>
    ["height INTEGER PRIMARY KEY", "hash TEXT NOT NULL", "prev_hash TEXT NOT NULL",
      "sapling_flag INTEGER NOT NULL", "payload BLOB NOT NULL"]
  | .transactions =>
    ["id INTEGER PRIMARY KEY AUTOINCREMENT", "block_height INTEGER NOT NULL",
      "block_hash TEXT NOT NULL", "tx_index INTEGER NOT NULL", "tx_hash TEXT NOT NULL",
      "payload BLOB NOT NULL"]

def Table.indexes : Table → List (String × String)
  | .blocks => [("hash", "hash")]
  | .transactions =>
    [("hash", "tx_hash"), ("height", "block_height, tx_index"),
      ("block_hash", "block_hash, tx_index")]
  | _ => []

/-- What stands in front of the name of a table. A blank line parts a table from the one before. -/
def Table.opening (table : Table) : String :=
  (if scripted.head? = some table then "\n" else "\n\n") ++ "    CREATE TABLE "

def Table.statements (table : Table) : String :=
  table.opening ++ table.name ++ " (\n        " ++ String.intercalate ",\n        " table.columns
    ++ "\n    );"
    ++ String.join (table.indexes.map fun index =>
      "\n    CREATE INDEX " ++ table.name ++ "_by_" ++ index.1 ++ " ON " ++ table.name ++ " ("
        ++ index.2 ++ ");")

def scriptFrom (table : Table) : String :=
  String.join ((scripted.dropWhile (· != table)).map Table.statements) ++ "\n"

def Table.offset (table : Table) : Nat := table.opening.length

end ChainStore.Storage
