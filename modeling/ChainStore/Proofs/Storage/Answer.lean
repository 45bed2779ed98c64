import ChainStore.Proofs.Storage.Rows

set_option autoImplicit false
set_option relaxedAutoImplicit false

/-!
What single statements answer, as equations over the database and what the connection may do, and
how cells and rows are read that were written as words, blocks and transactions.
-/

namespace ChainStore.Storage

theorem answer_query {α : Type} (read : Database → Except Fault α) (c : Connection) :
    ((query read).run c).1 =
      match c.readFault? with
      | some fault => .error fault
      | none => read c.database := by
  simp only [query]
  cases c.readFault? <;> rfl

private theorem contains_tables (db : Database) (table : Table) :
    db.tables.contains table = db.has table := by
  rw [Bool.eq_iff_iff, List.contains_iff_mem]
  cases table <;> simp [Database.tables]

theorem run_query {α : Type} (read : Database → Except Fault α) {c : Connection}
    (able : c.readFault? = none) : (query read).run c = (read c.database, c.look) := by
  simp only [query, able]

theorem readFault?_of_writeFault? {c : Connection} (able : c.writeFault? = none) :
    c.readFault? = none := by
  unfold Connection.writeFault? at able
  unfold Connection.readFault?
  split at able
  · cases able
  · split at able
    · cases able
    · rename_i reachable
      rw [if_neg reachable]

theorem Task.run_bind_ok {ε α β : Type} {task : Task ε α} {next : α → Task ε β}
    {c after : Connection} {a : α} (succeeded : task.run c = (.ok a, after)) :
    (task >>= next).run c = (next a).run after := by
  rw [run_bind, succeeded]

theorem Task.answer_bind_error {ε α β : Type} {task : Task ε α} {next : α → Task ε β}
    {c : Connection} {e : ε} (failed : (task.run c).1 = .error e) :
    ((task >>= next).run c).1 = .error e := by
  rw [run_bind]
  split
  · rename_i ran
    rw [ran] at failed
    cases failed
  · rename_i ran
    rw [ran] at failed
    rw [Except.error.inj failed]

theorem Task.answer_atomically {ε α : Type} (task : Task ε α) (c : Connection) :
    ((atomically task).run c).1 = (task.run c).1 := by
  unfold atomically
  simp only
  split
  · rename_i ran
    rw [ran]
  · rename_i ran
    rw [ran]

theorem Task.answer_mapFailure {ε ε' α : Type} (report : ε → ε') (task : Task ε α)
    (c : Connection) : ((task.mapFailure report).run c).1 = (task.run c).1.mapError report := by
  unfold mapFailure
  simp only
  split
  · rename_i ran
    rw [ran]
    rfl
  · rename_i ran
    rw [ran]
    rfl

theorem answer_change {τ α : Type} (table : Table) (contents : Database → Option τ)
    (act : Database → τ → Except Fault α × Database) (c : Connection) :
    ((change table contents act).run c).1 =
      if c.known.contains table || c.database.has table then
        match c.writeFault? with
        | some fault => .error fault
        | none =>
          match contents c.database with
          | none => .error (.noSuchTable table)
          | some t => (act c.database t).1
      else .error (.noSuchTable table) := by
  have known : (c.seek table).known.contains table =
      (c.known.contains table || c.database.has table) := by
    unfold Connection.seek
    split
    · rename_i seen
      simp only [seen, Bool.true_or]
    · rename_i unseen
      simp only [unseen, Bool.false_or, Connection.look, contains_tables]
  have writes : (c.seek table).writeFault? = c.writeFault? := by
    unfold Connection.seek
    split <;> rfl
  simp only [change, Task.answer_atomically, known, writes, Connection.database_seek]
  cases c.known.contains table || c.database.has table with
  | false => rfl
  | true => cases c.writeFault? <;> cases contents c.database <;> rfl

def Connection.writing {α : Type} (c : Connection) (answer : Except Fault α) : Except Fault α :=
  match c.writeFault? with
  | some fault => .error fault
  | none => answer

theorem answer_change_of_table {τ α : Type} (table : Table) (contents : Database → Option τ)
    (act : Database → τ → Except Fault α × Database) {c : Connection} {t : τ}
    (there : c.database.has table = true) (found : contents c.database = some t) :
    ((change table contents act).run c).1 = c.writing (act c.database t).1 := by
  rw [answer_change, there, Bool.or_true, if_pos rfl, found]
  rfl

theorem Task.rights_atomically {ε α : Type} (task : Task ε α) (c : Connection) :
    ((atomically task).run c).2.toRights = (task.run c).2.toRights := by
  unfold atomically
  simp only
  split
  · rename_i ran
    rw [ran]
  · rename_i ran
    rw [ran]
    rfl

theorem rights_change {τ α : Type} (table : Table) (contents : Database → Option τ)
    (act : Database → τ → Except Fault α × Database) (c : Connection) :
    ((change table contents act).run c).2.toRights = c.toRights := by
  have sought : (c.seek table).toRights = c.toRights := by
    unfold Connection.seek
    split <;> rfl
  rw [change, Task.rights_atomically, ← sought]
  simp only
  split
  · split
    · rfl
    · split <;> rfl
  · rfl

def Task.KeepsRights {ε α : Type} (task : Task ε α) : Prop :=
  ∀ c, (task.run c).2.toRights = c.toRights

theorem Task.KeepsRights.bind {ε α β : Type} {task : Task ε α} {next : α → Task ε β}
    (first : task.KeepsRights) (second : ∀ a, (next a).KeepsRights) :
    (task >>= next).KeepsRights := by
  intro c
  rw [run_bind]
  have same := first c
  split
  · rename_i a middle ran
    rw [ran] at same
    exact (second a middle).trans same
  · rename_i e middle ran
    rw [ran] at same
    exact same

theorem Task.KeepsRights.mapFailure {ε ε' α : Type} {task : Task ε α} (keeps : task.KeepsRights)
    (report : ε → ε') : (task.mapFailure report).KeepsRights := by
  intro c
  have same := keeps c
  unfold Task.mapFailure
  simp only
  split <;> simp_all

theorem keepsRights_query {α : Type} (read : Database → Except Fault α) :
    (query read).KeepsRights := by
  intro c
  simp only [query]
  split <;> rfl

theorem keepsRights_beginWrite : beginWrite.KeepsRights := by
  intro c
  simp only [beginWrite]
  split
  · rfl
  · split <;> rfl

/-- What decides what a connection may do with a database, apart from its rights. -/
structure Database.SameAccess (db other : Database) : Prop where
  locked : other.locked = db.locked
  logged : other.logged = db.logged

theorem readFault?_congr {c other : Connection} (rights : other.toRights = c.toRights)
    (access : c.database.SameAccess other.database) : other.readFault? = c.readFault? := by
  simp only [Connection.readFault?, rights, access.logged]

theorem writeFault?_congr {c other : Connection} (rights : other.toRights = c.toRights)
    (access : c.database.SameAccess other.database) : other.writeFault? = c.writeFault? := by
  simp only [Connection.writeFault?, rights, access.logged, access.locked]

/-! ### Rows at a height -/

/-- The row at a height; nothing is said where there is no table for it. -/
def Database.rowAt (height : Height) (db : Database) : Option (Option BlockRow) :=
  db.blocks.map fun table => table.row? height.toNat

theorem payloadAt_congr {db other : Database} {height : Height}
    (same : other.rowAt height = db.rowAt height) :
    other.payloadAt height = db.payloadAt height := by
  have read (db : Database) : db.payloadAt height =
      match db.rowAt height with
      | none => .error (.noSuchTable .blocks)
      | some row => readRow (fun row => row.payload.bytes 0 "payload") row := by
    unfold Database.payloadAt Database.blockTable Database.rowAt
    cases db.blocks <;> rfl
  rw [read, read, same]

/-! ### Values -/

theorem Cell.word_toNat (column : Nat) (name : String) (n : UInt32) :
    (Cell.int n.toNat).word column name = .ok n := by
  have small := n.toNat_lt
  have fits : (0 : Int) ≤ n.toNat ∧ (n.toNat : Int) < 4294967296 := by omega
  simp only [Cell.word, fits, and_self, ↓reduceIte, Int.toNat_natCast, UInt32.ofNat_toNat]

theorem Cell.equalsInt_int (m n : Int) : (Cell.int m).equalsInt n = decide (m = n) := by
  simp only [equalsInt, compareInt]
  rcases lt_trichotomy m n with below | rfl | above
  · rw [compare_lt_iff_lt.mpr below]
    simp [below.ne]
  · simp
  · rw [compare_gt_iff_gt.mpr above]
    simp [above.ne']

theorem Cell.above_int (m n : Int) : (Cell.int m).above n = decide (n < m) := by
  simp only [Cell.above, compareInt]
  rcases lt_trichotomy m n with below | rfl | above
  · rw [compare_lt_iff_lt.mpr below]
    simp [below.le]
  · simp
  · rw [compare_gt_iff_gt.mpr above]
    simp [above]

private theorem gt_of_not_lt {k m n : Int} (below : m < n) (reaches : compare k n ≠ .lt) :
    compare k m = .gt := by
  have := compare_lt_iff_lt.not.mp reaches
  exact compare_gt_iff_gt.mpr (by omega)

theorem Cell.above_of_lt {c : Cell} {m n : Int} (below : m < n) (reaches : c.compareInt n ≠ .lt) :
    c.above m = true := by
  suffices after : c.compareInt m = .gt by rw [Cell.above, after]; rfl
  cases c with
  | int k => exact gt_of_not_lt below reaches
  | real bits =>
    simp only [Cell.compareInt] at reaches ⊢
    split at reaches
    · rename_i x _
      have positive : (0 : Int) < x.denominator := by
        exact_mod_cast Nat.two_pow_pos (-x.exponent).toNat
      exact gt_of_not_lt (Int.mul_lt_mul_of_pos_right below positive) reaches
    · split at reaches
      · exact absurd rfl reaches
      · rename_i positive
        rw [if_neg positive]
  | text s | blob bytes => rfl

theorem Cell.above_of_above {c : Cell} {m n : Int} (below : m ≤ n) (above : c.above n = true) :
    c.above m = true := by
  rcases Int.le_iff_lt_or_eq.mp below with lower | rfl
  · refine Cell.above_of_lt lower ?_
    rw [eq_of_beq above]
    decide
  · exact above

theorem Cell.above_of_equalsInt {c : Cell} {m n : Int} (below : m < n)
    (equal : c.equalsInt n = true) : c.above m = true := by
  refine Cell.above_of_lt below ?_
  rw [eq_of_beq equal]
  decide

theorem Cell.equalsInt_unique {c : Cell} {m n : Int} (one : c.equalsInt m = true)
    (other : c.equalsInt n = true) : m = n := by
  have not_below {m n : Int} (one : c.equalsInt m = true) (other : c.equalsInt n = true) :
      ¬ m < n := by
    intro below
    have above := Cell.above_of_equalsInt below other
    rw [Cell.above, eq_of_beq one] at above
    cases above
  exact le_antisymm (not_lt.mp (not_below other one)) (not_lt.mp (not_below one other))

theorem Cell.equalsInt_word (m n : UInt32) :
    (Cell.int m.toNat).equalsInt n.toNat = decide (m = n) := by
  rw [equalsInt_int]
  simp only [Int.ofNat_inj, UInt32.toNat_inj]

theorem Cell.above_word (m n : UInt32) :
    (Cell.int m.toNat).above n.toNat = decide (n < m) := by
  rw [above_int]
  simp only [Int.ofNat_lt, UInt32.lt_iff_toNat_lt]

theorem Database.blockTable_of_table {db : Database} {table : BlockTable}
    (stored : db.blocks = some table) : db.blockTable = .ok table := by
  rw [blockTable, stored]

theorem highestBlock_of_highest? {db : Database} {table : BlockTable} {top : Option Height}
    (stored : db.blocks = some table)
    (highest : table.highest? = top.map fun height => (height.toNat : Int)) :
    db.highestBlock = .ok top := by
  rw [Database.highestBlock, Database.blockTable_of_table stored]
  show readRow _ table.highest? = _
  rw [highest]
  cases top with
  | none => rfl
  | some height => rw [Option.map_some, readRow, Cell.word_toNat]; rfl

theorem BlockRow.toBlock_ofBlock (block : Block) : (ofBlock block).toBlock = .ok block := by
  simp only [toBlock, ofBlock, Cell.word_toNat, Cell.string_ofString]
  obtain ⟨height, hash, prevHash, sapling, payload⟩ := block
  cases sapling <;> rfl

theorem Database.read_of_row {α : Type} {read : BlockRow → Except Fault α} {db : Database}
    {table : BlockTable} {height : Int} {row : BlockRow} {a : α} (stored : db.blocks = some table)
    (here : table.row? height = some row) (legible : read row = .ok a) :
    (db.blockTable >>= fun table => readRow read (table.row? height)) = .ok (some a) := by
  rw [blockTable_of_table stored]
  show readRow read (table.row? height) = _
  rw [here, readRow, legible]
  rfl

theorem TransactionRow.toTransaction_ofTransaction (transaction : Transaction) :
    (ofTransaction transaction).toTransaction = .ok transaction := by
  simp only [toTransaction, ofTransaction, Cell.word_toNat, Cell.string_ofString]
  rfl

end ChainStore.Storage
