import ChainStore.Proofs.Storage.Answer

set_option autoImplicit false
set_option relaxedAutoImplicit false

/-!
When single statements fail. A connection that is not kept out fails to change a table exactly if it
may only read, if the table is missing, or if a rejection speaks about a row that the change is
about.
-/

namespace ChainStore.Storage

def Database.Rejects (db : Database) (table : Table) (event : Event) (height : Cell) : Prop :=
  ∃ rejection ∈ db.rejections, rejection.applies table event height = true

theorem Database.isSome_refusal {db : Database} {table : Table} {event : Event} {height : Cell} :
    (db.refusal table event height).isSome ↔ db.Rejects table event height := by
  simp only [refusal, Option.isSome_map, List.findRev?_eq_find?_reverse, List.find?_isSome,
    List.mem_reverse, Rejects]

def Database.blockHeights (db : Database) : Set Int :=
  {height | ∃ table, db.blocks = some table ∧ height ∈ table.heights}

theorem Database.blockHeights_of_table {db : Database} {table : BlockTable}
    (stored : db.blocks = some table) : db.blockHeights = table.heights := by
  ext height
  simp [blockHeights, stored]

/-- Something keeps the connection from beginning a unit of changes: if it heeds locks, the write
lock that another one holds, unless it may only read and does not ask for it; else a log. -/
def Connection.KeptOut (c : Connection) : Prop :=
  if c.heedsLocks then c.readOnly = false ∧ c.database.locked = true else c.database.logged = true

def Task.Fails {ε α : Type} (task : Task ε α) (c : Connection) : Prop :=
  ∃ e, (task.run c).1 = .error e

theorem Task.not_fails {ε α : Type} {task : Task ε α} {c : Connection} :
    ¬ task.Fails c ↔ ∃ a after, task.run c = (.ok a, after) := by
  unfold Fails
  obtain ⟨answer, after⟩ := task.run c
  cases answer <;> simp

theorem fails_query_bind {α β : Type} {read : Database → Except Fault α}
    {next : α → Statement β} {c : Connection} (able : c.readFault? = none) :
    (query read >>= next).Fails c ↔
      match read c.database with
      | .error _ => True
      | .ok a => (next a).Fails c.look := by
  unfold Task.Fails
  rw [Task.run_bind, run_query read able]
  cases read c.database with
  | error fault => exact iff_true_intro ⟨fault, rfl⟩
  | ok a => exact Iff.rfl

/-! ### Beginning -/

theorem beginWrite_fails_iff {c : Connection} : beginWrite.Fails c ↔ c.KeptOut := by
  obtain ⟨⟨readOnly, heedsLocks⟩, db, known⟩ := c
  obtain ⟨metadata, tip, blocks, transactions, rejections, locked, logged⟩ := db
  simp only [Task.Fails, beginWrite, Connection.readFault?, Connection.writeFault?,
    Connection.KeptOut]
  cases readOnly <;> cases heedsLocks <;> cases locked <;> cases logged <;> simp

theorem run_beginWrite_of_free {c : Connection} (free : ¬ c.KeptOut) :
    beginWrite.run c = (.ok (), c) := by
  obtain ⟨⟨⟩, after, begun⟩ := Task.not_fails.mp (beginWrite_fails_iff.not.mpr free)
  unfold beginWrite at begun ⊢
  simp only at begun ⊢
  split at begun
  · cases begun
  · split at begun
    · cases begun
    · rfl

theorem readFault?_of_free {c : Connection} (free : ¬ c.KeptOut) : c.readFault? = none := by
  obtain ⟨⟨readOnly, heedsLocks⟩, db, known⟩ := c
  unfold Connection.KeptOut at free
  cases heedsLocks <;> simp_all [Connection.readFault?]

theorem writeFault?_eq_none_iff {c : Connection} :
    c.writeFault? = none ↔ c.readOnly = false ∧ ¬ c.KeptOut := by
  obtain ⟨⟨readOnly, heedsLocks⟩, db, known⟩ := c
  obtain ⟨metadata, tip, blocks, transactions, rejections, locked, logged⟩ := db
  simp only [Connection.writeFault?, Connection.KeptOut]
  cases readOnly <;> cases heedsLocks <;> cases locked <;> cases logged <;> simp

/-! ### Changing a table -/

variable {c : Connection}

theorem change_fails_iff {τ α : Type} {table : Table} {contents : Database → Option τ}
    {act : Database → τ → Except Fault α × Database} (free : ¬ c.KeptOut)
    (there : ∀ t, contents c.database = some t → c.database.has table = true) :
    (change table contents act).Fails c ↔
      c.readOnly = true ∨ contents c.database = none ∨
        ∃ t, contents c.database = some t ∧ ∃ fault, (act c.database t).1 = .error fault := by
  unfold Task.Fails
  rw [answer_change]
  cases hindrance : c.writeFault? with
  | some fault =>
    have readOnly : c.readOnly = true := by
      by_contra other
      rw [writeFault?_eq_none_iff.mpr ⟨eq_false_of_ne_true other, free⟩] at hindrance
      cases hindrance
    simp only [readOnly, true_or, iff_true]
    split <;> exact ⟨_, rfl⟩
  | none =>
    have writes := (writeFault?_eq_none_iff.mp hindrance).1
    cases found : contents c.database with
    | none => simp
    | some t => simp [writes, there t found]

theorem putBlockRow_fails_iff (free : ¬ c.KeptOut) (row : BlockRow) :
    (putBlockRow row).Fails c ↔
      c.readOnly = true ∨ c.database.blocks = none ∨
        c.database.Rejects .blocks .insert (.int row.height) := by
  rw [putBlockRow, change_fails_iff free (by simp +contextual [Database.has]),
    ← Database.isSome_refusal]
  cases c.database.blocks <;> cases c.database.refusal .blocks .insert (.int row.height) <;> simp

theorem removeBlockRows_fails_iff (free : ¬ c.KeptOut) (chosen : BlockRow → Bool) :
    (removeBlockRows chosen).Fails c ↔
      c.readOnly = true ∨ c.database.blocks = none ∨
        ∃ table, c.database.blocks = some table ∧
          ∃ row ∈ table.rows, chosen row = true ∧
            c.database.Rejects .blocks .delete (.int row.height) := by
  rw [removeBlockRows, change_fails_iff free (by simp +contextual [Database.has])]
  refine or_congr_right (or_congr_right (exists_congr fun table => and_congr_right fun _ => ?_))
  simp only [← Database.isSome_refusal, ← sweep_fails_iff]
  show _ ↔ ∃ message, (table.remove chosen _).1 = .error message
  obtain ⟨outcome, rest⟩ := table.remove chosen
    fun row => c.database.refusal .blocks .delete (.int row.height)
  cases outcome <;> simp

theorem removeTransactionRows_fails_iff (free : ¬ c.KeptOut) (chosen : TransactionRow → Bool) :
    (removeTransactionRows chosen).Fails c ↔
      c.readOnly = true ∨ c.database.transactions = none ∨
        ∃ rows, c.database.transactions = some rows ∧
          ∃ row ∈ rows, chosen row = true ∧
            c.database.Rejects .transactions .delete row.blockHeight := by
  rw [removeTransactionRows, change_fails_iff free (by simp +contextual [Database.has])]
  refine or_congr_right (or_congr_right (exists_congr fun rows => and_congr_right fun _ => ?_))
  simp only [← Database.isSome_refusal, ← sweep_fails_iff]
  obtain ⟨outcome, rest⟩ := sweep chosen
    (fun row => c.database.refusal .transactions .delete row.blockHeight) rows
  cases outcome <;> simp

theorem writeTip_fails_iff (free : ¬ c.KeptOut) (height : Height) (now : Int) :
    (writeTip height now).Fails c ↔
      c.readOnly = true ∨ c.database.tip = none ∨ ∃ tip, c.database.tip = some tip ∧
        (c.database.Rejects .tip .insert (.int height.toNat) ∨
          tip.isSome ∧ c.database.Rejects .tip .update (.int height.toNat)) := by
  rw [writeTip, change_fails_iff free (by simp +contextual [Database.has])]
  refine or_congr_right (or_congr_right (exists_congr fun tip => and_congr_right fun _ => ?_))
  rw [← Database.isSome_refusal, ← Database.isSome_refusal]
  cases c.database.refusal .tip .insert (.int height.toNat) <;>
    cases tip <;> cases c.database.refusal .tip .update (.int height.toNat) <;> simp

theorem clearTip_fails_iff (free : ¬ c.KeptOut) :
    clearTip.Fails c ↔
      c.readOnly = true ∨ c.database.tip = none ∨ ∃ row, c.database.tip = some (some row) ∧
        c.database.Rejects .tip .delete (.int row.height) := by
  rw [clearTip, change_fails_iff free (by simp +contextual [Database.has])]
  cases c.database.tip with
  | none => simp
  | some tip =>
    cases tip with
    | none => simp
    | some row =>
      simp only [Option.some.injEq, exists_eq_left', ← Database.isSome_refusal, Option.bind_some]
      cases c.database.refusal .tip .delete (.int row.height) <;> simp

end ChainStore.Storage
