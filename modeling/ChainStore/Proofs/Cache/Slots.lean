import ChainStore.Proofs.Cache.Failures

set_option autoImplicit false
set_option relaxedAutoImplicit false

/-!
What a database holds height by height. A change at one height is answered from what is held there
alone, and touches nothing that is held elsewhere, as long as the tables are there, the tip can be
read and no rejection stands.
-/

namespace ChainStore.Storage

structure Slot where
  block : Option BlockRow
  transactions : List TransactionRow

/-- What a database holds at a height. A table that does not exist has no rows. -/
def Database.slot (height : Int) (db : Database) : Slot where
  block := (db.blocks.getD BlockTable.empty).row? height
  transactions := (db.transactions.getD []).filter fun row => row.blockHeight.equalsInt height

/-- All tables of a cache are there, its tip can be read, and nothing is refused. -/
structure Database.Serviceable (db : Database) : Prop where
  tip : ∃ found, db.tipHeight = .ok found
  blocks : ∃ table, db.blocks = some table
  transactions : ∃ rows, db.transactions = some rows
  unguarded : db.rejections = []

theorem Database.Serviceable.refusal {db : Database} (serviceable : db.Serviceable) (table : Table)
    (event : Event) (height : Cell) : db.refusal table event height = none := by
  rw [Database.refusal, serviceable.unguarded]
  rfl

theorem Database.Serviceable.has_tip {db : Database} (serviceable : db.Serviceable) :
    ∃ row, db.tip = some row := by
  obtain ⟨found, read⟩ := serviceable.tip
  obtain ⟨row, present, -⟩ := tipHeight_eq_ok.mp read
  exact ⟨row, present⟩

namespace Database.Serviceable

variable {db : Database} (serviceable : db.Serviceable)

include serviceable

theorem not_rejects (table : Table) (event : Event) (height : Cell) :
    ¬ db.Rejects table event height := by
  rw [← isSome_refusal, serviceable.refusal]
  simp

theorem not_barsBlock (height : Height) : ¬ db.BarsBlock height := by
  obtain ⟨table, stored⟩ := serviceable.blocks
  rintro (missing | rejected)
  · rw [stored] at missing
    cases missing
  · exact serviceable.not_rejects _ _ _ rejected

theorem not_barsRaise (height : Height) : ¬ db.BarsRaise height := by
  obtain ⟨found, read⟩ := serviceable.tip
  obtain ⟨tip, present, shows⟩ := tipHeight_eq_ok.mp read
  rw [BarsRaise, present]
  cases tip with
  | none => exact serviceable.not_rejects _ _ _
  | some row =>
    rintro (foreign | ⟨-, rejected | rejected⟩)
    · cases found with
      | none => cases shows
      | some shown => exact foreign ⟨shown, Option.some.inj shows⟩
    · exact serviceable.not_rejects _ _ _ rejected
    · exact serviceable.not_rejects _ _ _ rejected

theorem not_barsCut (height : Height) : ¬ db.BarsCut height := by
  obtain ⟨table, stored⟩ := serviceable.blocks
  rintro (missing | ⟨above, -, -, rejected⟩)
  · rw [stored] at missing
    cases missing
  · exact serviceable.not_rejects _ _ _ rejected

theorem not_barsPurge (height : Height) : ¬ db.BarsPurge height := by
  obtain ⟨rows, filed⟩ := serviceable.transactions
  rintro (missing | ⟨row, -, -, rejected⟩)
  · rw [filed] at missing
    cases missing
  · exact serviceable.not_rejects _ _ _ rejected

theorem not_barsLowering (height : Height) {left : Set Int} (legible : ∀ h ∈ left, 0 ≤ h) :
    ¬ db.BarsLowering height left := by
  obtain ⟨found, read⟩ := serviceable.tip
  obtain ⟨tip, present, shows⟩ := tipHeight_eq_ok.mp read
  rw [BarsLowering, present]
  cases tip with
  | none => exact id
  | some row =>
    rintro (foreign | ⟨-, ⟨top, greatest, low | rejected | rejected⟩ | ⟨-, rejected⟩⟩)
    · cases found with
      | none => cases shows
      | some shown => exact foreign ⟨shown, Option.some.inj shows⟩
    · exact absurd (legible top greatest.1) (not_le.mpr low)
    all_goals exact serviceable.not_rejects _ _ _ rejected

end Database.Serviceable

end ChainStore.Storage

namespace ChainStore.Cache

open Storage

/-! ### Changes at one height -/

def Operation.place? : Operation → Option Height
  | .acceptBlock block | .putBlock block => some block.height
  | .removeBlock height | .removeTransactions height => some height
  | .addTransaction entry => some entry.blockHeight
  | _ => none

def Operation.revise (slot : Slot) : Operation → Slot
  | .acceptBlock block | .putBlock block => { slot with block := some (.ofBlock block) }
  | .removeBlock _ => { slot with block := none }
  | .addTransaction entry =>
    { slot with transactions := slot.transactions ++ [.ofTransaction entry] }
  | .removeTransactions _ => { slot with transactions := [] }
  | _ => slot

/-- What a change at one height answers, given what is held there. Only the connection may get in
its way. -/
def Operation.outcome (c : Connection) (slot : Slot) : Operation → Except Error Answer
  | .acceptBlock block =>
    match c.readFault? with
    | some fault => .error (.storage (.startingWrite block.height) fault)
    | none =>
      (c.writing (.ok .done)).mapError (.storage
        (if c.readOnly then .writingBlock block.height block.hash else .startingWrite block.height))
  | .putBlock block =>
    (c.writing (.ok .done)).mapError (.storage (.writingBlock block.height block.hash))
  | .removeBlock height =>
    (c.writing (.ok (.existed slot.block.isSome))).mapError (.storage (.deletingBlock height))
  | .addTransaction entry =>
    (c.writing (.ok .done)).mapError
      (.storage (.writingTransaction entry.hash entry.blockHeight entry.index))
  | .removeTransactions height =>
    (c.writing (.ok (.count slot.transactions.length))).mapError
      (.storage (.deletingTransactions height))
  | _ => .ok .done

theorem outcome_congr {c other : Connection} (rights : other.toRights = c.toRights)
    (access : c.database.SameAccess other.database) (slot : Slot) (operation : Operation) :
    operation.outcome other slot = operation.outcome c slot := by
  have reads := readFault?_congr rights access
  have writes := writeFault?_congr rights access
  have mode : other.readOnly = c.readOnly := congrArg Rights.readOnly rights
  cases operation <;> simp only [Operation.outcome, Connection.writing, reads, writes, mode]

private theorem answer_putBlockRow {c : Connection} (serviceable : c.database.Serviceable)
    (row : BlockRow) : ((putBlockRow row).run c).1 = c.writing (.ok ()) := by
  obtain ⟨table, stored⟩ := serviceable.blocks
  rw [putBlockRow, answer_change_of_table _ _ _ (by rw [Database.has, stored]; rfl) stored,
    serviceable.refusal]

private theorem answer_addTransactionRow {c : Connection} (serviceable : c.database.Serviceable)
    (row : TransactionRow) : ((addTransactionRow row).run c).1 = c.writing (.ok ()) := by
  obtain ⟨rows, filed⟩ := serviceable.transactions
  rw [addTransactionRow, answer_change_of_table _ _ _ (by rw [Database.has, filed]; rfl) filed,
    serviceable.refusal]

theorem removeBlockRows_counts {c : Connection} (serviceable : c.database.Serviceable)
    (chosen : BlockRow → Bool) {table : BlockTable} (stored : c.database.blocks = some table) :
    ((removeBlockRows chosen).run c).1 = c.writing (.ok (table.rows.countP chosen)) := by
  have swept : (table.remove chosen
      fun row => c.database.refusal .blocks .delete (.int row.height)).1 =
        .ok (table.rows.countP chosen) :=
    sweep_unrefused _ (fun row => serviceable.refusal _ _ _) _
  rw [removeBlockRows, answer_change_of_table _ _ _ (by rw [Database.has, stored]; rfl) stored]
  generalize table.remove chosen
    (fun row => c.database.refusal .blocks .delete (.int row.height)) = removed at swept
  obtain ⟨outcome, rest⟩ := removed
  obtain rfl := swept
  rfl

theorem removeTransactionRows_counts {c : Connection} (serviceable : c.database.Serviceable)
    (chosen : TransactionRow → Bool) {rows : List TransactionRow}
    (filed : c.database.transactions = some rows) :
    ((removeTransactionRows chosen).run c).1 = c.writing (.ok (rows.countP chosen)) := by
  have swept : (sweep chosen
      (fun row => c.database.refusal .transactions .delete row.blockHeight) rows).1 =
        .ok (rows.countP chosen) :=
    sweep_unrefused _ (fun row => serviceable.refusal _ _ _) _
  rw [removeTransactionRows,
    answer_change_of_table _ _ _ (by rw [Database.has, filed]; rfl) filed]
  generalize sweep chosen
    (fun row => c.database.refusal .transactions .delete row.blockHeight) rows = removed at swept
  obtain ⟨outcome, rest⟩ := removed
  obtain rfl := swept
  rfl

private theorem removeBlockRows_counts_at {c : Connection} (serviceable : c.database.Serviceable)
    (height : Int) :
    ((removeBlockRows fun row => row.height == height).run c).1.map (fun n => decide (0 < n)) =
      c.writing (.ok (c.database.slot height).block.isSome) := by
  obtain ⟨table, stored⟩ := serviceable.blocks
  have existed : decide (0 < table.rows.countP fun row => row.height == height) =
      (table.row? height).isSome := by
    rw [Bool.eq_iff_iff, decide_eq_true_iff, List.countP_pos_iff, BlockTable.row?,
      List.find?_isSome]
  rw [removeBlockRows_counts serviceable _ stored, Database.slot, stored, Option.getD_some,
    ← existed]
  unfold Connection.writing
  cases c.writeFault? <;> rfl

private theorem removeTransactionRows_counts_at {c : Connection}
    (serviceable : c.database.Serviceable) (height : Int) :
    ((removeTransactionRows fun row => row.blockHeight.equalsInt height).run c).1 =
      c.writing (.ok (c.database.slot height).transactions.length) := by
  obtain ⟨rows, filed⟩ := serviceable.transactions
  rw [removeTransactionRows_counts serviceable _ filed, Database.slot, filed, Option.getD_some,
    ← List.countP_eq_length_filter]

/-! ### Accepting a block -/

theorem answer_writeTip {c : Connection} (serviceable : c.database.Serviceable)
    (height : Height) (now : Int) : ((writeTip height now).run c).1 = c.writing (.ok ()) := by
  obtain ⟨row, present⟩ := serviceable.has_tip
  rw [writeTip, answer_change_of_table _ _ _ (by rw [Database.has, present]; rfl) present,
    serviceable.refusal, serviceable.refusal]
  cases row <;> rfl

private theorem acceptBlock_succeeds {c : Connection} (serviceable : c.database.Serviceable)
    (able : c.writeFault? = none) (block : Block) (now : Int) :
    ((acceptBlock block now).run c).1 = .ok () := by
  obtain ⟨writes, free⟩ := writeFault?_eq_none_iff.mp able
  have outcome := outcome_acceptBlock c block now
  generalize ((acceptBlock block now).run c).1 = answer at outcome
  cases outcome with
  | keptOut kept => exact absurd kept free
  | unwritten _ barred => exact absurd barred (by simp [writes, serviceable.not_barsBlock])
  | inconsistent _ _ barred => exact absurd barred (serviceable.not_barsRaise block.height)
  | accepted _ _ _ => rfl

private theorem answer_acceptBlock {c : Connection} (serviceable : c.database.Serviceable)
    (block : Block) (now : Int) (slot : Slot) :
    ((acceptBlock block now).run c).1.map (fun _ => Answer.done) =
      (Operation.acceptBlock block).outcome c slot := by
  cases hindrance : c.writeFault? with
  | none =>
    rw [acceptBlock_succeeds serviceable hindrance, Operation.outcome,
      readFault?_of_writeFault? hindrance, Connection.writing, hindrance]
    rfl
  | some fault =>
    rw [acceptBlock, Task.answer_atomically, Operation.outcome, Connection.writing, hindrance]
    cases unreadable : c.readFault? with
    | some fault =>
      have begun : (beginWrite.run c).1 = .error fault := by simp only [beginWrite, unreadable]
      rw [Task.answer_bind_error (answer_during_error begun)]
      rfl
    | none =>
      cases mode : c.readOnly with
      | true =>
        -- Without the right to write, the first change fails and not the beginning.
        have begun : beginWrite.run c = (.ok (), c) := by
          simp only [beginWrite, unreadable, mode, ↓reduceIte]
        have put := answer_putBlockRow serviceable (.ofBlock block)
        rw [Connection.writing, hindrance] at put
        rw [Task.run_bind_ok (run_during_ok begun),
          Task.answer_bind_error (answer_during_error put)]
        rfl
      | false =>
        have begun : (beginWrite.run c).1 = .error fault := by
          simp only [beginWrite, unreadable, mode, Bool.false_eq_true, ↓reduceIte, hindrance]
        rw [Task.answer_bind_error (answer_during_error begun)]
        rfl

/-! ### Calls -/

theorem answer_at {call : Call} {height : Height} (place : call.operation.place? = some height)
    {c : Connection} (serviceable : c.database.Serviceable) :
    (call.perform c).1 =
      if call.fired then .error .cancelled
      else call.operation.outcome c (c.database.slot height.toNat) := by
  obtain ⟨operation, fired, now⟩ := call
  cases fired with
  | true => rfl
  | false =>
    show ((operation.action now).run c).1 = operation.outcome c (c.database.slot height.toNat)
    have reported {α : Type} (activity : Activity) (f : α → Answer) (answer : Except Fault α) :
        (answer.mapError (Error.storage activity)).map f =
          (answer.map f).mapError (Error.storage activity) := by
      cases answer <;> rfl
    have written {α β : Type} (f : α → β) (a : α) :
        (c.writing (.ok a)).map f = c.writing (.ok (f a)) := by
      unfold Connection.writing
      cases c.writeFault? <;> rfl
    cases operation with
    | acceptBlock block =>
      rw [Operation.action, answer_map]
      exact answer_acceptBlock serviceable block now _
    | putBlock block =>
      rw [Operation.action, answer_map, Cache.putBlock, answer_during, reported,
        answer_putBlockRow serviceable, written]
      rfl
    | removeBlock removed =>
      obtain rfl := Option.some.inj place
      have existed := removeBlockRows_counts_at serviceable removed.toNat
      rw [Operation.action, answer_map]
      show (((fun n => decide (0 < n)) <$> _ : Action Bool).run c).1.map _ = _
      rw [answer_map, answer_during]
      have known := congrArg (Except.map Answer.existed) existed
      rw [written] at known
      rw [Operation.outcome, ← known]
      cases ((removeBlockRows fun row => row.height == (removed.toNat : Int)).run c).1 <;> rfl
    | addTransaction entry =>
      rw [Operation.action, answer_map, Cache.addTransaction, answer_during, reported,
        answer_addTransactionRow serviceable, written]
      rfl
    | removeTransactions removed =>
      obtain rfl := Option.some.inj place
      rw [Operation.action, answer_map, Cache.removeTransactions, answer_during, reported,
        removeTransactionRows_counts_at serviceable, written]
      rfl
    | setTip _ | rollBack _ | tipHeight | tip | payloadAt _ | blockAt _ | hashAt _
    | payloadWithHash _ | blockWithHash _ | transaction _ => cases place

private theorem filter_removed (height removed : Int) (rows : List TransactionRow) :
    (rows.filter fun row => !row.blockHeight.equalsInt removed).filter
        (fun row => row.blockHeight.equalsInt height) =
      if removed = height then [] else rows.filter fun row => row.blockHeight.equalsInt height := by
  rw [List.filter_filter]
  split
  · rename_i here
    simp [here]
  · rename_i elsewhere
    refine List.filter_congr fun row _ => ?_
    cases equal : row.blockHeight.equalsInt height with
    | false => rfl
    | true =>
      cases other : row.blockHeight.equalsInt removed with
      | false => rfl
      | true => exact absurd (Cell.equalsInt_unique other equal) elsewhere

/-- A change at one height revises what is held there and nothing else. -/
theorem slot_effect {operation : Operation} {height : Height}
    (place : operation.place? = some height) {db : Database} (serviceable : db.Serviceable)
    (now : Int) (k : Int) :
    (operation.effect now db).slot k =
      if (height.toNat : Int) = k then operation.revise (db.slot k) else db.slot k := by
  obtain ⟨table, stored⟩ := serviceable.blocks
  obtain ⟨rows, filed⟩ := serviceable.transactions
  cases operation with
  | acceptBlock block | putBlock block =>
    obtain rfl := Option.some.inj place
    simp only [Operation.effect, Operation.revise, Database.slot, stored, Option.map_some,
      Option.getD_some, BlockTable.row?_put, BlockRow.ofBlock]
    split <;> rfl
  | removeBlock removed =>
    obtain rfl := Option.some.inj place
    simp only [Operation.effect, Operation.revise, Database.slot, stored, Option.map_some,
      Option.getD_some, BlockTable.row?_removed]
    split <;> rfl
  | addTransaction entry =>
    obtain rfl := Option.some.inj place
    simp only [Operation.effect, Operation.revise, Database.slot, filed, Option.map_some,
      Option.getD_some, List.filter_append]
    have here : (TransactionRow.ofTransaction entry).blockHeight.equalsInt k =
        decide ((entry.blockHeight.toNat : Int) = k) := Cell.equalsInt_int _ k
    split
    · rename_i same
      simp [here, same]
    · rename_i apart
      simp [here, apart]
  | removeTransactions removed =>
    obtain rfl := Option.some.inj place
    simp only [Operation.effect, Operation.revise, Database.slot, filed, Option.map_some,
      Option.getD_some, filter_removed]
    split <;> rfl
  | setTip _ | rollBack _ | tipHeight | tip | payloadAt _ | blockAt _ | hashAt _
  | payloadWithHash _ | blockWithHash _ | transaction _ => cases place

theorem slot_perform {call : Call} {height : Height} (place : call.operation.place? = some height)
    {c : Connection} (serviceable : c.database.Serviceable) (k : Int) :
    (call.perform c).2.database.slot k =
      if (height.toNat : Int) = k ∧ (call.perform c).1.isOk then
        call.operation.revise (c.database.slot k)
      else c.database.slot k := by
  rw [perform_effect]
  cases (call.perform c).1 with
  | error e => simp [Entry.effect, Except.isOk, Except.toBool]
  | ok answer =>
    simp only [Entry.effect, Except.isOk, Except.toBool, and_true]
    exact slot_effect place serviceable call.now k

theorem access_perform (call : Call) (c : Connection) :
    c.database.SameAccess (call.perform c).2.database := by
  rw [perform_effect]
  unfold Entry.effect
  split
  · cases call.operation <;> exact ⟨rfl, rfl⟩
  · exact ⟨rfl, rfl⟩

theorem serviceable_perform (call : Call) {c : Connection} (serviceable : c.database.Serviceable) :
    (call.perform c).2.database.Serviceable := by
  obtain ⟨⟨found, read⟩, ⟨table, stored⟩, ⟨rows, filed⟩, unguarded⟩ := serviceable
  refine ⟨readable_perform call read, ?_, ?_, ?_⟩
  all_goals
    rw [perform_effect]
    unfold Entry.effect
    split
  · cases call.operation <;> exact ⟨_, by simp only [Operation.effect, stored]; rfl⟩
  · exact ⟨table, stored⟩
  · cases call.operation <;> exact ⟨_, by simp only [Operation.effect, filed]; rfl⟩
  · exact ⟨rows, filed⟩
  · cases call.operation <;> exact unguarded
  · exact unguarded

end ChainStore.Cache
