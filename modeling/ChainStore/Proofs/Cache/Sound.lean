import ChainStore.Proofs.Cache.Slots

set_option autoImplicit false
set_option relaxedAutoImplicit false

/-!
Databases in which every row is one that a cache has written. Every value in them reads back as what
it was written from, so a lookup finds something or nothing, a change goes through, and both leave
the database as sound as it was.
-/

namespace ChainStore.Storage

def TipRow.ofTip (tip : Tip) : TipRow := ⟨tip.height.toNat, tip.updatedAt⟩

theorem TipRow.toTip_ofTip {tip : Tip} (dated : Calendar.representable tip.updatedAt = true) :
    (ofTip tip).toTip = .ok tip := by
  rw [toTip, if_pos (by exact dated), ofTip, Cell.word_toNat]
  rfl

/-- All tables are there, every row in them has been written from a tip, a block or a transaction,
the second of the tip has a date, and nothing keeps a client from writing. -/
structure Database.Sound (db : Database) : Prop where
  tip : ∃ tip : Option Tip, db.tip = some (tip.map TipRow.ofTip) ∧
    ∀ shown, tip = some shown → Calendar.representable shown.updatedAt = true
  blocks : ∃ table, db.blocks = some table ∧ ∀ row ∈ table.rows, ∃ block, row = .ofBlock block
  transactions : ∃ rows, db.transactions = some rows ∧
    ∀ row ∈ rows, ∃ transaction, row = .ofTransaction transaction
  unguarded : db.rejections = []
  unlocked : db.locked = false

theorem readRow_total {α β : Type} {read : α → Except Fault β} {row : Option α}
    (legible : ∀ a, row = some a → ∃ b, read a = .ok b) :
    ∃ found, readRow read row = .ok found := by
  cases row with
  | none => exact ⟨none, rfl⟩
  | some a =>
    obtain ⟨b, same⟩ := legible a rfl
    exact ⟨some b, by rw [readRow, same]; rfl⟩

namespace Database.Sound

variable {db : Database}

theorem tip_reads (sound : db.Sound) : ∃ tip : Option Tip, db.tip = some (tip.map TipRow.ofTip) ∧
    db.wholeTip = .ok tip ∧ db.tipHeight = .ok (tip.map Tip.height) := by
  obtain ⟨tip, present, dated⟩ := sound.tip
  refine ⟨tip, present, ?_, tipHeight_eq_ok.mpr ⟨_, present, ?_⟩⟩
  · rw [Database.wholeTip, Database.tipRow, present]
    cases tip with
    | none => rfl
    | some shown =>
      show (TipRow.toTip (.ofTip shown)).map some = _
      rw [TipRow.toTip_ofTip (dated shown rfl)]
      rfl
  · cases tip <;> rfl

theorem serviceable (sound : db.Sound) : db.Serviceable := by
  obtain ⟨tip, -, -, read⟩ := sound.tip_reads
  obtain ⟨table, stored, -⟩ := sound.blocks
  obtain ⟨rows, filed, -⟩ := sound.transactions
  exact ⟨⟨_, read⟩, ⟨table, stored⟩, ⟨rows, filed⟩, sound.unguarded⟩

private theorem row_reads (sound : db.Sound) {α : Type} {read : BlockRow → Except Fault α}
    (legible : ∀ block, ∃ a, read (.ofBlock block) = .ok a) (height : Int) :
    ∃ found, (do let table ← db.blockTable; readRow read (table.row? height)) = .ok found := by
  obtain ⟨table, stored, written⟩ := sound.blocks
  rw [blockTable_of_table stored]
  refine readRow_total fun row here => ?_
  obtain ⟨block, rfl⟩ := written row (BlockTable.row?_eq_some.mp here).1
  exact legible block

theorem payloadAt_reads (sound : db.Sound) (height : Height) :
    ∃ found, db.payloadAt height = .ok found :=
  sound.row_reads (fun block => ⟨block.payload, rfl⟩) _

theorem hashAt_reads (sound : db.Sound) (height : Height) :
    ∃ found, db.hashAt height = .ok found :=
  sound.row_reads (fun block => ⟨block.hash, Cell.string_ofString 0 "hash" block.hash⟩) _

theorem blockAt_reads (sound : db.Sound) (height : Height) :
    ∃ found, db.blockAt height = .ok found :=
  sound.row_reads (fun block => ⟨block, BlockRow.toBlock_ofBlock block⟩) _

theorem blockWithHash_reads (sound : db.Sound) (hash : String) :
    ∃ found, db.blockWithHash hash = .ok found := by
  obtain ⟨table, stored, written⟩ := sound.blocks
  rw [Database.blockWithHash, blockTable_of_table stored]
  refine readRow_total fun row last => ?_
  have member := (List.mem_filter.mp (List.mem_of_getLast? last)).1
  obtain ⟨block, rfl⟩ := written row member
  exact ⟨block, BlockRow.toBlock_ofBlock block⟩

theorem newestTransaction_reads (sound : db.Sound) (chosen : TransactionRow → Bool) :
    ∃ found, db.newestTransaction chosen = .ok found := by
  obtain ⟨rows, filed, written⟩ := sound.transactions
  rw [Database.newestTransaction, filed]
  refine readRow_total fun row last => ?_
  have member := (List.mem_filter.mp (List.mem_of_getLast? last)).1
  obtain ⟨transaction, rfl⟩ := written row member
  exact ⟨transaction, TransactionRow.toTransaction_ofTransaction transaction⟩

end Database.Sound

theorem highest?_of_written {table : BlockTable}
    (written : ∀ row ∈ table.rows, ∃ block, row = .ofBlock block) :
    ∃ top : Option Height, table.highest? = top.map fun height => (height.toNat : Int) := by
  cases highest : table.highest? with
  | none => exact ⟨none, rfl⟩
  | some top =>
    obtain ⟨⟨row, stored, rfl⟩, -⟩ := BlockTable.highest?_eq_some highest
    obtain ⟨block, rfl⟩ := written row stored
    exact ⟨some block.height, rfl⟩

theorem Connection.writeFault?_of_free {c : Connection} (rights : c.toRights = {})
    (free : c.database.locked = false) : c.writeFault? = none := by
  simp [Connection.writeFault?, rights, free]

end ChainStore.Storage

namespace ChainStore.Cache

open Storage

/-! ### Changes of more than one height -/

theorem answer_rollBack_legible {c : Connection} (serviceable : c.database.Serviceable)
    (able : c.writeFault? = none) {table : BlockTable} (stored : c.database.blocks = some table)
    (legible : ∀ h ∈ c.database.blockHeights, 0 ≤ h) (height : Height) (now : Int) :
    ((rollBack height now).run c).1 =
      .ok (table.rows.countP fun row => decide ((height.toNat : Int) < row.height)) := by
  obtain ⟨writes, free⟩ := writeFault?_eq_none_iff.mp able
  have outcome := outcome_rollBack c height now
  cases ran : (rollBack height now).run c with
  | mk answer after =>
    rw [ran] at outcome
    cases outcome with
    | keptOut kept => exact absurd kept free
    | blocksStay _ barred => exact absurd barred (by simp [writes, serviceable.not_barsCut])
    | transactionsStay _ _ barred => exact absurd barred (serviceable.not_barsPurge height)
    | inconsistent _ _ _ barred =>
      exact absurd barred (serviceable.not_barsLowering height fun h left => legible h left.1)
    | rolled _ _ _ _ =>
      obtain ⟨table', _, _, stored', -, -, rfl, -⟩ := rollBack_ok ran
      obtain rfl := Option.some.inj (stored.symm.trans stored')
      rfl

theorem answer_rollBack_written {c : Connection} (serviceable : c.database.Serviceable)
    (able : c.writeFault? = none) {table : BlockTable} (stored : c.database.blocks = some table)
    (written : ∀ row ∈ table.rows, ∃ block, row = .ofBlock block) (height : Height) (now : Int) :
    ((rollBack height now).run c).1 =
      .ok (table.rows.countP fun row => decide ((height.toNat : Int) < row.height)) := by
  refine answer_rollBack_legible serviceable able stored (fun h stands => ?_) height now
  rw [Database.blockHeights_of_table stored] at stands
  obtain ⟨row, member, rfl⟩ := stands
  obtain ⟨block, rfl⟩ := written row member
  exact Int.natCast_nonneg _

/-! ### Calls -/

/-- What is looked up is found, or it is not there. -/
def Legible {α : Type} (result : Except Error α) : Prop :=
  ∀ e, result = .error e → e.isNotFound = true

private theorem legible_lookup {α : Type} {activity : Activity} {subject : Subject}
    {read : Database → Except Fault (Option α)} {c : Connection} (able : c.readFault? = none)
    (total : ∃ found, read c.database = .ok found) :
    Legible ((during activity (query read) >>= found subject).run c).1 := by
  obtain ⟨seen, result⟩ := total
  rw [answer_of_read _ _ _ able result]
  cases seen with
  | none =>
    intro e missing
    cases missing
    rfl
  | some a =>
    intro e missing
    cases missing

private theorem Legible.map {α β : Type} {task : Action α} {c : Connection}
    (legible : Legible (task.run c).1) (f : α → β) : Legible ((f <$> task).run c).1 := by
  rw [answer_map]
  cases answer : (task.run c).1 with
  | ok a =>
    intro e failed
    cases failed
  | error e =>
    intro e' failed
    cases failed
    exact legible e answer

private theorem legible_ok {α : Type} {result : Except Error α} {a : α} (done : result = .ok a) :
    Legible result := by
  intro e failed
  rw [done] at failed
  cases failed

private theorem outcome_ok {c : Connection} (able : c.writeFault? = none) {slot : Slot}
    {operation : Operation} : ∃ answer, operation.outcome c slot = .ok answer := by
  have readable := readFault?_of_writeFault? able
  cases operation <;>
    exact ⟨_, by simp only [Operation.outcome, readable, Connection.writing, able]; rfl⟩

theorem legible_action (operation : Operation) (now : Int) {c : Connection}
    (sound : c.database.Sound) (rights : c.toRights = {}) :
    Legible ((operation.action now).run c).1 := by
  have able := Connection.writeFault?_of_free rights sound.unlocked
  have readable := readFault?_of_writeFault? able
  have serves := sound.serviceable
  obtain ⟨table, stored, written⟩ := sound.blocks
  have placed {height : Height} (place : operation.place? = some height) :
      ((operation.action now).run c).1 = operation.outcome c (c.database.slot height.toNat) :=
    @answer_at ⟨operation, false, now⟩ height place c serves
  cases operation with
  | tipHeight =>
    obtain ⟨_, -, -, read⟩ := sound.tip_reads
    exact (legible_lookup readable ⟨_, read⟩).map _
  | tip =>
    obtain ⟨_, -, read, -⟩ := sound.tip_reads
    exact (legible_lookup readable ⟨_, read⟩).map _
  | payloadAt height => exact (legible_lookup readable (sound.payloadAt_reads height)).map _
  | blockAt height => exact (legible_lookup readable (sound.blockAt_reads height)).map _
  | hashAt height => exact (legible_lookup readable (sound.hashAt_reads height)).map _
  | payloadWithHash hash =>
    exact ((legible_lookup readable (sound.blockWithHash_reads hash)).map Block.payload).map _
  | blockWithHash hash => exact (legible_lookup readable (sound.blockWithHash_reads hash)).map _
  | transaction key =>
    exact (legible_lookup readable (sound.newestTransaction_reads (names key))).map _
  | setTip height =>
    refine Legible.map (legible_ok (a := ()) ?_) _
    rw [setTip, answer_during, answer_writeTip serves, Connection.writing, able]
    rfl
  | rollBack height =>
    exact (legible_ok (answer_rollBack_written serves able stored written height now)).map _
  | acceptBlock _ | putBlock _ | removeBlock _ | addTransaction _ | removeTransactions _ =>
    obtain ⟨answer, granted⟩ := outcome_ok able
    exact legible_ok ((placed rfl).trans granted)

/-! ### What stays sound -/

private theorem written_put {table : BlockTable} {block : Block}
    (written : ∀ row ∈ table.rows, ∃ block, row = .ofBlock block) :
    ∀ row ∈ (table.put (.ofBlock block)).rows, ∃ block, row = .ofBlock block := by
  intro row member
  rcases BlockTable.mem_put.mp member with rfl | ⟨old, -⟩
  · exact ⟨block, rfl⟩
  · exact written row old

private theorem written_keep {table : BlockTable} (kept : BlockRow → Bool)
    (written : ∀ row ∈ table.rows, ∃ block, row = .ofBlock block) :
    ∀ row ∈ (table.keep kept).rows, ∃ block, row = .ofBlock block :=
  fun row member => written row (List.mem_filter.mp member).1

private theorem raised_ofTip (height : Height) {now : Int} {tip : Option Tip}
    (dated : ∀ shown, tip = some shown → Calendar.representable shown.updatedAt = true)
    (clock : Calendar.representable now = true) :
    ∃ top : Tip, raised height now (tip.map TipRow.ofTip) = .ofTip top ∧
      Calendar.representable top.updatedAt = true := by
  cases tip with
  | none => exact ⟨⟨height, now⟩, rfl, clock⟩
  | some shown =>
    rw [Option.map_some, raised]
    split
    · exact ⟨shown, rfl, dated shown rfl⟩
    · exact ⟨⟨height, now⟩, rfl, clock⟩

private theorem lowered_ofTip (height : Height) {now : Int} {table : BlockTable} {tip : Option Tip}
    (written : ∀ row ∈ table.rows, ∃ block, row = .ofBlock block)
    (dated : ∀ shown, tip = some shown → Calendar.representable shown.updatedAt = true)
    (clock : Calendar.representable now = true) :
    ∃ tip' : Option Tip, lowered height now table (tip.map TipRow.ofTip) = tip'.map TipRow.ofTip ∧
      ∀ shown, tip' = some shown → Calendar.representable shown.updatedAt = true := by
  cases tip with
  | none => exact ⟨none, rfl, fun _ missing => by cases missing⟩
  | some shown =>
    rw [Option.map_some, lowered]
    split
    · obtain ⟨top, highest⟩ := highest?_of_written written
      rw [highest]
      refine ⟨top.map (⟨·, now⟩), by cases top <;> rfl, fun moved same => ?_⟩
      obtain ⟨height, -, rfl⟩ := Option.map_eq_some_iff.mp same
      exact clock
    · exact ⟨some shown, rfl, fun _ same => Option.some.inj same ▸ dated shown rfl⟩

private theorem sound_effect (operation : Operation) {now : Int}
    (clock : Calendar.representable now = true) {db : Database} (sound : db.Sound) :
    (operation.effect now db).Sound := by
  obtain ⟨⟨tip, present, dated⟩, ⟨table, stored, written⟩, ⟨rows, filed, issued⟩, unguarded,
    unlocked⟩ := sound
  cases operation with
  | setTip height =>
    refine ⟨⟨some ⟨height, now⟩, by simp [Operation.effect, present, TipRow.ofTip], ?_⟩,
      ⟨table, stored, written⟩, ⟨rows, filed, issued⟩, unguarded, unlocked⟩
    exact fun shown same => Option.some.inj same ▸ clock
  | acceptBlock block =>
    obtain ⟨top, same, dated'⟩ := raised_ofTip block.height dated clock
    refine ⟨⟨some top, by simp [Operation.effect, present, same], ?_⟩,
      ⟨_, by rw [Operation.effect, stored]; rfl, written_put written⟩, ⟨rows, filed, issued⟩,
      unguarded, unlocked⟩
    exact fun shown same => Option.some.inj same ▸ dated'
  | putBlock block =>
    exact ⟨⟨tip, present, dated⟩, ⟨_, by rw [Operation.effect, stored]; rfl, written_put written⟩,
      ⟨rows, filed, issued⟩, unguarded, unlocked⟩
  | removeBlock height =>
    exact ⟨⟨tip, present, dated⟩,
      ⟨_, by rw [Operation.effect, stored]; rfl, written_keep _ written⟩,
      ⟨rows, filed, issued⟩, unguarded, unlocked⟩
  | rollBack height =>
    obtain ⟨tip', same, dated'⟩ := lowered_ofTip height
      (written_keep (fun row => !decide ((height.toNat : Int) < row.height)) written) dated clock
    refine ⟨⟨tip', ?_, dated'⟩,
      ⟨_, by rw [Operation.effect, stored]; rfl, written_keep _ written⟩,
      ⟨_, by rw [Operation.effect, filed]; rfl, ?_⟩, unguarded, unlocked⟩
    · rw [← same, Operation.effect, present, stored]
      rfl
    · exact fun row member => issued row (List.mem_filter.mp member).1
  | addTransaction entry =>
    refine ⟨⟨tip, present, dated⟩, ⟨table, stored, written⟩,
      ⟨_, by rw [Operation.effect, filed]; rfl, fun row member => ?_⟩, unguarded, unlocked⟩
    rcases List.mem_append.mp member with old | fresh
    · exact issued row old
    · exact ⟨entry, List.mem_singleton.mp fresh⟩
  | removeTransactions height =>
    exact ⟨⟨tip, present, dated⟩, ⟨table, stored, written⟩,
      ⟨_, by rw [Operation.effect, filed]; rfl,
        fun row member => issued row (List.mem_filter.mp member).1⟩, unguarded, unlocked⟩
  | tipHeight | tip | payloadAt _ | blockAt _ | hashAt _ | payloadWithHash _ | blockWithHash _
  | transaction _ =>
    exact ⟨⟨tip, present, dated⟩, ⟨table, stored, written⟩, ⟨rows, filed, issued⟩, unguarded,
      unlocked⟩

/-- Whatever a call does at a second that has a date, the database stays sound. -/
theorem sound_perform {call : Call} (clock : Calendar.representable call.now = true)
    {c : Connection} (sound : c.database.Sound) : (call.perform c).2.database.Sound := by
  rw [perform_effect]
  unfold Entry.effect
  split
  · exact sound_effect call.operation clock sound
  · exact sound

theorem sound_laidOut {db : Database} (unguarded : db.rejections = [])
    (unlocked : db.locked = false) : (Layout.laidOut db).Sound :=
  ⟨⟨none, rfl, fun _ missing => by cases missing⟩,
    ⟨BlockTable.empty, rfl, fun _ member => absurd member List.not_mem_nil⟩,
    ⟨[], rfl, fun _ member => absurd member List.not_mem_nil⟩, unguarded, unlocked⟩

theorem sound_log {db : Database} (sound : db.Sound) (logged : Bool) :
    ({ db with logged := logged } : Database).Sound :=
  ⟨sound.tip, sound.blocks, sound.transactions, sound.unguarded, sound.unlocked⟩

theorem sound_prepare {c : Connection} (sound : c.database.Sound) :
    (Layout.prepare.run c).2.database.Sound := by
  rcases Layout.prepare_database c with same | ⟨-, added⟩ | ⟨missing, -⟩
  · rw [same]
    exact sound
  · rw [added]
    exact ⟨sound.tip, sound.blocks, sound.transactions, sound.unguarded, sound.unlocked⟩
  · obtain ⟨tip, present, -⟩ := sound.tip
    rw [missing] at present
    cases present

end ChainStore.Cache
