import ChainStore.Proofs.Cache.History
import ChainStore.Proofs.Cache.Tip
import ChainStore.Proofs.Storage.Answer

set_option autoImplicit false
set_option relaxedAutoImplicit false

/-!
What a rollback undoes. Where nothing lies above a height and the tip keeps step with the blocks,
whatever happens above that height, rollbacks to it and above it included, is gone after a rollback
to it: the rows below have never been touched, and the tip either has never moved or stands above
the height and is lowered onto the blocks that are left.
-/

namespace ChainStore.Storage

/-- Nothing lies above a height, and the tip keeps step with the blocks. A table that does not exist
has no rows. -/
structure Database.EndsBy (height : Height) (db : Database) : Prop where
  blocks : ∀ row ∈ (db.blocks.getD BlockTable.empty).rows, row.height ≤ height.toNat
  transactions : ∀ row ∈ db.transactions.getD [], row.blockHeight.above height.toNat = false
  tip : db.TipOnTop

def Database.level (db : Database) : Option Int := db.tip.join.map TipRow.height

namespace BlockTable

def upTo (height : Height) (table : BlockTable) : BlockTable :=
  table.keep fun row => !decide ((height.toNat : Int) < row.height)

theorem mem_upTo {height : Height} {table : BlockTable} {row : BlockRow} :
    row ∈ (table.upTo height).rows ↔ row ∈ table.rows ∧ row.height ≤ height.toNat := by
  simp [upTo]

theorem upTo_put {height : Height} {row : BlockRow} (above : (height.toNat : Int) < row.height)
    (table : BlockTable) : (table.put row).upTo height = table.upTo height := by
  refine ext_mem fun other => ?_
  rw [mem_upTo, mem_upTo, mem_put]
  constructor
  · rintro ⟨rfl | ⟨stored, -⟩, low⟩
    · omega
    · exact ⟨stored, low⟩
  · rintro ⟨stored, low⟩
    exact ⟨.inr ⟨stored, by omega⟩, low⟩

theorem upTo_keep {height : Height} {kept : BlockRow → Bool}
    (stays : ∀ row : BlockRow, row.height ≤ height.toNat → kept row = true) (table : BlockTable) :
    (table.keep kept).upTo height = table.upTo height := by
  refine ext_mem fun row => ?_
  rw [mem_upTo, mem_upTo, rows_keep, List.mem_filter]
  constructor
  · rintro ⟨⟨stored, -⟩, low⟩
    exact ⟨stored, low⟩
  · rintro ⟨stored, low⟩
    exact ⟨⟨stored, stays row low⟩, low⟩

theorem upTo_upTo {height other : Height} (below : height ≤ other) (table : BlockTable) :
    (table.upTo other).upTo height = table.upTo height := by
  refine upTo_keep (fun row low => ?_) table
  have := UInt32.le_iff_toNat_le.mp below
  simp only [Bool.not_eq_eq_eq_not, Bool.not_true, decide_eq_false_iff_not]
  omega

theorem upTo_eq_self {height : Height} {table : BlockTable}
    (low : ∀ row ∈ table.rows, row.height ≤ height.toNat) : table.upTo height = table := by
  refine ext_mem fun row => ?_
  rw [mem_upTo]
  exact and_iff_left_of_imp (low row)

theorem highest?_upTo (height : Height) (table : BlockTable) :
    table.highest? = (table.upTo height).highest? ∨
      ∃ top, table.highest? = some top ∧ (height.toNat : Int) < top := by
  cases highest : table.highest? with
  | none =>
    have none_left : (table.upTo height).rows = [] := by
      simp [upTo, highest?_eq_none.mp highest]
    exact .inl (highest?_eq_none.mpr none_left).symm
  | some top =>
    by_cases above : (height.toNat : Int) < top
    · exact .inr ⟨top, rfl, above⟩
    · refine .inl ?_
      rw [upTo_eq_self, highest]
      intro row stored
      have bound := (highest?_eq_some highest).2 ⟨row, stored, rfl⟩
      omega

end BlockTable

theorem OnTop.level {tip : Option TipRow} {table : BlockTable} (onTop : OnTop tip table) :
    tip.map TipRow.height = table.highest? := by
  cases tip with
  | none =>
    exact (BlockTable.highest?_eq_none.mpr (onTop.none_iff.mp rfl)).symm
  | some row =>
    cases highest : table.highest? with
    | none =>
      have missing := onTop.none_iff.mpr (BlockTable.highest?_eq_none.mp highest)
      cases missing
    | some top =>
      have same := (onTop.greatest row rfl).unique (BlockTable.highest?_eq_some highest)
      exact congrArg some same

end ChainStore.Storage

namespace ChainStore.Cache

open Storage

def Operation.staysAbove (height : Height) : Operation → Bool
  | .setTip other | .removeBlock other | .removeTransactions other => decide (height < other)
  | .acceptBlock block | .putBlock block => decide (height < block.height)
  | .addTransaction entry => decide (height < entry.blockHeight)
  | .rollBack other => decide (height ≤ other)
  | .tipHeight | .tip | .payloadAt _ | .blockAt _ | .hashAt _ | .payloadWithHash _
  | .blockWithHash _ | .transaction _ => true

/-- The steps that touch only what is above a height. Other programs may make operations fail. -/
def Step.staysAbove (height : Height) : Step → Bool
  | .call _ request => request.operation.staysAbove height
  | .interfere act => act.spares .tip && act.spares .blocks && act.spares .transactions
  | .read _ _ | .reopen _ | .log _ => true

/-! ### Operations -/

private theorem toNat_lt {height other : Height} (above : height < other) :
    (height.toNat : Int) < other.toNat := by
  exact_mod_cast UInt32.lt_iff_toNat_lt.mp above

private theorem blocks_effect_upTo {height : Height} {operation : Operation}
    (above : operation.staysAbove height = true) (now : Int) (db : Database) :
    ((operation.effect now db).blocks.getD BlockTable.empty).upTo height =
      (db.blocks.getD BlockTable.empty).upTo height := by
  have mapped {act : BlockTable → BlockTable}
      (same : ∀ table, (act table).upTo height = table.upTo height) :
      ((db.blocks.map act).getD BlockTable.empty).upTo height =
        (db.blocks.getD BlockTable.empty).upTo height := by
    cases db.blocks with
    | none => rfl
    | some table => exact same table
  cases operation with
  | acceptBlock block | putBlock block =>
    have high : (height.toNat : Int) < block.height.toNat := toNat_lt (of_decide_eq_true above)
    exact mapped (BlockTable.upTo_put high)
  | removeBlock other =>
    have high : (height.toNat : Int) < other.toNat := toNat_lt (of_decide_eq_true above)
    refine mapped (BlockTable.upTo_keep fun row low => ?_)
    have apart : row.height ≠ other.toNat := by omega
    simpa using apart
  | rollBack other =>
    have high : height ≤ other := of_decide_eq_true above
    exact mapped (BlockTable.upTo_upTo high)
  | setTip _ | addTransaction _ | removeTransactions _ => rfl
  | tipHeight | tip | payloadAt _ | blockAt _ | hashAt _ | payloadWithHash _ | blockWithHash _
  | transaction _ => rfl

private def filedUpTo (height : Height) (db : Database) : List TransactionRow :=
  (db.transactions.getD []).filter fun row => !row.blockHeight.above height.toNat

private theorem filedUpTo_effect {height : Height} {operation : Operation}
    (above : operation.staysAbove height = true) (now : Int) (db : Database) :
    filedUpTo height (operation.effect now db) = filedUpTo height db := by
  have swept {chosen : TransactionRow → Bool}
      (high : ∀ row, chosen row = true → row.blockHeight.above height.toNat = true)
      (rows : List TransactionRow) :
      (rows.filter fun row => !chosen row).filter (fun row => !row.blockHeight.above height.toNat) =
        rows.filter fun row => !row.blockHeight.above height.toNat := by
    rw [List.filter_filter]
    refine List.filter_congr fun row _ => ?_
    cases taken : chosen row with
    | false => rw [Bool.not_false, Bool.and_true]
    | true => rw [high row taken]; rfl
  cases filed : db.transactions with
  | none => cases operation <;> simp [filedUpTo, Operation.effect, filed]
  | some rows =>
    cases operation with
    | rollBack other =>
      have high : (height.toNat : Int) ≤ other.toNat := by
        exact_mod_cast UInt32.le_iff_toNat_le.mp (of_decide_eq_true above)
      simp only [filedUpTo, Operation.effect, filed, Option.map_some, Option.getD_some]
      exact swept (fun row => Cell.above_of_above high) rows
    | addTransaction transaction =>
      have high : (height.toNat : Int) < transaction.blockHeight.toNat :=
        toNat_lt (of_decide_eq_true above)
      have dropped : (TransactionRow.ofTransaction transaction).blockHeight.above height.toNat =
          true := by
        simpa [TransactionRow.ofTransaction, Cell.above_int] using high
      simp [filedUpTo, Operation.effect, filed, List.filter_append, dropped]
    | removeTransactions other =>
      have high : (height.toNat : Int) < other.toNat := toNat_lt (of_decide_eq_true above)
      simp only [filedUpTo, Operation.effect, filed, Option.map_some, Option.getD_some]
      exact swept (fun row => Cell.above_of_equalsInt high) rows
    | setTip _ | acceptBlock _ | putBlock _ | removeBlock _ => rfl
    | tipHeight | tip | payloadAt _ | blockAt _ | hashAt _ | payloadWithHash _ | blockWithHash _
    | transaction _ => rfl

private theorem level_rollBack (height : Height) (now : Int) (db : Database) :
    ((Operation.rollBack height).effect now db).level =
      db.level.bind fun level =>
        if (height.toNat : Int) < level
        then ((db.blocks.getD BlockTable.empty).upTo height).highest? else some level := by
  have left : (db.blocks.map (BlockTable.upTo height)).getD BlockTable.empty =
      (db.blocks.getD BlockTable.empty).upTo height := by
    cases db.blocks <;> rfl
  unfold Database.level
  rcases present : db.tip with - | - | row
  · simp [Operation.effect, present]
  · simp [Operation.effect, present, lowered]
  · have moved : ((Operation.rollBack height).effect now db).tip =
        some (lowered height now ((db.blocks.getD BlockTable.empty).upTo height) (some row)) := by
      rw [← left, Operation.effect, present]
      rfl
    rw [moved]
    simp only [Option.join_some, Option.map_some, Option.bind_some, lowered]
    split
    · rw [Option.map_map]
      exact Option.map_id'
    · rfl

/-- The tip shows what it showed at first, namely the highest of the blocks up to a height, or
something above that height. -/
private def Anchored (height : Height) (db : Database) : Prop :=
  db.level = ((db.blocks.getD BlockTable.empty).upTo height).highest? ∨
    ∃ top, db.level = some top ∧ (height.toNat : Int) < top

private theorem anchored_effect {height : Height} {operation : Operation}
    (above : operation.staysAbove height = true) (now : Int) {db : Database}
    (anchored : Anchored height db) : Anchored height (operation.effect now db) := by
  have blocks := blocks_effect_upTo above now db
  have unmoved (same : (operation.effect now db).level = db.level) :
      Anchored height (operation.effect now db) := by
    unfold Anchored
    rw [same, blocks]
    exact anchored
  have missing (absent : db.tip = none) (still : (operation.effect now db).tip = none) :
      Anchored height (operation.effect now db) :=
    unmoved (by rw [Database.level, Database.level, absent, still])
  cases operation with
  | setTip other =>
    have high : (height.toNat : Int) < other.toNat := toNat_lt (of_decide_eq_true above)
    cases present : db.tip with
    | none => exact missing present (by simp [Operation.effect, present])
    | some tip => exact .inr ⟨other.toNat, by simp [Database.level, Operation.effect, present], high⟩
  | acceptBlock block =>
    have high : (height.toNat : Int) < block.height.toNat := toNat_lt (of_decide_eq_true above)
    cases present : db.tip with
    | none => exact missing present (by simp [Operation.effect, present])
    | some tip =>
      refine .inr ⟨(raised block.height now tip).height, ?_, ?_⟩
      · simp [Database.level, Operation.effect, present]
      · cases tip with
        | none => exact high
        | some row =>
          simp only [raised]
          split
          · omega
          · exact high
  | rollBack other =>
    have high : height ≤ other := of_decide_eq_true above
    have moved := level_rollBack other now db
    cases shown : db.level with
    | none => exact unmoved (by rw [moved, shown]; rfl)
    | some top =>
      rw [shown, Option.bind_some] at moved
      split at moved
      · -- The tip lands on the highest block that is left, and that one may still be too high.
        unfold Anchored
        rw [moved, blocks, ← BlockTable.upTo_upTo high]
        exact BlockTable.highest?_upTo height _
      · exact unmoved (moved.trans shown.symm)
  | putBlock _ | removeBlock _ | addTransaction _ | removeTransactions _ => exact unmoved rfl
  | tipHeight | tip | payloadAt _ | blockAt _ | hashAt _ | payloadWithHash _ | blockWithHash _
  | transaction _ => exact unmoved rfl

/-! ### Histories -/

/-- What a database has become of another by what was done above a height. -/
private structure Outgrown (height : Height) (db now : Database) : Prop where
  blocks : (now.blocks.getD BlockTable.empty).upTo height = db.blocks.getD BlockTable.empty
  transactions : filedUpTo height now = db.transactions.getD []
  anchored : Anchored height now

private theorem outgrown_self {height : Height} {db : Database} (ends : db.EndsBy height) :
    Outgrown height db db := by
  have blocks := BlockTable.upTo_eq_self ends.blocks
  refine ⟨blocks, List.filter_eq_self.mpr fun row stored => ?_, .inl ?_⟩
  · rw [ends.transactions row stored]
    rfl
  · rw [blocks]
    exact ends.tip.level

private theorem outgrown_of_rows {height : Height} {db now next : Database}
    (grown : Outgrown height db now)
    (blocks : next.blocks.getD BlockTable.empty = now.blocks.getD BlockTable.empty)
    (transactions : next.transactions.getD [] = now.transactions.getD [])
    (tip : next.tip.join = now.tip.join) : Outgrown height db next := by
  refine ⟨by rw [blocks, grown.blocks], ?_, ?_⟩
  · rw [filedUpTo, transactions]
    exact grown.transactions
  · unfold Anchored Database.level
    rw [blocks, tip]
    exact grown.anchored

private theorem outgrown_prepare {height : Height} {db : Database} {c : Connection}
    (grown : Outgrown height db c.database) :
    Outgrown height db (Layout.prepare.run c).2.database := by
  rcases Layout.prepare_database c with same | ⟨-, added⟩ | ⟨noTip, noBlocks, noTransactions, laid⟩
  · rwa [same]
  · rw [added]
    exact outgrown_of_rows grown rfl rfl rfl
  · -- What did not exist had no rows either.
    rw [laid]
    exact outgrown_of_rows grown (by rw [noBlocks]; rfl) (by rw [noTransactions]; rfl)
      (by rw [noTip]; rfl)

private theorem outgrown_step {height : Height} {db now : Database}
    (grown : Outgrown height db now) {step : Step} (above : step.staysAbove height = true) :
    Outgrown height db (step.apply now).2 := by
  cases step with
  | call through call =>
    have effect : ((Step.call through call).apply now).2 = _ :=
      perform_effect call (through.holding now)
    rw [effect]
    cases (call.perform (through.holding now)).1 with
    | error e => exact grown
    | ok answer =>
      exact ⟨(blocks_effect_upTo above call.now now).trans grown.blocks,
        (filedUpTo_effect above call.now now).trans grown.transactions,
        anchored_effect above call.now grown.anchored⟩
  | read through other =>
    have still : ((Step.read through other).apply now).2 = now :=
      still_during (still_query _) (through.holding now)
    rwa [still]
  | reopen through => exact outgrown_prepare (c := through.holding now) grown
  | log logged => exact outgrown_of_rows grown rfl rfl rfl
  | interfere act =>
    simp only [Step.staysAbove, Bool.and_eq_true] at above
    obtain ⟨⟨tip, blocks⟩, transactions⟩ := above
    have same_tip : (act.apply now).tip = now.tip := agree_apply tip now
    have same_blocks : (act.apply now).blocks = now.blocks := agree_apply blocks now
    have same_transactions : (act.apply now).transactions = now.transactions :=
      agree_apply transactions now
    exact outgrown_of_rows grown (by rw [Step.apply, same_blocks])
      (by rw [Step.apply, same_transactions]) (by rw [Step.apply, same_tip])

private theorem outgrown_run {height : Height} {db now : Database} (grown : Outgrown height db now)
    {steps : List Step} (above : ∀ step ∈ steps, step.staysAbove height = true) :
    Outgrown height db (run steps now).2 := by
  induction steps generalizing now with
  | nil => exact grown
  | cons step steps ih =>
    have next := outgrown_step grown (above step List.mem_cons_self)
    exact ih next fun other member => above other (List.mem_cons_of_mem step member)

private theorem level_of_anchored {height : Height} {db now : Database} (onTop : db.TipOnTop)
    (grown : Outgrown height db now) (second : Int) :
    ((Operation.rollBack height).effect second now).level = db.level := by
  have top : db.level = ((now.blocks.getD BlockTable.empty).upTo height).highest? := by
    rw [grown.blocks]
    exact onTop.level
  rw [level_rollBack, top]
  rcases grown.anchored with unmoved | ⟨raised, shown, high⟩
  · rw [unmoved]
    cases ((now.blocks.getD BlockTable.empty).upTo height).highest? with
    | none => rfl
    | some highest => simp
  · rw [shown, Option.bind_some, if_pos high]

/-- From a database in which nothing lies above a height and the tip keeps step with the blocks:
whatever clients do above that height, a rollback to it that succeeds leaves the blocks, the
transactions and the height of the tip as they were, and counts the blocks that were above. -/
theorem rollBack_undoes {height : Height} {db : Database} (ends : db.EndsBy height)
    {steps : List Step} (above : ∀ step ∈ steps, step.staysAbove height = true)
    (through : Connection) {call : Call} (rolls : call.operation = .rollBack height)
    {answer : Answer}
    (succeeded : (call.perform (through.holding (run steps db).2)).1 = .ok answer) :
    let before := (run steps db).2
    let after := (call.perform (through.holding before)).2.database
    after.blocks = some (db.blocks.getD BlockTable.empty) ∧
      after.transactions = some (db.transactions.getD []) ∧
      after.tip.map (Option.map TipRow.height) = some db.level ∧
      ∃ table, before.blocks = some table ∧
        answer = .count (table.rows.countP fun row => decide ((height.toNat : Int) < row.height)) := by
  intro before after
  have grown : Outgrown height db before := outgrown_run (outgrown_self ends) above
  obtain ⟨operation, fired, now⟩ := call
  obtain rfl : operation = .rollBack height := rolls
  have done := perform_ok (Prod.ext succeeded rfl)
  obtain ⟨n, rolled, rfl⟩ := Task.map_ok done
  obtain ⟨table, row, rows, stored, present, filed, rfl, final⟩ := rollBack_ok rolled
  have stored : before.blocks = some table := stored
  have filed : before.transactions = some rows := filed
  have effect : after = (Operation.rollBack height).effect now before := by
    have performed := perform_effect ⟨.rollBack height, fired, now⟩ (through.holding before)
    rw [succeeded] at performed
    exact performed
  have blocks := grown.blocks
  have transactions := grown.transactions
  have level := level_of_anchored ends.tip grown now
  rw [stored] at blocks
  rw [filedUpTo, filed] at transactions
  rw [← effect] at level
  have shown : after.tip.isSome = true := by
    have final : after = _ := final
    rw [final]
    rfl
  refine ⟨?_, ?_, ?_, table, stored, rfl⟩
  · rw [effect, Operation.effect, stored, ← blocks]
    rfl
  · rw [effect, Operation.effect, filed, ← transactions]
    rfl
  · obtain ⟨tip, there⟩ := Option.isSome_iff_exists.mp shown
    have level : tip.map TipRow.height = db.level := by
      rw [← level, Database.level, there]
      rfl
    rw [there, Option.map_some, level]

private def settled : Database :=
  { Layout.laidOut .blank with
    blocks := some (BlockTable.empty.put (.ofBlock ⟨3, "ab", "", false, [1]⟩) |>.put
      (.ofBlock ⟨5, "cd", "ab", true, [2]⟩))
    transactions := some [.ofTransaction ⟨5, "cd", 0, "t", []⟩, .ofTransaction ⟨2, "ef", 1, "t", []⟩]
    tip := some (some ⟨5, 1⟩) }

/-- A tip that points at no block, one that was not raised, a rollback onto it, a refused block, a
transaction whose height has no block, and a removal that makes the tip point at nothing again. -/
private def venture : List Step :=
  let call (operation : Operation) (now : Int) : Step := .call Layout.fresh ⟨operation, false, now⟩
  [call (.setTip 90) 2, call (.putBlock ⟨20, "", "", false, []⟩) 3,
    call (.acceptBlock ⟨30, "", "", false, []⟩) 4, call (.rollBack 25) 5,
    .interfere (.reject ⟨.blocks, .insert, "no", some 40⟩),
    call (.acceptBlock ⟨40, "", "", false, []⟩) 6, call (.addTransaction ⟨7, "", 0, "t", []⟩) 7,
    .interfere (.allow .blocks .insert), call (.acceptBlock ⟨22, "", "", false, []⟩) 8,
    call (.removeBlock 22) 9, .reopen Layout.fresh]

theorem ventured_rollBack_undoes :
    settled.EndsBy 5 ∧ (∀ step ∈ venture, step.staysAbove 5 = true) ∧
      (run venture settled).2.level = some 22 ∧
      (Call.perform ⟨.rollBack 5, false, 10⟩ (Layout.fresh.holding (run venture settled).2)).1 =
        .ok (.count 1) ∧
      (Call.perform ⟨.rollBack 5, false, 10⟩
        (Layout.fresh.holding (run venture settled).2)).2.database.blocks = settled.blocks := by
  have greatest : ∀ row, some (TipRow.mk 5 1) = some row →
      IsGreatest (settled.blocks.getD BlockTable.empty).heights row.height := by
    rintro row same
    obtain rfl := Option.some.inj same
    refine ⟨⟨.ofBlock ⟨5, "cd", "ab", true, [2]⟩, by decide +kernel, rfl⟩, ?_⟩
    rintro h ⟨row, stored, rfl⟩
    revert row
    decide +kernel
  have ends : settled.EndsBy 5 := ⟨by decide +kernel, by decide +kernel, by decide +kernel, greatest⟩
  have above : ∀ step ∈ venture, step.staysAbove 5 = true := by decide
  have counted : (Call.perform ⟨.rollBack 5, false, 10⟩
      (Layout.fresh.holding (run venture settled).2)).1 = .ok (.count 1) := by decide +kernel
  have undone := rollBack_undoes ends above Layout.fresh rfl counted
  exact ⟨ends, above, by decide +kernel, counted, undone.1⟩

end ChainStore.Cache
