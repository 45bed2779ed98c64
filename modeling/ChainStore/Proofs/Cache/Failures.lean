import ChainStore.Proofs.Cache.Lookup
import ChainStore.Proofs.Cache.RollbackEffect
import ChainStore.Proofs.Cache.TipHistory
import ChainStore.Proofs.Storage.Refusal

set_option autoImplicit false
set_option relaxedAutoImplicit false

/-!
Why a block is not accepted and why a rollback fails. Both are units of several changes, so what is
reported is the first change that does not go through; whether the tip can follow depends on what
the changes before have left.
-/

namespace ChainStore.Storage

namespace Database

variable (db : Database) (height : Height)

def BarsBlock : Prop := db.blocks = none ∨ db.Rejects .blocks .insert (.int height.toNat)

/-- The tip cannot follow a block up to a height: there is no table for it, its row shows none of
the heights, or it would have to move and a rejection speaks about that. -/
def BarsRaise : Prop :=
  match db.tip with
  | none => True
  | some none => db.Rejects .tip .insert (.int height.toNat)
  | some (some row) =>
    (¬ ∃ shown : Height, row.height = shown.toNat) ∨
      row.height < height.toNat ∧
        (db.Rejects .tip .insert (.int height.toNat) ∨ db.Rejects .tip .update (.int height.toNat))

def BarsCut : Prop :=
  db.blocks = none ∨ ∃ above ∈ db.blockHeights, (height.toNat : Int) < above ∧
    db.Rejects .blocks .delete (.int above)

/-- A transaction above a height cannot be removed, or there is no table of transactions. -/
def BarsPurge : Prop :=
  db.transactions = none ∨ ∃ row ∈ db.transactions.getD [],
    row.blockHeight.above height.toNat = true ∧ db.Rejects .transactions .delete row.blockHeight

/-- The tip cannot follow a rollback to a height down to what is left: there is no table for it, its
row shows none of the heights, or it would have to move and the highest block left is below all
heights, or a rejection speaks about the move. -/
def BarsLowering (left : Set Int) : Prop :=
  match db.tip with
  | none => True
  | some none => False
  | some (some row) =>
    (¬ ∃ shown : Height, row.height = shown.toNat) ∨
      (height.toNat : Int) < row.height ∧
        ((∃ top, IsGreatest left top ∧
            (top < 0 ∨ db.Rejects .tip .insert (.int top) ∨ db.Rejects .tip .update (.int top))) ∨
          left = ∅ ∧ db.Rejects .tip .delete (.int row.height))

end Database

theorem tipHeight_of_foreign {db : Database} {row : TipRow} (present : db.tip = some (some row))
    (foreign : ¬ ∃ shown : Height, row.height = shown.toNat) :
    ∃ fault, db.tipHeight = .error fault := by
  cases read : db.tipHeight with
  | error fault => exact ⟨fault, rfl⟩
  | ok found =>
    obtain ⟨tip, present', shows⟩ := tipHeight_eq_ok.mp read
    obtain rfl := Option.some.inj (present.symm.trans present')
    cases found with
    | none => cases shows
    | some shown => exact absurd ⟨shown, Option.some.inj shows⟩ foreign

end ChainStore.Storage

namespace ChainStore.Cache

open Storage

variable {c : Connection} {height : Height} {now : Int}

private theorem writeTip_fails_at_look (height : Height) (now : Int) (able : c.writeFault? = none)
    {tip : Option TipRow} (present : c.database.tip = some tip) :
    (writeTip height now).Fails c.look ↔
      c.database.Rejects .tip .insert (.int height.toNat) ∨
        tip.isSome ∧ c.database.Rejects .tip .update (.int height.toNat) := by
  obtain ⟨writes, free⟩ := writeFault?_eq_none_iff.mp able
  have still_free : ¬ c.look.KeptOut := free
  have still_writes : c.look.readOnly = false := writes
  rw [writeTip_fails_iff still_free, Connection.database_look, present, still_writes]
  simp

private theorem raiseTip_fails_iff (able : c.writeFault? = none) :
    (raiseTip height now).Fails c ↔ c.database.BarsRaise height := by
  rw [raiseTip, fails_query_bind (readFault?_of_writeFault? able), Database.BarsRaise]
  cases present : c.database.tip with
  | none => simp [Database.tipHeight, Database.tipRow, present, bind, Except.bind]
  | some tip =>
    have moved := writeTip_fails_at_look height now able present
    cases tip with
    | none =>
      have read : c.database.tipHeight = .ok none := tipHeight_eq_ok.mpr ⟨none, present, rfl⟩
      simpa [read] using moved
    | some row =>
      by_cases legible : ∃ shown : Height, row.height = shown.toNat
      · obtain ⟨shown, level⟩ := id legible
        have read : c.database.tipHeight = .ok (some shown) :=
          tipHeight_eq_ok.mpr ⟨some row, present, congrArg some level⟩
        have below : row.height < height.toNat ↔ ¬ height ≤ shown := by
          rw [level, UInt32.le_iff_toNat_le]
          omega
        simp only [read, below, legible, not_true, false_or]
        split
        · rename_i reached
          simp [Task.Fails, reached]
        · rename_i beyond
          simpa [beyond] using moved
      · obtain ⟨fault, unread⟩ := tipHeight_of_foreign present legible
        simp [unread, legible]

/-- Moving a tip onto the highest block, or away if there is none. No block is above a height, so
only one below all heights cannot be pointed at. -/
private theorem landTip_fails_iff (able : c.writeFault? = none) {row : TipRow}
    (present : c.database.tip = some (some row)) {table : BlockTable}
    (stored : c.database.blocks = some table) (low : ∀ h ∈ table.heights, h ≤ height.toNat) :
    (query Database.highestBlock >>= fun
      | some top => writeTip top now
      | none => clearTip : Statement Unit).Fails c ↔
      (∃ top, IsGreatest table.heights top ∧
        (top < 0 ∨ c.database.Rejects .tip .insert (.int top) ∨
          c.database.Rejects .tip .update (.int top))) ∨
        table.heights = ∅ ∧ c.database.Rejects .tip .delete (.int row.height) := by
  obtain ⟨writes, free⟩ := writeFault?_eq_none_iff.mp able
  rw [fails_query_bind (readFault?_of_writeFault? able)]
  cases highest : table.highest? with
  | none =>
    have empty := BlockTable.heights_eq_empty.mpr (BlockTable.highest?_eq_none.mp highest)
    have read : c.database.highestBlock = .ok none := highestBlock_of_highest? stored highest
    have bottomless (top : Int) : ¬ IsGreatest (∅ : Set Int) top := fun greatest => greatest.1
    have still_free : ¬ c.look.KeptOut := free
    have still_writes : c.look.readOnly = false := writes
    simp [read, clearTip_fails_iff still_free, still_writes, present, empty, bottomless]
  | some top =>
    have greatest := BlockTable.highest?_eq_some highest
    have nonempty : table.heights ≠ ∅ := greatest.nonempty.ne_empty
    have only (other : Int) : IsGreatest table.heights other ↔ other = top :=
      ⟨fun this => this.unique greatest, fun same => same ▸ greatest⟩
    simp only [only, exists_eq_left, nonempty, false_and, or_false]
    by_cases negative : top < 0
    · have unread : ∃ fault, c.database.highestBlock = .error fault := by
        cases read : c.database.highestBlock with
        | error fault => exact ⟨fault, rfl⟩
        | ok found =>
          obtain ⟨_, stored', highest'⟩ := highestBlock_ok read
          obtain rfl := Option.some.inj (stored.symm.trans stored')
          rw [highest] at highest'
          cases found with
          | none => cases highest'
          | some height =>
            have level : top = height.toNat := Option.some.inj highest'
            omega
      obtain ⟨fault, unread⟩ := unread
      simp [unread, negative]
    · obtain ⟨shown, rfl⟩ : ∃ shown : Height, top = shown.toNat := by
        have bound := low top greatest.1
        have := height.toNat_lt
        exact ⟨.ofNat top.toNat, by rw [UInt32.toNat_ofNat']; omega⟩
      have read : c.database.highestBlock = .ok (some shown) :=
        highestBlock_of_highest? stored highest
      simp only [read, negative, false_or]
      rw [writeTip_fails_at_look shown now able present]
      simp

private theorem lowerTip_fails_iff (able : c.writeFault? = none) {table : BlockTable}
    (stored : c.database.blocks = some table) (low : ∀ h ∈ table.heights, h ≤ height.toNat) :
    (lowerTip height now).Fails c ↔ c.database.BarsLowering height table.heights := by
  rw [lowerTip, fails_query_bind (readFault?_of_writeFault? able), Database.BarsLowering]
  cases present : c.database.tip with
  | none => simp [Database.tipHeight, Database.tipRow, present, bind, Except.bind]
  | some tip =>
    cases tip with
    | none =>
      have read : c.database.tipHeight = .ok none := tipHeight_eq_ok.mpr ⟨none, present, rfl⟩
      simp [read, Task.Fails]
    | some row =>
      by_cases legible : ∃ shown : Height, row.height = shown.toNat
      · obtain ⟨shown, level⟩ := id legible
        have read : c.database.tipHeight = .ok (some shown) :=
          tipHeight_eq_ok.mpr ⟨some row, present, congrArg some level⟩
        have above : (height.toNat : Int) < row.height ↔ height < shown := by
          rw [level, UInt32.lt_iff_toNat_lt]
          omega
        simp only [read, above, legible, not_true, false_or]
        split
        · rename_i higher
          rw [and_iff_right higher]
          have still_able : c.look.writeFault? = none := able
          exact landTip_fails_iff still_able present stored low
        · rename_i lower
          simp [Task.Fails, lower]
      · obtain ⟨fault, unread⟩ := tipHeight_of_foreign present legible
        simp [unread, legible]

/-! ### Accepting a block -/

private theorem able_after {τ α : Type} {table : Table} {contents : Database → Option τ}
    {act : Database → τ → Except Fault α × Database} {a : α} {after : Connection}
    (changed : (change table contents act).run c = (.ok a, after))
    (access : c.database.SameAccess after.database) (able : c.writeFault? = none) :
    after.writeFault? = none := by
  have rights : after.toRights = c.toRights :=
    (congrArg (fun ran => ran.2.toRights) changed).symm.trans (rights_change _ _ _ c)
  rw [writeFault?_congr rights access, able]

inductive AcceptOutcome (c : Connection) (block : Block) : Except Error Unit → Prop where
  | keptOut {fault : Fault} (kept : c.KeptOut) :
    AcceptOutcome c block (.error (.storage (.startingWrite block.height) fault))
  | unwritten {fault : Fault} (free : ¬ c.KeptOut)
    (barred : c.readOnly = true ∨ c.database.BarsBlock block.height) :
    AcceptOutcome c block (.error (.storage (.writingBlock block.height block.hash) fault))
  | inconsistent {fault : Fault} (free : ¬ c.KeptOut)
    (written : ¬ (c.readOnly = true ∨ c.database.BarsBlock block.height))
    (barred : c.database.BarsRaise block.height) :
    AcceptOutcome c block (.error (.consistency block.height fault))
  | accepted (free : ¬ c.KeptOut)
    (written : ¬ (c.readOnly = true ∨ c.database.BarsBlock block.height))
    (raised : ¬ c.database.BarsRaise block.height) : AcceptOutcome c block (.ok ())

theorem outcome_acceptBlock (c : Connection) (block : Block) (now : Int) :
    AcceptOutcome c block ((acceptBlock block now).run c).1 := by
  rw [acceptBlock, Task.answer_atomically]
  by_cases kept : c.KeptOut
  · obtain ⟨fault, failed⟩ := beginWrite_fails_iff.mpr kept
    rw [Task.answer_bind_error (answer_during_error failed)]
    exact .keptOut kept
  rw [Task.run_bind_ok (run_during_ok (run_beginWrite_of_free kept))]
  by_cases unwritten : c.readOnly = true ∨ c.database.BarsBlock block.height
  · obtain ⟨fault, failed⟩ := (putBlockRow_fails_iff kept (.ofBlock block)).mpr unwritten
    rw [Task.answer_bind_error (answer_during_error failed)]
    exact .unwritten kept unwritten
  obtain ⟨_, stored, put⟩ := Task.not_fails.mp
    ((putBlockRow_fails_iff kept (.ofBlock block)).not.mpr unwritten)
  rw [Task.run_bind_ok (run_during_ok put)]
  obtain ⟨table, -, here⟩ := putBlockRow_ok put
  have able : c.writeFault? = none := writeFault?_eq_none_iff.mpr ⟨by simp_all, kept⟩
  have able' : stored.writeFault? = none := able_after put (by rw [here]; exact ⟨rfl, rfl⟩) able
  have same : stored.database.BarsRaise block.height ↔ c.database.BarsRaise block.height := by
    rw [here]
    exact Iff.rfl
  by_cases behind : c.database.BarsRaise block.height
  · obtain ⟨fault, failed⟩ := (raiseTip_fails_iff able').mpr (same.mpr behind)
    rw [answer_following_error failed]
    exact .inconsistent kept unwritten behind
  · obtain ⟨_, after, moved⟩ := Task.not_fails.mp
      (((raiseTip_fails_iff able').trans same).not.mpr behind)
    rw [run_following_ok moved]
    exact .accepted kept unwritten behind

private theorem AcceptOutcome.decides {block : Block} {answer : Except Error Unit}
    (outcome : AcceptOutcome c block answer) :
    let writes := ¬ c.KeptOut ∧ ¬ (c.readOnly = true ∨ c.database.BarsBlock block.height)
    ((∃ fault, answer = .error (.storage (.startingWrite block.height) fault)) ↔ c.KeptOut) ∧
    ((∃ fault, answer = .error (.storage (.writingBlock block.height block.hash) fault)) ↔
      ¬ c.KeptOut ∧ (c.readOnly = true ∨ c.database.BarsBlock block.height)) ∧
    ((∃ fault, answer = .error (.consistency block.height fault)) ↔
      writes ∧ c.database.BarsRaise block.height) ∧
    (answer = .ok () ↔ writes ∧ ¬ c.database.BarsRaise block.height) := by
  cases outcome with
  | keptOut kept => simp [kept]
  | unwritten free barred => simp [free, barred]
  | inconsistent free written barred => simp [free, written, barred]
  | accepted free written raised => simp [free, written, raised]

private theorem keepsRights_acceptBlock (block : Block) (now : Int) :
    (acceptBlock block now).KeepsRights := by
  have raising : (raiseTip block.height now).KeepsRights := by
    refine (keepsRights_query _).bind fun found => ?_
    cases found with
    | none => exact rights_change _ _ _
    | some current =>
      simp only
      split
      · exact fun _ => rfl
      · exact rights_change _ _ _
  intro c
  rw [acceptBlock, Task.rights_atomically]
  exact (keepsRights_beginWrite.mapFailure _).bind (fun _ =>
    (Task.KeepsRights.mapFailure (rights_change _ _ _) _).bind fun _ => raising.mapFailure _) c

private theorem blockAt_accepted {block : Block} {after : Connection}
    (accepted : (acceptBlock block now).run c = (.ok (), after)) {reader : Connection}
    (there : reader.database = after.database) (able : reader.readFault? = none) (later : Int) :
    (Call.perform ⟨.blockAt block.height, false, later⟩ reader).1 = .ok (.block block) := by
  obtain ⟨table, row, -, -, final⟩ := acceptBlock_ok accepted
  have stored : reader.database.blocks = some (table.put (.ofBlock block)) := by rw [there, final]
  have here : (table.put (.ofBlock block)).row? block.height.toNat = some (.ofBlock block) :=
    (BlockTable.row?_put _ _ _).trans (if_pos rfl)
  show ((Answer.block <$> blockAt block.height).run reader).1 = _
  rw [answer_map, blockAt, answer_of_read _ _ _ able
    (Database.read_of_row stored here (BlockRow.toBlock_ofBlock block))]
  rfl

private theorem readFault?_of_accepted {block : Block} {after : Connection} (free : ¬ c.KeptOut)
    (accepted : (acceptBlock block now).run c = (.ok (), after)) : after.readFault? = none := by
  obtain ⟨table, row, -, -, final⟩ := acceptBlock_ok accepted
  have rights : after.toRights = c.toRights := by
    have kept := keepsRights_acceptBlock block now c
    rw [accepted] at kept
    exact kept
  have access : c.database.SameAccess after.database := by
    rw [final]
    exact ⟨rfl, rfl⟩
  rw [readFault?_congr rights access, readFault?_of_free free]

private theorem not_barsRaise_of_reached {db : Database} {row : TipRow} {shown : Height}
    (present : db.tip = some (some row)) (level : row.height = shown.toNat)
    (reaches : (height.toNat : Int) ≤ row.height) : ¬ db.BarsRaise height := by
  rw [Database.BarsRaise, present]
  rintro (foreign | ⟨below, -⟩)
  · exact foreign ⟨shown, level⟩
  · omega

private theorem tip_of_reached {block : Block} {row : TipRow}
    (present : c.database.tip = some (some row))
    (reaches : (block.height.toNat : Int) ≤ row.height) (now : Int) :
    (Call.perform ⟨.acceptBlock block, false, now⟩ c).2.database.tip = c.database.tip := by
  rw [perform_effect, Entry.effect]
  split
  · show c.database.tip.map (fun tip => some (raised block.height now tip)) = c.database.tip
    rw [present, Option.map_some, raised, if_pos reaches]
  · rfl

/-- Accepting a block fails at the start if the connection is kept out, which one with full rights
is by a lock alone; else at the block if the connection may only read, if there is no table of
blocks, or if a rejection speaks about a block at this height; else at the tip if it cannot be
raised; else not at all. A tip that is a height and not below the block is left alone with its
second, whatever stands in the way of changing it. What has been accepted is found by everyone who
can read, its writer included. -/
theorem acceptBlock_decided (block : Block) (now : Int) (c : Connection) :
    let ran := Call.perform ⟨.acceptBlock block, false, now⟩ c
    let db := c.database
    let writes := ¬ c.KeptOut ∧ ¬ (c.readOnly = true ∨ db.BarsBlock block.height)
    ((∃ fault, ran.1 = .error (.storage (.startingWrite block.height) fault)) ↔ c.KeptOut) ∧
    ((∃ fault, ran.1 = .error (.storage (.writingBlock block.height block.hash) fault)) ↔
      ¬ c.KeptOut ∧ (c.readOnly = true ∨ db.BarsBlock block.height)) ∧
    ((∃ fault, ran.1 = .error (.consistency block.height fault)) ↔
      writes ∧ db.BarsRaise block.height) ∧
    (ran.1 = .ok .done ↔ writes ∧ ¬ db.BarsRaise block.height) ∧
    (∀ (row : TipRow) (shown : Height), db.tip = some (some row) → row.height = shown.toNat →
      block.height ≤ shown →
        (∀ fault, ran.1 ≠ .error (.consistency block.height fault)) ∧
          ran.2.database.tip = db.tip) ∧
    (ran.1 = .ok .done → ran.2.readFault? = none ∧
      ∀ (reader : Connection) (later : Int), reader.database = ran.2.database →
        reader.readFault? = none →
          (Call.perform ⟨.blockAt block.height, false, later⟩ reader).1 = .ok (.block block)) := by
  intro ran db writes
  have outcome := outcome_acceptBlock c block now
  have failed (e : Error) : ran.1 = .error e ↔ ((acceptBlock block now).run c).1 = .error e := by
    rw [show ran.1 = _ from answer_map _ _ c]
    cases ((acceptBlock block now).run c).1 <;> simp [Except.map]
  have done : ran.1 = .ok .done ↔ ((acceptBlock block now).run c).1 = .ok () := by
    rw [show ran.1 = _ from answer_map _ _ c]
    cases ((acceptBlock block now).run c).1 <;> simp [Except.map]
  obtain ⟨start, unwritten, inconsistent, accepted⟩ := outcome.decides
  simp only [failed, done]
  refine ⟨start, unwritten, inconsistent, accepted, ?high, ?found⟩
  case high =>
    intro row shown present level reached
    have reaches : (block.height.toNat : Int) ≤ row.height := by
      rw [level]
      exact_mod_cast UInt32.le_iff_toNat_le.mp reached
    have unbarred := not_barsRaise_of_reached present level reaches
    exact ⟨fun fault reported => unbarred (inconsistent.mp ⟨fault, (failed _).mp reported⟩).2,
      tip_of_reached present reaches now⟩
  case found =>
    intro succeeded
    have same : ran.2 = ((acceptBlock block now).run c).2 := after_map _ _ c
    have ended : (acceptBlock block now).run c = (.ok (), ran.2) := Prod.ext succeeded same.symm
    exact ⟨readFault?_of_accepted (accepted.mp succeeded).1.1 ended,
      fun reader later there able => blockAt_accepted ended there able later⟩

/-! ### Rolling back -/

inductive RollBackOutcome (c : Connection) (height : Height) : Except Error Nat → Prop where
  | keptOut {fault : Fault} (kept : c.KeptOut) :
    RollBackOutcome c height (.error (.storage (.startingRollback height) fault))
  | blocksStay {fault : Fault} (free : ¬ c.KeptOut)
    (barred : c.readOnly = true ∨ c.database.BarsCut height) :
    RollBackOutcome c height (.error (.storage (.deletingBlocksAbove height) fault))
  | transactionsStay {fault : Fault} (free : ¬ c.KeptOut)
    (cut : ¬ (c.readOnly = true ∨ c.database.BarsCut height))
    (barred : c.database.BarsPurge height) :
    RollBackOutcome c height (.error (.storage (.deletingTransactionsAbove height) fault))
  | inconsistent {fault : Fault} (free : ¬ c.KeptOut)
    (cut : ¬ (c.readOnly = true ∨ c.database.BarsCut height))
    (purged : ¬ c.database.BarsPurge height)
    (barred : c.database.BarsLowering height {h ∈ c.database.blockHeights | h ≤ height.toNat}) :
    RollBackOutcome c height (.error (.consistency height fault))
  | rolled {n : Nat} (free : ¬ c.KeptOut)
    (cut : ¬ (c.readOnly = true ∨ c.database.BarsCut height))
    (purged : ¬ c.database.BarsPurge height)
    (lowered :
      ¬ c.database.BarsLowering height {h ∈ c.database.blockHeights | h ≤ height.toNat}) :
    RollBackOutcome c height (.ok n)

private theorem cut_fails_iff (free : ¬ c.KeptOut) :
    (removeBlockRows fun row => decide ((height.toNat : Int) < row.height)).Fails c ↔
      c.readOnly = true ∨ c.database.BarsCut height := by
  rw [removeBlockRows_fails_iff free, Database.BarsCut]
  refine or_congr_right (or_congr_right ⟨?_, ?_⟩)
  · rintro ⟨table, stored, row, member, above, rejected⟩
    exact ⟨row.height, ⟨table, stored, row, member, rfl⟩, of_decide_eq_true above, rejected⟩
  · rintro ⟨_, ⟨table, stored, row, member, rfl⟩, above, rejected⟩
    exact ⟨table, stored, row, member, decide_eq_true above, rejected⟩

private theorem purge_fails_iff (free : ¬ c.KeptOut) :
    (removeTransactionRows fun row => row.blockHeight.above height.toNat).Fails c ↔
      c.readOnly = true ∨ c.database.BarsPurge height := by
  rw [removeTransactionRows_fails_iff free, Database.BarsPurge]
  cases c.database.transactions <;> simp

theorem outcome_rollBack (c : Connection) (height : Height) (now : Int) :
    RollBackOutcome c height ((rollBack height now).run c).1 := by
  rw [rollBack, Task.answer_atomically]
  by_cases kept : c.KeptOut
  · obtain ⟨fault, failed⟩ := beginWrite_fails_iff.mpr kept
    rw [Task.answer_bind_error (answer_during_error failed)]
    exact .keptOut kept
  rw [Task.run_bind_ok (run_during_ok (run_beginWrite_of_free kept))]
  by_cases barred : c.readOnly = true ∨ c.database.BarsCut height
  · obtain ⟨fault, failed⟩ := (cut_fails_iff kept).mpr barred
    rw [Task.answer_bind_error (answer_during_error failed)]
    exact .blocksStay kept barred
  obtain ⟨n, cut, deleted⟩ := Task.not_fails.mp ((cut_fails_iff kept).not.mpr barred)
  rw [Task.run_bind_ok (run_during_ok deleted)]
  obtain ⟨table, stored, -, left⟩ := removeBlockRows_ok deleted
  have able : c.writeFault? = none := writeFault?_eq_none_iff.mpr ⟨by simp_all, kept⟩
  have able_cut : cut.writeFault? = none := able_after deleted (by rw [left]; exact ⟨rfl, rfl⟩) able
  obtain ⟨writes, free⟩ := writeFault?_eq_none_iff.mp able_cut
  have same : cut.readOnly = true ∨ cut.database.BarsPurge height ↔ c.database.BarsPurge height := by
    rw [writes, left]
    simp only [Bool.false_eq_true, false_or]
    exact Iff.rfl
  by_cases stay : c.database.BarsPurge height
  · obtain ⟨fault, failed⟩ := (purge_fails_iff free).mpr (same.mpr stay)
    rw [Task.answer_bind_error (answer_during_error failed)]
    exact .transactionsStay kept barred stay
  obtain ⟨_, cleared, swept⟩ :=
    Task.not_fails.mp (((purge_fails_iff free).trans same).not.mpr stay)
  rw [Task.run_bind_ok (run_during_ok swept)]
  obtain ⟨_, -, -, gone⟩ := removeTransactionRows_ok swept
  have able_cleared : cleared.writeFault? = none :=
    able_after swept (by rw [gone]; exact ⟨rfl, rfl⟩) able_cut
  -- The tip is lowered onto what the two removals have left.
  have remaining : cleared.database.blocks = some (table.upTo height) := by rw [gone, left]; rfl
  have heights : (table.upTo height).heights =
      {h ∈ c.database.blockHeights | h ≤ height.toNat} := by
    rw [BlockTable.heights_upTo, Database.blockHeights_of_table stored]
  have settled : (lowerTip height now).Fails cleared ↔
      c.database.BarsLowering height {h ∈ c.database.blockHeights | h ≤ height.toNat} := by
    rw [lowerTip_fails_iff able_cleared remaining
      fun h member => BlockTable.le_of_mem_heights_upTo member, ← heights, gone, left]
    exact Iff.rfl
  by_cases stuck : c.database.BarsLowering height {h ∈ c.database.blockHeights | h ≤ height.toNat}
  · obtain ⟨fault, failed⟩ := settled.mpr stuck
    rw [Task.answer_bind_error (answer_following_error failed)]
    exact .inconsistent kept barred stay stuck
  · obtain ⟨_, after, moved⟩ := Task.not_fails.mp (settled.not.mpr stuck)
    rw [Task.run_bind_ok (run_following_ok moved)]
    exact .rolled kept barred stay stuck

/-- A rollback fails at the start if the connection is kept out, which one with full rights is by a
lock alone; else at the blocks if the connection may only read, if there is no table of them, or if
a rejection speaks about the removal of one above the height; else at the transactions if it is so
with them; else at the tip if it cannot be moved onto the blocks at or below the height; else not at
all. -/
theorem rollBack_decided (height : Height) (now : Int) (c : Connection) :
    let answer := (Call.perform ⟨.rollBack height, false, now⟩ c).1
    let db := c.database
    let cuts := ¬ c.KeptOut ∧ ¬ (c.readOnly = true ∨ db.BarsCut height)
    let purges := cuts ∧ ¬ db.BarsPurge height
    let stuck := db.BarsLowering height {h ∈ db.blockHeights | h ≤ height.toNat}
    ((∃ fault, answer = .error (.storage (.startingRollback height) fault)) ↔ c.KeptOut) ∧
    ((∃ fault, answer = .error (.storage (.deletingBlocksAbove height) fault)) ↔
      ¬ c.KeptOut ∧ (c.readOnly = true ∨ db.BarsCut height)) ∧
    ((∃ fault, answer = .error (.storage (.deletingTransactionsAbove height) fault)) ↔
      cuts ∧ db.BarsPurge height) ∧
    ((∃ fault, answer = .error (.consistency height fault)) ↔ purges ∧ stuck) ∧
    ((∃ n, answer = .ok (.count n)) ↔ purges ∧ ¬ stuck) := by
  intro answer db cuts purges stuck
  have told : answer = ((rollBack height now).run c).1.map Answer.count := answer_map _ _ c
  have outcome := outcome_rollBack c height now
  generalize ((rollBack height now).run c).1 = result at told outcome
  cases outcome with
  | keptOut kept => simp [told, Except.map, purges, cuts, kept]
  | blocksStay free barred => simp [told, Except.map, purges, cuts, free, db, barred]
  | transactionsStay free cut barred => simp [told, Except.map, purges, cuts, free, db, cut, barred]
  | inconsistent free cut purged barred =>
    simp [told, Except.map, purges, cuts, free, db, cut, purged, stuck, barred]
  | rolled free cut purged lowered =>
    simp [told, Except.map, purges, cuts, free, db, cut, purged, stuck, lowered]

/-- Blocks at two heights, a tip above both, and a rejection that speaks about the lower one. -/
private def guarded : Database :=
  { Layout.laidOut .blank with
    blocks := some (BlockTable.empty.put (.ofBlock ⟨3, "a", "", false, []⟩) |>.put
      (.ofBlock ⟨7, "b", "", false, []⟩))
    tip := some (some ⟨9, 1⟩)
    rejections := [⟨.tip, .update, "no", some 3⟩] }

example :
    let answer (height : Height) :=
      (Call.perform ⟨.rollBack height, false, 5⟩ (Layout.fresh.holding guarded)).1
    answer 5 = .error (.consistency 5 (.rejected "no")) ∧ answer 8 = .ok (.count 0) ∧
      answer 2 = .ok (.count 2) := by
  decide +kernel

end ChainStore.Cache
