import ChainStore.Proofs.Cache.Layout

set_option autoImplicit false
set_option relaxedAutoImplicit false

/-!
The tip and the blocks. Accepting a block and rolling back keep the tip at the greatest height of a
stored block, or away when no block is stored: the one raises a tip to the height it stores at, the
other lowers a tip that it has cut off. Whatever fails is undone.
-/

namespace ChainStore.Storage

/-- The tip is missing exactly when there is no block, and else names the greatest height of one. -/
structure OnTop (tip : Option TipRow) (table : BlockTable) : Prop where
  none_iff : tip = none ↔ table.rows = []
  greatest : ∀ row, tip = some row → IsGreatest table.heights row.height

/-- The tip of a database keeps step with its blocks. A table that does not exist has no rows. -/
def Database.TipOnTop (db : Database) : Prop :=
  OnTop db.tip.join (db.blocks.getD BlockTable.empty)

theorem onTop_empty : OnTop none BlockTable.empty :=
  ⟨by simp [BlockTable.empty], by simp⟩

end ChainStore.Storage

namespace ChainStore.Cache

open Storage

theorem onTop_raised {tip : Option TipRow} {table : BlockTable} (onTop : OnTop tip table)
    (block : Block) (now : Int) :
    OnTop (some (Cache.raised block.height now tip)) (table.put (.ofBlock block)) := by
  have stored : BlockRow.ofBlock block ∈ (table.put (.ofBlock block)).rows :=
    BlockTable.mem_put.mpr (.inl rfl)
  refine ⟨by simp [List.ne_nil_of_mem stored], ?_⟩
  rintro row same
  obtain rfl := Option.some.inj same
  rw [BlockTable.heights_put]
  cases tip with
  | none =>
    rw [BlockTable.heights_eq_empty.mpr (onTop.none_iff.mp rfl)]
    simp [Cache.raised, BlockRow.ofBlock]
  | some tip =>
    have greatest := (onTop.greatest tip rfl).insert (block.height.toNat : Int)
    unfold Cache.raised
    simp only
    split
    · rename_i reached
      rwa [max_eq_right reached] at greatest
    · rename_i beyond
      rwa [max_eq_left (by omega)] at greatest

theorem onTop_lowered {tip : Option TipRow} {table : BlockTable} (onTop : OnTop tip table)
    (height : Height) (now : Int) :
    let kept := table.keep (fun row => !decide ((height.toNat : Int) < row.height))
    OnTop (Cache.lowered height now kept tip) kept := by
  intro kept
  cases tip with
  | none =>
    have empty : kept.rows = [] := by simp [kept, onTop.none_iff.mp rfl]
    exact ⟨by simp [Cache.lowered, empty], by simp [Cache.lowered]⟩
  | some tip =>
    obtain ⟨⟨top, member, level⟩, bound⟩ := onTop.greatest tip rfl
    unfold Cache.lowered
    simp only
    split
    · rename_i cut
      refine ⟨by simp [BlockTable.highest?_eq_none], ?_⟩
      intro row same
      obtain ⟨highest, found, rfl⟩ := Option.map_eq_some_iff.mp same
      exact BlockTable.highest?_eq_some found
    · rename_i spared
      -- Nothing lies above the tip, so nothing has been taken out.
      have all : kept = table := by
        have rows : kept.rows = table.rows := by
          refine List.filter_eq_self.mpr fun row stored => ?_
          have := bound ⟨row, stored, rfl⟩
          simp only [Bool.not_eq_eq_eq_not, Bool.not_true, decide_eq_false_iff_not]
          omega
        cases table
        simp only [BlockTable.keep, BlockTable.mk.injEq, kept] at rows ⊢
        exact rows
      rw [all]
      exact onTop

def Operation.keepsStep : Operation → Bool
  | .setTip _ | .putBlock _ | .removeBlock _ => false
  | _ => true

theorem tipOnTop_perform (call : Call) (keeps : call.operation.keepsStep = true) {c : Connection}
    (onTop : c.database.TipOnTop) : (call.perform c).2.database.TipOnTop := by
  cases outcome : call.perform c with
  | mk answer after =>
    cases answer with
    | error e =>
      rw [perform_error outcome]
      exact onTop
    | ok answer =>
      cases reads : call.operation.reads with
      | true =>
        have same := perform_reads call c reads
        rw [outcome] at same
        rw [same]
        exact onTop
      | false =>
        obtain ⟨operation, fired, now⟩ := call
        have done := perform_ok outcome
        cases operation with
        | acceptBlock block =>
          obtain ⟨_, accepted, -⟩ := Task.map_ok done
          obtain ⟨table, tip, stored, present, final⟩ := acceptBlock_ok accepted
          simp only [Database.TipOnTop, stored, present, Option.join_some, Option.getD_some]
            at onTop
          rw [final]
          exact onTop_raised onTop block now
        | rollBack height =>
          obtain ⟨_, rolled, -⟩ := Task.map_ok done
          obtain ⟨table, tip, _, stored, present, -, -, final⟩ := rollBack_ok rolled
          simp only [Database.TipOnTop, stored, present, Option.join_some, Option.getD_some]
            at onTop
          rw [final]
          exact onTop_lowered onTop height now
        | addTransaction transaction =>
          obtain ⟨_, added, -⟩ := Task.map_ok done
          obtain ⟨_, -, final⟩ := addTransactionRow_ok (during_ok added)
          rw [final]
          exact onTop
        | removeTransactions height =>
          obtain ⟨_, removed, -⟩ := Task.map_ok done
          obtain ⟨_, -, -, final⟩ := removeTransactionRows_ok (during_ok removed)
          rw [final]
          exact onTop
        | setTip _ | putBlock _ | removeBlock _ => simp [Operation.keepsStep] at keeps
        | tipHeight | tip | payloadAt _ | blockAt _ | hashAt _ | payloadWithHash _
        | blockWithHash _ | transaction _ => simp [Operation.reads] at reads

theorem tipOnTop_prepare {c : Connection} (onTop : c.database.TipOnTop) :
    (Layout.prepare.run c).2.database.TipOnTop := by
  rcases Layout.prepare_database c with same | ⟨-, added⟩ | ⟨-, -, -, laid⟩
  · rw [same]
    exact onTop
  · rw [added]
    exact onTop
  · rw [laid]
    exact onTop_empty

end ChainStore.Cache

namespace ChainStore.Storage

/-- The interferences that neither touch a row of the tip or of the blocks nor take away their
tables: those with the metadata and the transactions, and everything that makes operations fail. -/
def Interference.sparesChain : Interference → Bool
  | .setTip _ | .putBlock _ | .dropTable .tip | .dropTable .blocks => false
  | _ => true

theorem tipOnTop_apply {interference : Interference} (spares : interference.sparesChain = true)
    {db : Database} (onTop : db.TipOnTop) : (interference.apply db).TipOnTop := by
  cases interference with
  | dropTable table =>
    cases table with
    | metadata | transactions => exact onTop
    | tip | blocks => simp [Interference.sparesChain] at spares
  | setTip _ | putBlock _ => simp [Interference.sparesChain] at spares
  | _ => exact onTop

end ChainStore.Storage
