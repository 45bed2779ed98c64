import ChainStore.Cache.Operation
import ChainStore.Proofs.Storage.Rows

set_option autoImplicit false
set_option relaxedAutoImplicit false

/-!
What the operations of a cache do to its database: nothing at all when they fail or only look
something up, and exactly one thing each when they succeed. Accepting a block and rolling back touch
several tables, so their lemmas say what becomes of all of them.
-/

namespace ChainStore.Cache

open Storage

/-! ### Failures and lookups -/

theorem clean_during {α : Type} {activity : Activity} {statement : Statement α}
    (clean : statement.Clean) : (during activity statement).Clean :=
  clean.mapFailure _

theorem still_during {α : Type} {activity : Activity} {statement : Statement α}
    (still : statement.Still) : (during activity statement).Still :=
  still.mapFailure _

theorem during_ok {α : Type} {activity : Activity} {statement : Statement α}
    {c after : Connection} {a : α}
    (succeeded : (during activity statement).run c = (.ok a, after)) :
    statement.run c = (.ok a, after) :=
  Task.mapFailure_ok succeeded

theorem following_ok {α : Type} {height : Height} {statement : Statement α}
    {c after : Connection} {a : α}
    (succeeded : (following height statement).run c = (.ok a, after)) :
    statement.run c = (.ok a, after) :=
  Task.mapFailure_ok succeeded

theorem still_found {α : Type} (subject : Subject) (a : Option α) : (found subject a).Still := by
  cases a with
  | none => exact Task.still_fail _
  | some a => exact Task.still_pure a

private theorem still_lookup {α : Type} (activity : Activity) (subject : Subject)
    (read : Database → Except Fault (Option α)) :
    (during activity (query read) >>= found subject).Still :=
  (still_during (still_query read)).bind (still_found subject)

def Operation.reads : Operation → Bool
  | .tipHeight | .tip | .payloadAt _ | .blockAt _ | .hashAt _ | .payloadWithHash _
  | .blockWithHash _ | .transaction _ => true
  | .setTip _ | .acceptBlock _ | .putBlock _ | .removeBlock _ | .rollBack _ | .addTransaction _
  | .removeTransactions _ => false

theorem still_of_reads {operation : Operation} (now : Int) (reads : operation.reads = true) :
    (operation.action now).Still := by
  cases operation with
  | tipHeight => exact (still_lookup _ _ _).map _
  | tip => exact (still_lookup _ _ _).map _
  | payloadAt height => exact (still_lookup _ _ _).map _
  | blockAt height => exact (still_lookup _ _ _).map _
  | hashAt height => exact (still_lookup _ _ _).map _
  | payloadWithHash hash => exact ((still_lookup _ _ _).bind fun _ => Task.still_pure _).map _
  | blockWithHash hash => exact (still_lookup _ _ _).map _
  | transaction key => exact (still_lookup _ _ _).map _
  | setTip _ | acceptBlock _ | putBlock _ | removeBlock _ | rollBack _ | addTransaction _
  | removeTransactions _ => simp [Operation.reads] at reads

/-- Whatever an operation does, it leaves the database alone when it fails. The changes of several
tables are undone together; the others consist of one statement. -/
theorem clean_action (operation : Operation) (now : Int) : (operation.action now).Clean := by
  cases reads : operation.reads with
  | true => exact (still_of_reads now reads).clean
  | false =>
    cases operation with
    | setTip height => exact (clean_during (clean_change _ _ _)).map _
    | acceptBlock block => exact (Task.clean_atomically _).map _
    | putBlock block => exact (clean_during (clean_change _ _ _)).map _
    | removeBlock height =>
      exact ((clean_during (clean_change _ _ _)).map fun n => decide (0 < n)).map _
    | rollBack height => exact (Task.clean_atomically _).map _
    | addTransaction transaction => exact (clean_during (clean_change _ _ _)).map _
    | removeTransactions height => exact (clean_during (clean_change _ _ _)).map _
    | tipHeight | tip | payloadAt _ | blockAt _ | hashAt _ | payloadWithHash _ | blockWithHash _
    | transaction _ => simp [Operation.reads] at reads

theorem perform_error {call : Call} {c after : Connection} {e : Error}
    (failed : call.perform c = (.error e, after)) : after.database = c.database := by
  unfold Call.perform at failed
  split at failed
  · rw [(Prod.mk.inj failed).2]
  · exact clean_action _ _ c e after failed

theorem perform_ok {call : Call} {c after : Connection} {answer : Answer}
    (succeeded : call.perform c = (.ok answer, after)) :
    (call.operation.action call.now).run c = (.ok answer, after) := by
  unfold Call.perform at succeeded
  split at succeeded
  · simp at succeeded
  · exact succeeded

theorem perform_reads (call : Call) (c : Connection) (reads : call.operation.reads = true) :
    (call.perform c).2.database = c.database := by
  unfold Call.perform
  split
  · rfl
  · exact still_of_reads call.now reads c

/-! ### Accepting a block -/

def raised (height : Height) (now : Int) : Option TipRow → TipRow
  | some row => if (height.toNat : Int) ≤ row.height then row else ⟨height.toNat, now⟩
  | none => ⟨height.toNat, now⟩

private theorem with_tip {db : Database} {row : Option TipRow} (present : db.tip = some row) :
    { db with tip := some row } = db := by
  rw [← present]

theorem raiseTip_ok {height : Height} {now : Int} {c after : Connection} {u : Unit}
    (succeeded : (raiseTip height now).run c = (.ok u, after)) :
    ∃ row, c.database.tip = some row ∧
      after.database = { c.database with tip := some (some (raised height now row)) } := by
  obtain ⟨found, middle, looked, moved⟩ := Task.bind_ok succeeded
  obtain ⟨read, same⟩ := query_ok looked
  rcases tipHeight_ok read with ⟨present, rfl⟩ | ⟨tip, current, present, rfl, height_eq⟩
  · refine ⟨none, present, ?_⟩
    rw [(writeTip_ok moved).2, same]
    rfl
  · refine ⟨some tip, present, ?_⟩
    simp only at moved
    split at moved
    · rename_i reached
      have above : (height.toNat : Int) ≤ tip.height := by
        rw [height_eq]
        exact_mod_cast UInt32.le_iff_toNat_le.mp reached
      obtain rfl : middle = after := (Prod.mk.inj moved).2
      rw [same, raised, if_pos above, with_tip present]
    · rename_i beyond
      have below : ¬ (height.toNat : Int) ≤ tip.height := by
        rw [height_eq]
        exact_mod_cast fun reached => beyond (UInt32.le_iff_toNat_le.mpr reached)
      rw [(writeTip_ok moved).2, same, raised, if_neg below]

theorem acceptBlock_ok {block : Block} {now : Int} {c after : Connection} {u : Unit}
    (succeeded : (acceptBlock block now).run c = (.ok u, after)) :
    ∃ table row, c.database.blocks = some table ∧ c.database.tip = some row ∧
      after.database =
        { c.database with
          blocks := some (table.put (.ofBlock block))
          tip := some (some (raised block.height now row)) } := by
  obtain ⟨_, begun, started, rest⟩ := Task.bind_ok (Task.atomically_ok succeeded)
  obtain ⟨_, stored, written, followed⟩ := Task.bind_ok rest
  have unchanged : begun.database = c.database := by
    rw [← still_beginWrite c, during_ok started]
  obtain ⟨table, found, put⟩ := putBlockRow_ok (during_ok written)
  obtain ⟨row, present, moved⟩ := raiseTip_ok (following_ok followed)
  rw [unchanged] at found put
  rw [put] at present moved
  exact ⟨table, row, found, present, moved⟩

/-! ### Rolling back -/

def lowered (height : Height) (now : Int) (table : BlockTable) : Option TipRow → Option TipRow
  | some row =>
    if (height.toNat : Int) < row.height then table.highest?.map (fun top => ⟨top, now⟩)
    else some row
  | none => none

theorem lowerTip_ok {height : Height} {now : Int} {c after : Connection} {u : Unit}
    {table : BlockTable} (stored : c.database.blocks = some table)
    (succeeded : (lowerTip height now).run c = (.ok u, after)) :
    ∃ row, c.database.tip = some row ∧
      after.database = { c.database with tip := some (lowered height now table row) } := by
  obtain ⟨found, middle, looked, moved⟩ := Task.bind_ok succeeded
  obtain ⟨read, same⟩ := query_ok looked
  rcases tipHeight_ok read with ⟨present, rfl⟩ | ⟨tip, current, present, rfl, height_eq⟩
  · refine ⟨none, present, ?_⟩
    obtain rfl : middle = after := (Prod.mk.inj moved).2
    rw [same, lowered, with_tip present]
  · refine ⟨some tip, present, ?_⟩
    simp only at moved
    split at moved
    · rename_i reached
      have above : (height.toNat : Int) < tip.height := by
        rw [height_eq]
        exact_mod_cast UInt32.lt_iff_toNat_lt.mp reached
      obtain ⟨top, last, looked', lowering⟩ := Task.bind_ok moved
      obtain ⟨highest, same'⟩ := query_ok looked'
      obtain ⟨table', stored', highest?⟩ := highestBlock_ok highest
      rw [same, stored] at stored'
      obtain rfl : table = table' := Option.some.inj stored'
      rw [lowered, if_pos above, highest?]
      cases top with
      | none => rw [(clearTip_ok lowering).2, same', same]; rfl
      | some top => rw [(writeTip_ok lowering).2, same', same]; rfl
    · rename_i beyond
      have below : ¬ (height.toNat : Int) < tip.height := by
        rw [height_eq]
        exact_mod_cast fun reached => beyond (UInt32.lt_iff_toNat_lt.mpr reached)
      obtain rfl : middle = after := (Prod.mk.inj moved).2
      rw [same, lowered, if_neg below, with_tip present]

theorem rollBack_ok {height : Height} {now : Int} {c after : Connection} {n : Nat}
    (succeeded : (rollBack height now).run c = (.ok n, after)) :
    ∃ table row transactions,
      c.database.blocks = some table ∧ c.database.tip = some row ∧
      c.database.transactions = some transactions ∧
      n = table.rows.countP (fun row => decide ((height.toNat : Int) < row.height)) ∧
      after.database =
        { c.database with
          blocks := some (table.keep (fun row => !decide ((height.toNat : Int) < row.height)))
          transactions :=
            some (transactions.filter (fun row => !row.blockHeight.above height.toNat))
          tip :=
            some (lowered height now
              (table.keep (fun row => !decide ((height.toNat : Int) < row.height))) row) } := by
  obtain ⟨_, begun, started, rest⟩ := Task.bind_ok (Task.atomically_ok succeeded)
  obtain ⟨removed, cut, deleted, rest⟩ := Task.bind_ok rest
  obtain ⟨_, cleared, swept, rest⟩ := Task.bind_ok rest
  obtain ⟨_, final, followed, answered⟩ := Task.bind_ok rest
  have unchanged : begun.database = c.database := by
    rw [← still_beginWrite c, during_ok started]
  obtain ⟨table, found, count, kept⟩ := removeBlockRows_ok (during_ok deleted)
  obtain ⟨transactions, filed, -, keptTransactions⟩ := removeTransactionRows_ok (during_ok swept)
  obtain ⟨row, present, moved⟩ :=
    lowerTip_ok (by rw [keptTransactions, kept]) (following_ok followed)
  rw [unchanged] at found kept
  rw [kept] at filed keptTransactions
  rw [keptTransactions] at present moved
  obtain ⟨rfl, rfl⟩ : removed = n ∧ final = after := by
    simpa only [Task.run_pure, Prod.mk.injEq, Except.ok.injEq] using answered
  exact ⟨table, row, transactions, found, present, filed, count, moved⟩

end ChainStore.Cache
