import ChainStore.Proofs.Cache.History
import ChainStore.Proofs.Cache.Lookup

set_option autoImplicit false
set_option relaxedAutoImplicit false

/-!
The transactions of a cache as its history leaves them: those that were added and have been removed
neither by their height nor by a rollback below it, in the order in which they were added. A lookup
finds the last of them that its key names.
-/

namespace ChainStore

def TransactionKey.names : TransactionKey → Transaction → Bool
  | .hash value, transaction => transaction.hash == value
  | .position height index, transaction =>
    transaction.blockHeight == height && transaction.index == index
  | .inBlock blockHash index, transaction =>
    transaction.blockHash == blockHash && transaction.index == index

end ChainStore

namespace ChainStore.Cache

open Storage

def Entry.added? (entry : Entry) : Option Transaction :=
  match entry.call.operation, entry.answer with
  | .addTransaction added, .ok _ => some added
  | _, _ => none

def Entry.withdraws (entry : Entry) (height : Height) : Bool :=
  match entry.call.operation, entry.answer with
  | .removeTransactions removed, .ok _ => removed == height
  | .rollBack kept, .ok _ => decide (kept < height)
  | _, _ => false

/-- The transactions that were added in a history and have not been removed since. -/
def live (entries : List Entry) : List Transaction :=
  surviving Entry.added? (fun entry transaction => entry.withdraws transaction.blockHeight) entries

theorem live_concat (entries : List Entry) (entry : Entry) :
    live (entries ++ [entry]) =
      (live entries).filter (fun transaction => !entry.withdraws transaction.blockHeight) ++
        entry.added?.toList :=
  surviving_concat _ _ entries entry

private theorem filter_rows (chosen : TransactionRow → Bool) (kept : Transaction → Bool)
    (agree : ∀ transaction, chosen (.ofTransaction transaction) = kept transaction)
    (transactions : List Transaction) :
    (transactions.map TransactionRow.ofTransaction).filter chosen =
      (transactions.filter kept).map TransactionRow.ofTransaction := by
  have same : chosen ∘ TransactionRow.ofTransaction = kept := funext agree
  rw [List.filter_map, same]

private theorem transactions_effect {db : Database} {transactions : List Transaction}
    (held : db.transactions = some (transactions.map .ofTransaction)) (entry : Entry) :
    (entry.effect db).transactions =
      some ((transactions.filter (fun transaction => !entry.withdraws transaction.blockHeight) ++
        entry.added?.toList).map .ofTransaction) := by
  obtain ⟨⟨operation, fired, now⟩, answer⟩ := entry
  have untouched : db.transactions =
      some ((transactions.filter (fun _ => !false) ++ []).map .ofTransaction) := by
    have all : transactions.filter (fun _ => !false) = transactions :=
      List.filter_eq_self.mpr fun _ _ => rfl
    rw [held, List.append_nil, all]
  cases answer with
  | error e => cases operation <;> exact untouched
  | ok answer =>
    cases operation with
    | addTransaction added =>
      have put : (Option.map (· ++ [TransactionRow.ofTransaction added]) db.transactions) =
          some ((transactions.filter (fun _ => !false) ++ [added]).map .ofTransaction) := by
        rw [untouched, Option.map_some, List.append_nil, List.map_append]
        rfl
      exact put
    | removeTransactions height =>
      have agree (transaction : Transaction) :
          (!(TransactionRow.ofTransaction transaction).blockHeight.equalsInt height.toNat) =
            !(height == transaction.blockHeight) := by
        simp only [TransactionRow.ofTransaction, Cell.equalsInt_word, beq_eq_decide, eq_comm]
      have kept := filter_rows (fun row => !row.blockHeight.equalsInt height.toNat)
        (fun transaction => !(height == transaction.blockHeight)) agree transactions
      simp only [Entry.effect, Operation.effect, held, Option.map_some, kept, Entry.withdraws,
        Entry.added?, Option.toList_none, List.append_nil]
    | rollBack height =>
      have agree (transaction : Transaction) :
          (!(TransactionRow.ofTransaction transaction).blockHeight.above height.toNat) =
            !decide (height < transaction.blockHeight) := by
        simp only [TransactionRow.ofTransaction, Cell.above_word]
      have kept := filter_rows (fun row => !row.blockHeight.above height.toNat)
        (fun transaction => !decide (height < transaction.blockHeight)) agree transactions
      simp only [Entry.effect, Operation.effect, held, Option.map_some, kept, Entry.withdraws,
        Entry.added?, Option.toList_none, List.append_nil]
    | _ => exact untouched

theorem transactions_run {steps : List Step}
    (spared : ∀ step ∈ steps, step.spares .transactions = true) {db : Database}
    (empty : db.transactions = some []) :
    (run steps db).2.transactions =
      some ((live (run steps db).1).map TransactionRow.ofTransaction) := by
  refine run_keeps (P := fun entries db =>
    db.transactions = some ((live entries).map TransactionRow.ofTransaction)) ?_ ?_ spared empty
  · intro entries call c held
    rw [perform_effect, live_concat]
    exact transactions_effect held _
  · intro entries step db held spares quiet
    have present : db.has .transactions = true := by simp [Database.has, held]
    have same : (step.apply db).2.transactions = db.transactions :=
      agree_of_quiet .transactions (by simp) present spares quiet
    rw [same, held]

/-! ### Lookups and removals -/

private theorem names_ofTransaction (key : TransactionKey) (transaction : Transaction) :
    names key (.ofTransaction transaction) = key.names transaction := by
  cases key with
  | hash value =>
    simp only [names, TransactionRow.ofTransaction, Cell.isText_text, TransactionKey.names,
      beq_eq_decide]
  | position height index =>
    simp only [names, TransactionRow.ofTransaction, Cell.equalsInt_word, TransactionKey.names,
      beq_eq_decide]
  | inBlock blockHash index =>
    simp only [names, TransactionRow.ofTransaction, Cell.isText_text, Cell.equalsInt_word,
      TransactionKey.names, beq_eq_decide]

theorem newestTransaction_eq {db : Database} {transactions : List Transaction}
    (held : db.transactions = some (transactions.map .ofTransaction)) (key : TransactionKey) :
    db.newestTransaction (names key) = .ok (transactions.filter key.names).getLast? := by
  have chosen := filter_rows (names key) key.names (names_ofTransaction key) transactions
  simp only [Database.newestTransaction, held, chosen, List.getLast?_map]
  cases (transactions.filter key.names).getLast? with
  | none => rfl
  | some newest =>
    simp only [Option.map_some, readRow, TransactionRow.toTransaction_ofTransaction]
    rfl

private theorem answer_transaction {reader : Connection} {transactions : List Transaction}
    (held : reader.database.transactions = some (transactions.map .ofTransaction))
    (able : reader.readFault? = none) (key : TransactionKey) (now : Int) :
    (Call.perform ⟨.transaction key, false, now⟩ reader).1 =
      match (transactions.filter key.names).getLast? with
      | some transaction => .ok (.transaction transaction)
      | none => .error (.notFound (.transaction key)) := by
  have found := answer_of_read (.readingTransaction key) (.transaction key)
    (Database.newestTransaction (names key)) able (newestTransaction_eq held key)
  show ((Answer.transaction <$> Cache.transaction key).run reader).1 = _
  rw [answer_map, Cache.transaction, found]
  cases (transactions.filter key.names).getLast? <;> rfl

private theorem answer_removeTransactions {c : Connection} {transactions : List Transaction}
    (held : c.database.transactions = some (transactions.map .ofTransaction)) {call : Call}
    {height : Height} (removal : call.operation = .removeTransactions height) {answer : Answer}
    (succeeded : (call.perform c).1 = .ok answer) :
    answer = .count (transactions.countP fun transaction => transaction.blockHeight == height) := by
  have done := perform_ok (Prod.ext succeeded rfl)
  rw [removal] at done
  obtain ⟨n, removed, rfl⟩ := Task.map_ok done
  obtain ⟨rows, found, rfl, -⟩ := removeTransactionRows_ok (during_ok removed)
  obtain rfl := Option.some.inj (held.symm.trans found)
  rw [List.countP_map]
  congr 2
  funext transaction
  show (Cell.int transaction.blockHeight.toNat).equalsInt height.toNat = _
  rw [Cell.equalsInt_word, beq_eq_decide]

/-! ### Operations on blocks -/

def Operation.changesBlock : Operation → Bool
  | .acceptBlock _ | .putBlock _ | .removeBlock _ => true
  | _ => false

def Operation.asksTransactions : Operation → Bool
  | .transaction _ | .removeTransactions _ => true
  | _ => false

/-- Everything that such an answer depends on. -/
private structure Alike (db other : Database) : Prop where
  transactions : other.transactions = db.transactions
  rejections : other.rejections = db.rejections
  locked : other.locked = db.locked
  logged : other.logged = db.logged

private theorem alike_changesBlock {operation : Operation}
    (changes : operation.changesBlock = true) (now : Int) (db : Database) :
    Alike db (operation.effect now db) := by
  cases operation with
  | acceptBlock block | putBlock block | removeBlock height => exact ⟨rfl, rfl, rfl, rfl⟩
  | _ => simp [Operation.changesBlock] at changes

private theorem alike_perform {call : Call} (changes : call.operation.changesBlock = true)
    (c : Connection) : Alike c.database (call.perform c).2.database := by
  rw [perform_effect]
  unfold Entry.effect
  split
  · exact alike_changesBlock changes call.now c.database
  · exact ⟨rfl, rfl, rfl, rfl⟩

private theorem answer_removeTransactionRows (chosen : TransactionRow → Bool) (c : Connection) :
    ((removeTransactionRows chosen).run c).1 =
      if c.known.contains .transactions || c.database.has .transactions then
        match c.writeFault? with
        | some fault => .error fault
        | none =>
          match c.database.transactions with
          | none => .error (.noSuchTable .transactions)
          | some rows =>
            (sweep chosen (fun row => c.database.refusal .transactions .delete row.blockHeight)
              rows).1.mapError .rejected
      else .error (.noSuchTable .transactions) := by
  rw [removeTransactionRows, answer_change]
  cases c.database.transactions with
  | none => rfl
  | some rows =>
    simp only
    generalize sweep chosen
      (fun row => c.database.refusal .transactions .delete row.blockHeight) rows = swept
    obtain ⟨outcome, rest⟩ := swept
    cases outcome <;> rfl

private theorem answer_congr {db other : Database} (alike : Alike db other) {call : Call}
    (asks : call.operation.asksTransactions = true) (reader : Connection) :
    (call.perform (reader.holding other)).1 = (call.perform (reader.holding db)).1 := by
  obtain ⟨operation, fired, now⟩ := call
  have reads : (reader.holding other).readFault? = (reader.holding db).readFault? := by
    unfold Connection.readFault?
    rw [Connection.database_holding, Connection.database_holding, alike.logged]
    rfl
  have writes : (reader.holding other).writeFault? = (reader.holding db).writeFault? := by
    unfold Connection.writeFault?
    rw [Connection.database_holding, Connection.database_holding, alike.logged, alike.locked]
    rfl
  cases fired with
  | true => rfl
  | false =>
    cases operation with
    | transaction key =>
      have found : Database.newestTransaction (names key) other =
          Database.newestTransaction (names key) db := by
        simp only [Database.newestTransaction, alike.transactions]
      show ((Answer.transaction <$> Cache.transaction key).run _).1 =
        ((Answer.transaction <$> Cache.transaction key).run _).1
      simp only [answer_map, Cache.transaction, answer_lookup, answer_query, reads,
        Connection.database_holding, found]
    | removeTransactions height =>
      have refused : other.refusal = db.refusal := by
        funext table event height
        simp only [Database.refusal, alike.rejections]
      show ((Answer.count <$> Cache.removeTransactions height).run _).1 =
        ((Answer.count <$> Cache.removeTransactions height).run _).1
      simp only [answer_map, Cache.removeTransactions, answer_during,
        answer_removeTransactionRows, writes, Connection.database_holding, alike.transactions,
        Database.has, refused]
      rfl
    | _ => simp [Operation.asksTransactions] at asks

/-! ### Histories -/

/-- After any history of a cache whose transactions nobody else touches, a lookup that can read
finds the transaction of its key that was added last among those that have not been removed, and
every removal on the way has counted those at its height. Storing, replacing or removing a block
changes no answer about transactions. -/
theorem transactions_of_history (base : Database) {steps : List Step}
    (spared : ∀ step ∈ steps, step.spares .transactions = true) :
    let ran := run steps (Layout.laidOut base)
    (∀ (key : TransactionKey) (now : Int) (reader : Connection),
      reader.database = ran.2 → reader.readFault? = none →
        (Call.perform ⟨.transaction key, false, now⟩ reader).1 =
          match ((live ran.1).filter key.names).getLast? with
          | some newest => .ok (.transaction newest)
          | none => .error (.notFound (.transaction key))) ∧
    (∀ (before after : List Entry) (removal : Entry) (height : Height) (answer : Answer),
      ran.1 = before ++ removal :: after → removal.call.operation = .removeTransactions height →
        removal.answer = .ok answer →
          answer = .count ((live before).countP fun filed => filed.blockHeight == height)) ∧
    ∀ (writer reader : Connection) (write read : Call),
      writer.database = ran.2 → write.operation.changesBlock = true →
        read.operation.asksTransactions = true →
          (read.perform (reader.holding (write.perform writer).2.database)).1 =
            (read.perform (reader.holding ran.2)).1 := by
  intro ran
  have none_yet : (Layout.laidOut base).transactions = some [] := rfl
  refine ⟨?lookups, ?removals, ?blocks⟩
  case lookups =>
    intro key now reader there able
    have held := transactions_run spared none_yet
    exact answer_transaction (there ▸ held) able key now
  case removals =>
    intro before after removal height answer split removes succeeded
    obtain ⟨earlier, through, later, rfl, rfl, answered⟩ := moment_of_entry split
    have before_spared : ∀ step ∈ earlier, step.spares .transactions = true :=
      fun step member => spared step (List.mem_append_left _ member)
    have held := transactions_run before_spared none_yet
    exact answer_removeTransactions (c := through.holding _) held removes
      (answered.symm.trans succeeded)
  case blocks =>
    intro writer reader write read there changes asks
    rw [← there]
    exact answer_congr (alike_perform changes writer) asks reader

/-- Two transactions that are filed at one place and a third one further up. A rollback takes the
third, a refused removal nothing, and the first is filed once more after a removal of both. -/
private def filings : List Step :=
  let file (height : Height) (payload : Payload) : Step :=
    .call Layout.fresh ⟨.addTransaction ⟨height, "ab", 0, "cd", payload⟩, false, 1⟩
  let remove (now : Int) : Step := .call Layout.fresh ⟨.removeTransactions 5, false, now⟩
  [file 5 [1], file 5 [2], file 7 [3], .call Layout.fresh ⟨.rollBack 6, false, 2⟩,
    .interfere (.reject ⟨.transactions, .delete, "no", none⟩), remove 3,
    .interfere (.allow .transactions .delete), remove 4, file 5 [1]]

theorem refiled_transaction_of_history :
    (∀ step ∈ filings, step.spares .transactions = true) ∧
      (run filings (Layout.laidOut .blank)).1.map Entry.answer =
        [.ok .done, .ok .done, .ok .done, .ok (.count 0),
          .error (.storage (.deletingTransactions 5) (.rejected "no")), .ok (.count 2),
          .ok .done] ∧
      (Call.perform ⟨.transaction (.hash "cd"), false, 9⟩
          (Layout.fresh.holding (run filings (Layout.laidOut .blank)).2)).1 =
        .ok (.transaction ⟨5, "ab", 0, "cd", [1]⟩) := by
  have spared : ∀ step ∈ filings, step.spares .transactions = true := by decide
  refine ⟨spared, by decide +kernel, ?_⟩
  refine ((transactions_of_history .blank spared).1 (.hash "cd") 9
    (Layout.fresh.holding (run filings (Layout.laidOut .blank)).2) rfl (by decide +kernel)).trans ?_
  decide +kernel

end ChainStore.Cache
