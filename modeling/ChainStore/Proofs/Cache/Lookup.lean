import ChainStore.Proofs.Cache.Effect
import ChainStore.Proofs.Storage.Answer

set_option autoImplicit false
set_option relaxedAutoImplicit false

/-!
What lookups answer: what the database holds, that there is nothing, or why they could not look.
-/

namespace ChainStore.Cache

open Storage

variable {α β : Type}

theorem answer_map {ε : Type} (f : α → β) (task : Task ε α) (c : Connection) :
    ((f <$> task).run c).1 = (task.run c).1.map f := by
  rw [Task.run_map]
  split
  · rename_i a after ran
    rw [ran]
    rfl
  · rename_i e after ran
    rw [ran]
    rfl

theorem after_map {ε : Type} (f : α → β) (task : Task ε α) (c : Connection) :
    ((f <$> task).run c).2 = (task.run c).2 := by
  rw [Task.run_map]
  split
  · rename_i a after ran
    rw [ran]
  · rename_i e after ran
    rw [ran]

theorem answer_map_congr {ε : Type} (f : α → β) {task : Task ε α} {c other : Connection}
    (same : (task.run other).1 = (task.run c).1) :
    ((f <$> task).run other).1 = ((f <$> task).run c).1 := by
  rw [answer_map, answer_map, same]

theorem answer_during (activity : Activity) (statement : Statement α) (c : Connection) :
    ((during activity statement).run c).1 =
      (statement.run c).1.mapError (Error.storage activity) :=
  Task.answer_mapFailure _ statement c

theorem answer_during_error {activity : Activity} {statement : Statement α} {c : Connection}
    {fault : Fault} (failed : (statement.run c).1 = .error fault) :
    ((during activity statement).run c).1 = .error (.storage activity fault) := by
  rw [answer_during, failed]
  rfl

theorem answer_following_error {height : Height} {statement : Statement α} {c : Connection}
    {fault : Fault} (failed : (statement.run c).1 = .error fault) :
    ((following height statement).run c).1 = .error (.consistency height fault) := by
  rw [following, Task.answer_mapFailure, failed]
  rfl

theorem run_during_ok {activity : Activity} {statement : Statement α}
    {c after : Connection} {a : α} (succeeded : statement.run c = (.ok a, after)) :
    (during activity statement).run c = (.ok a, after) := by
  simp only [during, Task.mapFailure, succeeded]

theorem run_following_ok {height : Height} {statement : Statement α}
    {c after : Connection} {a : α} (succeeded : statement.run c = (.ok a, after)) :
    (following height statement).run c = (.ok a, after) := by
  simp only [following, Task.mapFailure, succeeded]

theorem answer_lookup (activity : Activity) (subject : Subject)
    (read : Database → Except Fault (Option α)) (c : Connection) :
    ((during activity (query read) >>= found subject).run c).1 =
      match ((query read).run c).1 with
      | .ok (some a) => .ok a
      | .ok none => .error (.notFound subject)
      | .error fault => .error (.storage activity fault) := by
  cases ran : (query read).run c with
  | mk result after =>
    cases result with
    | error fault =>
      exact Task.answer_bind_error (answer_during_error (congrArg Prod.fst ran))
    | ok seen =>
      rw [Task.run_bind_ok (run_during_ok ran)]
      cases seen <;> rfl

theorem answer_lookup_congr (activity : Activity) (subject : Subject)
    {read : Database → Except Fault (Option α)} {c other : Connection}
    (able : other.readFault? = c.readFault?) (same : read other.database = read c.database) :
    ((during activity (query read) >>= found subject).run other).1 =
      ((during activity (query read) >>= found subject).run c).1 := by
  rw [answer_lookup, answer_lookup, answer_query, answer_query, able, same]

theorem perform_congr_of_lookups {c other : Connection} (able : other.readFault? = c.readFault?)
    {call : Call} (height : other.database.tipHeight = c.database.tipHeight)
    (whole : call.operation = .tip → other.database.wholeTip = c.database.wholeTip)
    (blocks : other.database.blocks = c.database.blocks)
    (transactions : other.database.transactions = c.database.transactions)
    (reads : call.operation.reads = true) : (call.perform other).1 = (call.perform c).1 := by
  have table : other.database.blockTable = c.database.blockTable := by
    rw [Database.blockTable, Database.blockTable, blocks]
  have hashed (hash : String) :
      other.database.blockWithHash hash = c.database.blockWithHash hash := by
    rw [Database.blockWithHash, table, Database.blockWithHash]
  obtain ⟨operation, fired, now⟩ := call
  cases fired with
  | true => rfl
  | false =>
    show ((operation.action now).run other).1 = ((operation.action now).run c).1
    cases operation with
    | tipHeight => exact answer_map_congr _ (answer_lookup_congr _ _ able height)
    | tip => exact answer_map_congr _ (answer_lookup_congr _ _ able (whole rfl))
    | payloadAt height =>
      have same : other.database.payloadAt height = c.database.payloadAt height := by
        rw [Database.payloadAt, table, Database.payloadAt]
      exact answer_map_congr _ (answer_lookup_congr _ _ able same)
    | blockAt height =>
      have same : other.database.blockAt height = c.database.blockAt height := by
        rw [Database.blockAt, table, Database.blockAt]
      exact answer_map_congr _ (answer_lookup_congr _ _ able same)
    | hashAt height =>
      have same : other.database.hashAt height = c.database.hashAt height := by
        rw [Database.hashAt, table, Database.hashAt]
      exact answer_map_congr _ (answer_lookup_congr _ _ able same)
    | blockWithHash hash => exact answer_map_congr _ (answer_lookup_congr _ _ able (hashed hash))
    | payloadWithHash hash =>
      exact answer_map_congr _
        (answer_map_congr Block.payload (answer_lookup_congr _ _ able (hashed hash)))
    | transaction key =>
      exact answer_map_congr _ (answer_lookup_congr _ _ able
        (by simp only [Database.newestTransaction, transactions]))
    | setTip _ | acceptBlock _ | putBlock _ | removeBlock _ | rollBack _ | addTransaction _
    | removeTransactions _ => cases reads

/-- What an operation that only looks something up answers depends on the tables of the cache
alone, as far as the connection can read. -/
theorem perform_congr_of_reads {c other : Connection} (able : other.readFault? = c.readFault?)
    (tip : other.database.tip = c.database.tip) (blocks : other.database.blocks = c.database.blocks)
    (transactions : other.database.transactions = c.database.transactions) {call : Call}
    (reads : call.operation.reads = true) : (call.perform other).1 = (call.perform c).1 := by
  have row : other.database.tipRow = c.database.tipRow := by
    rw [Database.tipRow, Database.tipRow, tip]
  exact perform_congr_of_lookups able (by simp only [Database.tipHeight, row])
    (fun _ => by simp only [Database.wholeTip, row]) blocks transactions reads

theorem rangeRead_congr {c other : Connection} {height : Height}
    (able : other.readFault? = c.readFault?)
    (same : other.database.rowAt height = c.database.rowAt height) :
    rangeRead other height = rangeRead c height := by
  rw [rangeRead, payloadForRange, answer_during, answer_query, able, payloadAt_congr same,
    rangeRead, payloadForRange, answer_during, answer_query]

theorem answer_of_read (activity : Activity) (subject : Subject)
    (read : Database → Except Fault (Option α)) {c : Connection} {seen : Option α}
    (able : c.readFault? = none) : read c.database = .ok seen →
      ((during activity (query read) >>= found subject).run c).1 =
        match seen with
        | some a => .ok a
        | none => .error (.notFound subject) := by
  intro result
  rw [answer_lookup, answer_query, able]
  simp only [result]
  cases seen <;> rfl

end ChainStore.Cache
