import ChainStore.Cache.History
import ChainStore.Proofs.Cache.Layout

set_option autoImplicit false
set_option relaxedAutoImplicit false

/-!
Histories of a cache: what each entry has made of the database, at which moment it was made, and
what has been made in a history and not been undone since. Steps that are no calls leave a table
alone as long as nobody interferes with it.
-/

namespace ChainStore.Storage

def Interference.spares (table : Table) : Interference → Bool
  | .setTip _ => table != .tip
  | .setVersion _ => table != .metadata
  | .putBlock _ => table != .blocks
  | .addTransaction _ => table != .transactions
  | .dropTable dropped => table != dropped
  | .reject _ | .allow _ _ | .lock | .unlock => true

def Database.Agree (table : Table) (db other : Database) : Prop :=
  match table with
  | .metadata => other.metadata = db.metadata
  | .tip => other.tip = db.tip
  | .blocks => other.blocks = db.blocks
  | .transactions => other.transactions = db.transactions

theorem Database.Agree.of_eq {table : Table} {db other : Database} (same : other = db) :
    db.Agree table other := by
  cases table <;> exact congrArg _ same

theorem agree_apply {table : Table} {act : Interference} (spares : act.spares table = true)
    (db : Database) : db.Agree table (act.apply db) := by
  cases act with
  | dropTable dropped =>
    cases dropped <;> cases table <;> first | rfl | simp [Interference.spares] at spares
  | setTip row | setVersion version | putBlock row | addTransaction row =>
    cases table <;> first | rfl | simp [Interference.spares] at spares
  | reject rejection | allow other event | lock | unlock => cases table <;> rfl

end ChainStore.Storage

namespace ChainStore.Cache

open Storage

/-! ### Entries -/

def Operation.effect (now : Int) (db : Database) : Operation → Database
  | .setTip height => { db with tip := db.tip.map fun _ => some ⟨height.toNat, now⟩ }
  | .acceptBlock block =>
    { db with
      blocks := db.blocks.map (BlockTable.put (.ofBlock block))
      tip := db.tip.map fun row => some (raised block.height now row) }
  | .putBlock block => { db with blocks := db.blocks.map (BlockTable.put (.ofBlock block)) }
  | .removeBlock height =>
    { db with blocks := db.blocks.map (BlockTable.keep fun row => !(row.height == height.toNat)) }
  | .rollBack height =>
    let blocks :=
      db.blocks.map (BlockTable.keep fun row => !decide ((height.toNat : Int) < row.height))
    { db with
      blocks := blocks
      transactions :=
        db.transactions.map (List.filter fun row => !row.blockHeight.above height.toNat)
      tip := db.tip.map (lowered height now (blocks.getD BlockTable.empty)) }
  | .addTransaction filed =>
    { db with transactions := db.transactions.map (· ++ [.ofTransaction filed]) }
  | .removeTransactions height =>
    { db with
      transactions :=
        db.transactions.map (List.filter fun row => !row.blockHeight.equalsInt height.toNat) }
  | .tipHeight | .tip | .payloadAt _ | .blockAt _ | .hashAt _ | .payloadWithHash _
  | .blockWithHash _ | .transaction _ => db

/-- What an entry has made of a database: nothing, unless its call succeeded. -/
def Entry.effect (entry : Entry) (db : Database) : Database :=
  match entry.answer with
  | .ok _ => entry.call.operation.effect entry.call.now db
  | .error _ => db

private theorem effect_of_reads {operation : Operation} (reads : operation.reads = true)
    (now : Int) (db : Database) : operation.effect now db = db := by
  cases operation with
  | setTip _ | acceptBlock _ | putBlock _ | removeBlock _ | rollBack _ | addTransaction _
  | removeTransactions _ => simp [Operation.reads] at reads
  | tipHeight | tip | payloadAt _ | blockAt _ | hashAt _ | payloadWithHash _ | blockWithHash _
  | transaction _ => rfl

theorem perform_effect (call : Call) (c : Connection) :
    (call.perform c).2.database = Entry.effect ⟨call, (call.perform c).1⟩ c.database := by
  cases outcome : call.perform c with
  | mk answer after =>
    cases answer with
    | error e => exact perform_error outcome
    | ok answer =>
      show after.database = call.operation.effect call.now c.database
      cases reads : call.operation.reads with
      | true =>
        have same := perform_reads call c reads
        rw [outcome] at same
        rw [effect_of_reads reads]
        exact same
      | false =>
        obtain ⟨operation, fired, now⟩ := call
        have done := perform_ok outcome
        cases operation with
        | setTip height =>
          obtain ⟨_, written, -⟩ := Task.map_ok done
          obtain ⟨present, final⟩ := writeTip_ok (during_ok written)
          obtain ⟨row, found⟩ := Option.isSome_iff_exists.mp present
          rw [final, Operation.effect, found]
          rfl
        | acceptBlock block =>
          obtain ⟨_, accepted, -⟩ := Task.map_ok done
          obtain ⟨table, row, stored, present, final⟩ := acceptBlock_ok accepted
          rw [final, Operation.effect, stored, present]
          rfl
        | putBlock block =>
          obtain ⟨_, put, -⟩ := Task.map_ok done
          obtain ⟨table, stored, final⟩ := putBlockRow_ok (during_ok put)
          rw [final, Operation.effect, stored]
          rfl
        | removeBlock height =>
          obtain ⟨_, removed, -⟩ := Task.map_ok done
          obtain ⟨_, deleted, -⟩ := Task.map_ok removed
          obtain ⟨table, stored, -, final⟩ := removeBlockRows_ok (during_ok deleted)
          rw [final, Operation.effect, stored]
          rfl
        | rollBack height =>
          obtain ⟨_, rolled, -⟩ := Task.map_ok done
          obtain ⟨table, row, transactions, stored, present, filed, -, final⟩ := rollBack_ok rolled
          rw [final, Operation.effect, stored, present, filed]
          rfl
        | addTransaction transaction =>
          obtain ⟨_, added, -⟩ := Task.map_ok done
          obtain ⟨rows, filed, final⟩ := addTransactionRow_ok (during_ok added)
          rw [final, Operation.effect, filed]
          rfl
        | removeTransactions height =>
          obtain ⟨_, removed, -⟩ := Task.map_ok done
          obtain ⟨rows, filed, -, final⟩ := removeTransactionRows_ok (during_ok removed)
          rw [final, Operation.effect, filed]
          rfl
        | tipHeight | tip | payloadAt _ | blockAt _ | hashAt _ | payloadWithHash _
        | blockWithHash _ | transaction _ => simp [Operation.reads] at reads

/-! ### Steps -/

/-- Whether a step leaves a table alone, unless it is a call. -/
def Step.spares (table : Table) : Step → Bool
  | .interfere act => act.spares table
  | .call _ _ | .read _ _ | .reopen _ | .log _ => true

private theorem agree_prepare {table : Table} (kept : table ≠ .metadata) {c : Connection}
    (present : c.database.has table = true) :
    c.database.Agree table (Layout.prepare.run c).2.database := by
  rcases Layout.prepare_database c with same | ⟨-, added⟩ | ⟨noTip, noBlocks, noTransactions, -⟩
  · exact .of_eq same
  · rw [added]
    cases table with
    | metadata => exact absurd rfl kept
    | tip | blocks | transactions => rfl
  · cases table with
    | metadata => exact absurd rfl kept
    | tip => simp [Database.has, noTip] at present
    | blocks => simp [Database.has, noBlocks] at present
    | transactions => simp [Database.has, noTransactions] at present

theorem agree_of_quiet (table : Table) (kept : table ≠ .metadata) {step : Step} {db : Database}
    (present : db.has table = true) (spares : step.spares table = true)
    (quiet : (step.apply db).1 = none) : db.Agree table (step.apply db).2 := by
  cases step with
  | call through call => simp [Step.apply] at quiet
  | read through height => exact .of_eq (still_during (still_query _) (through.holding db))
  | reopen through => exact agree_prepare kept (c := through.holding db) present
  | log logged => cases table <;> rfl
  | interfere act => exact agree_apply spares db

theorem apply_of_entry {step : Step} {db : Database} {entry : Entry}
    (made : (step.apply db).1 = some entry) : (step.apply db).2 = entry.effect db := by
  cases step with
  | call through call =>
    obtain rfl := Option.some.inj made
    exact perform_effect call (through.holding db)
  | read through height | reopen through | log logged | interfere act => cases made

/-! ### Runs -/

theorem run_append (steps more : List Step) (db : Database) :
    run (steps ++ more) db =
      ((run steps db).1 ++ (run more (run steps db).2).1, (run more (run steps db).2).2) := by
  induction steps generalizing db with
  | nil => rfl
  | cons step steps ih => simp only [List.cons_append, run, ih, List.append_assoc]

theorem moment_of_entry {steps : List Step} {db : Database} {before after : List Entry}
    {entry : Entry} (split : (run steps db).1 = before ++ entry :: after) :
    ∃ earlier through later, steps = earlier ++ .call through entry.call :: later ∧
      (run earlier db).1 = before ∧
      entry.answer = (entry.call.perform (through.holding (run earlier db).2)).1 := by
  induction steps generalizing db before with
  | nil => simp [run] at split
  | cons step steps ih =>
    cases made : (step.apply db).1 with
    | none =>
      have rest : (run steps (step.apply db).2).1 = before ++ entry :: after := by
        simpa [run, made] using split
      obtain ⟨earlier, through, later, rfl, told, answered⟩ := ih rest
      refine ⟨step :: earlier, through, later, rfl, ?_, answered⟩
      simpa [run, made] using told
    | some first =>
      have rest : first :: (run steps (step.apply db).2).1 = before ++ entry :: after := by
        simpa [run, made] using split
      cases before with
      | nil =>
        obtain ⟨rfl, -⟩ := List.cons.inj rest
        cases step with
        | call through call =>
          obtain rfl := Option.some.inj made
          exact ⟨[], through, steps, rfl, rfl, rfl⟩
        | read through height | reopen through | log logged | interfere act => cases made
      | cons other before =>
        obtain ⟨rfl, tail⟩ := List.cons.inj rest
        obtain ⟨earlier, through, later, rfl, told, answered⟩ := ih tail
        refine ⟨step :: earlier, through, later, rfl, ?_, answered⟩
        simp [run, made, told]

/-- What every call and every step that is no call keeps holds at the end of a history. -/
theorem run_keeps {P : List Entry → Database → Prop} {table : Table}
    (made : ∀ (entries : List Entry) (call : Call) (c : Connection), P entries c.database →
      P (entries ++ [⟨call, (call.perform c).1⟩]) (call.perform c).2.database)
    (quiet : ∀ (entries : List Entry) (step : Step) (db : Database), P entries db →
      step.spares table = true → (step.apply db).1 = none → P entries (step.apply db).2)
    {steps : List Step} (spared : ∀ step ∈ steps, step.spares table = true) {db : Database}
    (start : P [] db) : P (run steps db).1 (run steps db).2 := by
  suffices whole : ∀ entries, P entries db →
      P (entries ++ (run steps db).1) (run steps db).2 from whole [] start
  clear start
  induction steps generalizing db with
  | nil =>
    intro entries kept
    simpa [run] using kept
  | cons step steps ih =>
    intro entries kept
    have rest : ∀ other ∈ steps, other.spares table = true :=
      fun other member => spared other (List.mem_cons_of_mem step member)
    cases recorded : (step.apply db).1 with
    | none =>
      have next := quiet entries step db kept (spared step List.mem_cons_self) recorded
      simpa [run, recorded] using ih rest entries next
    | some entry =>
      cases step with
      | call through call =>
        obtain rfl := Option.some.inj recorded
        have next := made entries call (through.holding db) kept
        simpa [run, Step.apply] using ih rest _ next
      | read through height | reopen through | log logged | interfere act => cases recorded

/-! ### What has been made and not been undone -/

section Surviving

variable {α : Type} (made? : Entry → Option α) (undoes : Entry → α → Bool)

/-- What the entries of a history have made and none of the later ones has undone, in order. -/
def surviving : List Entry → List α
  | [] => []
  | entry :: later =>
    (made? entry).toList.filter (fun a => !later.any (fun e => undoes e a)) ++ surviving later

theorem surviving_concat (entries : List Entry) (entry : Entry) :
    surviving made? undoes (entries ++ [entry]) =
      (surviving made? undoes entries).filter (fun a => !undoes entry a) ++
        (made? entry).toList := by
  induction entries with
  | nil => simp [surviving]
  | cons first entries ih =>
    have guarded : ∀ a : α, (!(entries ++ [entry]).any fun e => undoes e a) =
        ((!undoes entry a) && !entries.any fun e => undoes e a) := by
      intro a
      cases undone : undoes entry a <;> simp [undone]
    simp only [List.cons_append, surviving, ih, List.filter_append, List.filter_filter, guarded,
      List.append_assoc]

end Surviving

end ChainStore.Cache
