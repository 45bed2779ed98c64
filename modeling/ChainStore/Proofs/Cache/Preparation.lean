import ChainStore.Proofs.Cache.Layout
import ChainStore.Proofs.Cache.Lookup
import Mathlib.Data.List.Find

set_option autoImplicit false
set_option relaxedAutoImplicit false

/-!
What preparing answers and leaves behind, given the database alone. The recorded version decides
where there is one. Where there is none, the first table of a cache that is there already stands in
the way, and what was created before it was met is undone.
-/

namespace ChainStore.Storage

def Connection.creating (c : Connection) (table : Table) : Connection :=
  (c.holding (c.database.withEmpty table)).look

namespace Connection

@[simp] theorem writeFault?_creating (c : Connection) (table : Table) :
    (c.creating table).writeFault? = c.writeFault? := by
  cases table <;> rfl

theorem has_creating (c : Connection) (made table : Table) :
    (c.creating made).database.has table = (made == table || c.database.has table) := by
  cases made <;> cases table <;> rfl

end Connection

theorem run_createTable (table : Table) {c : Connection} (able : c.writeFault? = none) :
    (createTable table).run c =
      if c.database.has table then (.error (.tableExists table), c.look)
      else (.ok (), c.creating table) := by
  simp only [createTable, able, Connection.creating]

def createAll : List Table → Statement Unit
  | [] => pure ()
  | table :: rest => do
    createTable table
    createAll rest

theorem run_createAll {tables : List Table} (distinct : tables.Nodup) {c : Connection}
    (able : c.writeFault? = none) :
    match tables.find? c.database.has with
    | some table => ((createAll tables).run c).1 = .error (.tableExists table)
    | none => (createAll tables).run c = (.ok (), tables.foldl Connection.creating c) := by
  induction tables generalizing c with
  | nil => rfl
  | cons table rest ih =>
    obtain ⟨fresh, distinct⟩ := List.nodup_cons.mp distinct
    rw [List.find?_cons, createAll, Task.run_bind, run_createTable table able]
    cases present : c.database.has table with
    | true => rfl
    | false =>
      have others : rest.find? (c.creating table).database.has = rest.find? c.database.has := by
        apply List.find?_congr
        intro other member
        rw [Connection.has_creating, beq_false_of_ne (ne_of_mem_of_not_mem member fresh).symm,
          Bool.false_or]
      have next := ih distinct ((c.writeFault?_creating table).trans able)
      rw [others] at next
      exact next

end ChainStore.Storage

namespace ChainStore.Cache.Layout

open Storage

def created : List Table := [.tip, .blocks, .transactions]

/-- What stands in the way of laying a database out: a table that is there already, or a rejection
of the record of the version. -/
def obstacle? (db : Database) : Option Error :=
  match created.find? db.has with
  | some table => some (.storage (.creatingLayout version) (.tableExists table))
  | none =>
    (db.refusal .metadata .insert (.text versionText)).map fun message =>
      .storage .recordingVersion (.rejected message)

def verdict (db : Database) : Except Error Unit :=
  match db.metadata.join with
  | some text => if text = versionText then .ok () else .error (.layoutMismatch text version)
  | none =>
    match obstacle? db with
    | some e => .error e
    | none => .ok ()

/-- A database in which the table of the version is seen to be there. -/
def versioned (db : Database) : Database := { db with metadata := some db.metadata.join }

/-- What becomes of a database that is prepared. The table of the version is there afterwards in
any case; the tables of a cache are left alone, or laid out together. -/
def readied (db : Database) : Database :=
  match db.metadata.join, obstacle? db with
  | none, none => laidOut db
  | _, _ => versioned db

private theorem versioned_of_present {db : Database} {recorded : Option String}
    (present : db.metadata = some recorded) : versioned db = db := by
  rw [versioned, present, Option.join_some, ← present]

private theorem createAll_created : createAll created = (do
    createTable .tip
    createTable .blocks
    createTable .transactions) := by
  have last : createAll [.transactions] = createTable .transactions := by
    refine congrArg Task.mk (funext fun c => ?_)
    split
    · rename_i ran
      exact ran.symm
    · rename_i ran
      exact ran.symm
  rw [← last]
  rfl

private theorem answer_recordVersion {c : Connection} (able : c.writeFault? = none)
    {recorded : Option String} (present : c.database.metadata = some recorded) (text : String) :
    ((recordVersion text).run c).1 =
      match c.database.refusal .metadata .insert (.text text) with
      | some message => .error (.rejected message)
      | none => .ok () := by
  rw [recordVersion, answer_change_of_table _ _ _ (by rw [Database.has, present]; rfl) present,
    Connection.writing, able]
  cases c.database.refusal .metadata .insert (.text text) <;> rfl

private theorem answer_create {c : Connection} (able : c.writeFault? = none)
    {recorded : Option String} (present : c.database.metadata = some recorded) :
    (create.run c).1 =
      match obstacle? c.database with
      | some e => .error e
      | none => .ok () := by
  have tables := run_createAll (by decide : created.Nodup) able
  rw [createAll_created] at tables
  rw [create, Task.answer_atomically, obstacle?]
  cases there : created.find? c.database.has with
  | some table =>
    simp only [there] at tables
    exact Task.answer_bind_error (answer_during_error tables)
  | none =>
    simp only [there] at tables
    rw [Task.run_bind_ok (run_during_ok tables), answer_during,
      answer_recordVersion (c := created.foldl Connection.creating c) able present]
    have refusal : (created.foldl Connection.creating c).database.refusal = c.database.refusal := rfl
    simp only [refusal]
    cases c.database.refusal .metadata .insert (.text versionText) <;> rfl

private theorem run_ensureMetadata {c : Connection} (able : c.writeFault? = none) :
    ∃ after, (ensureTable .metadata).run c = (.ok (), after) ∧ after.writeFault? = none ∧
      after.database = versioned c.database := by
  cases present : c.database.metadata with
  | some recorded =>
    refine ⟨c.look, ?_, able, (versioned_of_present present).symm⟩
    simp only [ensureTable, Database.has, present, Option.isSome_some, ↓reduceIte]
    exact run_query _ (readFault?_of_writeFault? able)
  | none =>
    refine ⟨c.creating .metadata, ?_, (c.writeFault?_creating _).trans able, ?_⟩
    · simp [ensureTable, run_createTable, Database.has, present, able]
    · rw [versioned, present]
      rfl

private theorem run_conform {c : Connection} (able : c.writeFault? = none)
    {recorded : Option String} (present : c.database.metadata = some recorded) :
    (conform.run c).1 = verdict c.database ∧ (conform.run c).2.database = readied c.database := by
  have looked : (during .readingVersion (query Database.recordedVersion)).run c =
      (.ok recorded, c.look) := by
    apply run_during_ok
    rw [run_query _ (readFault?_of_writeFault? able), Database.recordedVersion, present]
  rw [conform, Task.run_bind_ok looked, verdict, readied, present, Option.join_some,
    versioned_of_present present]
  cases recorded with
  | some text =>
    simp only
    split <;> exact ⟨rfl, rfl⟩
  | none =>
    have answer := answer_create (c := c.look) able present
    -- What is left behind follows from the answer: a layout that fails is undone as a whole.
    simp only [Connection.database_look] at answer ⊢
    refine ⟨answer, ?_⟩
    cases outcome : create.run c.look with
    | mk result after =>
      rw [outcome] at answer
      cases obstacle : obstacle? c.database with
      | none =>
        simp only [obstacle] at answer ⊢
        rw [answer] at outcome
        exact (create_ok outcome).2.2.2
      | some e =>
        simp only [obstacle] at answer ⊢
        rw [answer] at outcome
        show after.database = c.look.database
        exact clean_create _ _ _ outcome

/-- Preparing a database through a connection that can write to it answers what the verdict is, and
leaves it as that asks for. -/
theorem run_prepare {c : Connection} (able : c.writeFault? = none) :
    (prepare.run c).1 = verdict c.database ∧
      (prepare.run c).2.database = readied c.database := by
  obtain ⟨after, ensured, able', here⟩ := run_ensureMetadata able
  rw [prepare, Task.run_bind_ok (run_during_ok ensured)]
  have rest := run_conform (c := after) able' (by rw [here, versioned])
  rw [here] at rest
  exact rest

/-! ### What the verdict depends on -/

theorem verdict_of_version {db : Database} (recorded : db.metadata.join = some versionText) :
    verdict db = .ok () := by
  simp only [verdict, recorded, ↓reduceIte]

theorem readied_of_recorded {db : Database} {text : String}
    (recorded : db.metadata.join = some text) : readied db = db := by
  have present : db.metadata = some (some text) := Option.join_eq_some_iff.mp recorded
  simp only [readied, recorded, versioned_of_present present]

theorem obstacle?_eq_none {db : Database} :
    obstacle? db = none ↔ (∀ table ∈ created, db.has table = false) ∧
      db.refusal .metadata .insert (.text versionText) = none := by
  have missing : created.find? db.has = none ↔ ∀ table ∈ created, db.has table = false := by
    simp only [List.find?_eq_none, Bool.not_eq_true]
  rw [obstacle?, ← missing]
  cases created.find? db.has <;> simp

theorem readied_of_free {db : Database} (blank : db.metadata.join = none)
    (free : obstacle? db = none) : readied db = laidOut db := by
  simp only [readied, blank, free]

theorem recorded_of_verdict {db : Database} (accepted : verdict db = .ok ()) :
    (readied db).metadata.join = some versionText := by
  unfold verdict at accepted
  cases recorded : db.metadata.join with
  | some text =>
    rw [readied_of_recorded recorded, recorded]
    simp only [recorded] at accepted
    split at accepted
    · rename_i same
      rw [same]
    · cases accepted
  | none =>
    simp only [recorded] at accepted
    cases free : obstacle? db with
    | none => rw [readied_of_free recorded free]; rfl
    | some e => rw [free] at accepted; cases accepted

theorem locked_readied (db : Database) : (readied db).locked = db.locked := by
  unfold readied
  split <;> rfl

theorem readied_log (db : Database) (logged : Bool) :
    readied { db with logged := logged } = { readied db with logged := logged } := by
  have same : obstacle? { db with logged := logged } = obstacle? db := rfl
  unfold readied
  rw [same]
  cases db.metadata.join with
  | some text => rfl
  | none => cases obstacle? db <;> rfl

theorem verdict_eq_ok {db : Database}
    (unrefused : db.refusal .metadata .insert (.text versionText) = none) :
    verdict db = .ok () ↔ db.metadata.join = some versionText ∨
      db.metadata.join = none ∧ ∀ table ∈ created, db.has table = false := by
  have free : obstacle? db = none ↔ ∀ table ∈ created, db.has table = false := by
    rw [obstacle?_eq_none, and_iff_left unrefused]
  unfold verdict
  cases db.metadata.join with
  | some text => simp
  | none =>
    rw [← free]
    cases obstacle? db <;> simp

theorem verdict_eq_error {db : Database} {e : Error} (failed : verdict db = .error e) :
    readied db = versioned db ∧
      match db.metadata.join, created.find? db.has with
      | some text, _ => text ≠ versionText ∧ e = .layoutMismatch text version
      | none, some table => e = .storage (.creatingLayout version) (.tableExists table)
      | none, none => ∃ message, db.refusal .metadata .insert (.text versionText) = some message ∧
          e = .storage .recordingVersion (.rejected message) := by
  unfold verdict at failed
  unfold readied
  cases recorded : db.metadata.join with
  | some text =>
    simp only [recorded] at failed ⊢
    split at failed
    · cases failed
    · rename_i other
      cases failed
      exact ⟨trivial, other, rfl⟩
  | none =>
    simp only [recorded] at failed ⊢
    cases obstacle : obstacle? db with
    | none =>
      rw [obstacle] at failed
      cases failed
    | some e' =>
      rw [obstacle] at failed
      cases failed
      refine ⟨rfl, ?_⟩
      unfold obstacle? at obstacle
      cases there : created.find? db.has with
      | some table =>
        rw [there] at obstacle
        exact (Option.some.inj obstacle).symm
      | none =>
        rw [there] at obstacle
        obtain ⟨message, refused, named⟩ := Option.map_eq_some_iff.mp obstacle
        exact ⟨message, refused, named.symm⟩

end ChainStore.Cache.Layout
