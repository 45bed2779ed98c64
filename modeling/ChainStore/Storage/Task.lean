import ChainStore.Storage.Database

set_option autoImplicit false
set_option relaxedAutoImplicit false

/-!
Tasks through a connection to a database. What a connection may do is settled when it is opened.
What it knows of the tables it learns by looking, so that a table which somebody else drops is
missed only at the next look; what keeps it from writing is found out before that. A task answers or
fails, and leaves a connection with its database behind either way; what a failed task leaves in the
database is for `atomically` to settle.
-/

namespace ChainStore.Storage

/-- What a connection may do. One that does not heed locks is not kept out by them, but without
them it cannot follow a log either. -/
structure Rights where
  readOnly : Bool := false
  heedsLocks : Bool := true
deriving DecidableEq

structure Connection extends Rights where
  database : Database
  known : List Table
deriving DecidableEq

namespace Connection

def ofDatabase (db : Database) : Connection := { database := db, known := db.tables }

def holding (c : Connection) (db : Database) : Connection := { c with database := db }

def look (c : Connection) : Connection := { c with known := c.database.tables }

/-- Looks for a table: only a connection that does not know it looks again. -/
def seek (c : Connection) (table : Table) : Connection :=
  if c.known.contains table then c else c.look

def readFault? (c : Connection) : Option Fault :=
  if !c.heedsLocks && c.database.logged then some .logOutOfReach else none

def writeFault? (c : Connection) : Option Fault :=
  if c.readOnly then some .readOnly
  else if !c.heedsLocks && c.database.logged then some .logOutOfReach
  else if c.heedsLocks && c.database.locked then some .locked
  else none

@[simp] theorem database_holding (c : Connection) (db : Database) :
    (c.holding db).database = db := rfl

@[simp] theorem database_look (c : Connection) : c.look.database = c.database := rfl

@[simp] theorem database_seek (c : Connection) (table : Table) :
    (c.seek table).database = c.database := by
  unfold seek
  split <;> rfl

end Connection

/-- Something to do through a connection: an answer or a failure, and the connection afterwards. -/
structure Task (ε α : Type) where
  run : Connection → Except ε α × Connection

abbrev Statement (α : Type) : Type := Task Fault α

namespace Task

variable {ε α β : Type}

def andThen (task : Task ε α) (next : α → Task ε β) : Task ε β where
  run c :=
    match task.run c with
    | (.ok a, after) => (next a).run after
    | (.error e, after) => (.error e, after)

instance : Monad (Task ε) where
  pure a := ⟨fun c => (.ok a, c)⟩
  bind := andThen

def fail (e : ε) : Task ε α := ⟨fun c => (.error e, c)⟩

/-- Runs a task; when it fails, the database is again what it was before. What the connection has
learnt about the tables on the way, it keeps. -/
def atomically (task : Task ε α) : Task ε α where
  run c :=
    match task.run c with
    | (.ok a, after) => (.ok a, after)
    | (.error e, after) => (.error e, after.holding c.database)

def mapFailure {ε' : Type} (report : ε → ε') (task : Task ε α) : Task ε' α where
  run c :=
    match task.run c with
    | (.ok a, after) => (.ok a, after)
    | (.error e, after) => (.error (report e), after)

@[simp] theorem run_pure (a : α) (c : Connection) :
    (pure a : Task ε α).run c = (.ok a, c) := rfl

@[simp] theorem run_bind (task : Task ε α) (next : α → Task ε β) (c : Connection) :
    (task >>= next).run c =
      match task.run c with
      | (.ok a, after) => (next a).run after
      | (.error e, after) => (.error e, after) := rfl

@[simp] theorem run_map (f : α → β) (task : Task ε α) (c : Connection) :
    (f <$> task).run c =
      match task.run c with
      | (.ok a, after) => (.ok (f a), after)
      | (.error e, after) => (.error e, after) := rfl

@[simp] theorem run_fail (e : ε) (c : Connection) :
    (fail e : Task ε α).run c = (.error e, c) := rfl

theorem atomically_error {task : Task ε α} {c after : Connection} {e : ε}
    (failed : (atomically task).run c = (.error e, after)) : after.database = c.database := by
  unfold atomically at failed
  simp only at failed
  split at failed
  · simp at failed
  · simp only [Prod.mk.injEq] at failed
    rw [← failed.2]
    rfl

theorem atomically_ok {task : Task ε α} {c after : Connection} {a : α}
    (succeeded : (atomically task).run c = (.ok a, after)) : task.run c = (.ok a, after) := by
  unfold atomically at succeeded
  simp only at succeeded
  split at succeeded <;> simp_all

end Task

end ChainStore.Storage
