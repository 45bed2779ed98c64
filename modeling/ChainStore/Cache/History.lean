import ChainStore.Cache.Operation

set_option autoImplicit false
set_option relaxedAutoImplicit false

/-!
Histories of a cache: what its clients and other programs do to one database, one after the other.
Everybody comes to the database through a connection of his own, which may have other rights and
know of other tables than that of the next: a handle, a copy of it, one that was opened later. Every
client has calls of his own, in an order of his own.
-/

namespace ChainStore.Cache

open Storage

inductive Step where
  /-- A client carries out an operation. -/
  | call (through : Connection) (call : Call)
  /-- A range that a client has opened reads a height. -/
  | read (through : Connection) (height : Height)
  /-- Somebody opens the cache, perhaps once more. -/
  | reopen (through : Connection)
  /-- Changes go to a log from now on, or the log is worked into the file. -/
  | log (logged : Bool)
  /-- Another program interferes. -/
  | interfere (interference : Interference)
deriving DecidableEq

structure Entry where
  call : Call
  answer : Except Error Answer

/-- What a step does, and the entry that it leaves if it is a call. -/
def Step.apply (db : Database) : Step → Option Entry × Database
  | .call through request =>
    match request.perform (through.holding db) with
    | (answer, after) => (some ⟨request, answer⟩, after.database)
  | .read through height => (none, ((payloadForRange height).run (through.holding db)).2.database)
  | .reopen through => (none, (Layout.prepare.run (through.holding db)).2.database)
  | .log logged => (none, { db with logged := logged })
  | .interfere act => (none, act.apply db)

def run : List Step → Database → List Entry × Database
  | [], db => ([], db)
  | step :: steps, db =>
    match step.apply db with
    | (entry, after) =>
      match run steps after with
      | (entries, final) => (entry.toList ++ entries, final)

/-- A client's turn: the connection as it is by then, the call and the second of the clock. -/
structure Turn (κ : Type) where
  client : κ
  through : Connection
  call : Call
deriving DecidableEq

/-- What a client decides about a call. When it is served, and what the connection has learnt about
the tables by then, is not up to him. -/
structure Request where
  operation : Operation
  fired : Bool
  rights : Rights
deriving DecidableEq

abbrev Outcome : Type := Operation × Except Error Answer

variable {κ : Type}

def Turn.request (turn : Turn κ) : Request :=
  ⟨turn.call.operation, turn.call.fired, turn.through.toRights⟩

def serve : List (Turn κ) → Database → List (Turn κ × Except Error Answer) × Database
  | [], db => ([], db)
  | turn :: turns, db =>
    match turn.call.perform (turn.through.holding db) with
    | (answer, after) =>
      match serve turns after.database with
      | (answered, final) => ((turn, answer) :: answered, final)

def requests [DecidableEq κ] (client : κ) (turns : List (Turn κ)) : List Request :=
  (turns.filter fun turn => turn.client == client).map Turn.request

def outcomes [DecidableEq κ] (client : κ) (served : List (Turn κ × Except Error Answer)) :
    List Outcome :=
  (served.filter fun one => one.1.client == client).map fun one => (one.1.call.operation, one.2)

end ChainStore.Cache
