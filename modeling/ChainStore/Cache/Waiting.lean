import ChainStore.Cache.History

set_option autoImplicit false
set_option relaxedAutoImplicit false

/-!
Callers that meet at one connection. A caller looks at its token, waits for the connection for an
interval, looks again and so on; once it has got hold of the connection it looks at its token for
the last time and then works. It lets go of the connection when it answers. Every caller does all
this at moments of its own, and tokens may fire at any moment.
-/

namespace ChainStore.Cache

open Storage

inductive Stage where
  /-- About to look at its token, for the first time or after an interval of waiting. -/
  | arriving
  /-- Waits for the connection, until the end of an interval. -/
  | waiting
  /-- Has got hold of the connection and is about to look at its token. -/
  | admitted
  /-- Works with the connection, which it found in this state. -/
  | working (found : Connection)
  | answered
deriving DecidableEq

structure Caller where
  call : Call
  stage : Stage
deriving DecidableEq

/-- A connection and those who share it. -/
structure Shared where
  connection : Connection
  callers : List Caller
deriving DecidableEq

/-- Something that one of the callers does, or that befalls it. -/
inductive Shared.Move where
  /-- It does the next thing that it can do. -/
  | proceed (caller : Nat)
  /-- Its interval of waiting is over. -/
  | lapse (caller : Nat)
  /-- Its token fires. -/
  | fire (caller : Nat)
deriving DecidableEq

def Stage.holds : Stage → Bool
  | .admitted | .working _ => true
  | .arriving | .waiting | .answered => false

def Stage.undecided : Stage → Bool
  | .arriving | .waiting | .admitted => true
  | .working _ | .answered => false

namespace Shared

def start (c : Connection) (calls : List Call) : Shared := ⟨c, calls.map (⟨·, .arriving⟩)⟩

def busy (s : Shared) : Bool := s.callers.any fun caller => caller.stage.holds

def enter (s : Shared) (number : Nat) (caller : Caller) (stage : Stage) : Shared :=
  { s with callers := s.callers.set number { caller with stage := stage } }

/-- What a caller does next, and its answer if it gives one. The token that fires while a caller
works is not looked at any more. -/
def proceed (s : Shared) (number : Nat) (caller : Caller) : Option Entry × Shared :=
  match caller.stage with
  | .arriving =>
    if caller.call.fired then
      (some ⟨caller.call, .error .cancelled⟩, s.enter number caller .answered)
    else (none, s.enter number caller .waiting)
  | .waiting => (none, if s.busy then s else s.enter number caller .admitted)
  | .admitted =>
    if caller.call.fired then
      (some ⟨caller.call, .error .cancelled⟩, s.enter number caller .answered)
    else (none, s.enter number caller (.working s.connection))
  | .working found =>
    let call := { caller.call with fired := false }
    match call.perform found with
    | (answer, after) =>
      (some ⟨call, answer⟩, { s.enter number caller .answered with connection := after })
  | .answered => (none, s)

/-- Carries out a move. Those who are not there take no part. -/
def step (s : Shared) : Move → Option (Nat × Entry) × Shared
  | .proceed number =>
    match s.callers[number]? with
    | none => (none, s)
    | some caller =>
      match s.proceed number caller with
      | (entry, after) => (entry.map (Prod.mk number), after)
  | .lapse number =>
    match s.callers[number]? with
    | some ⟨call, .waiting⟩ => (none, s.enter number ⟨call, .waiting⟩ .arriving)
    | _ => (none, s)
  | .fire number =>
    match s.callers[number]? with
    | none => (none, s)
    | some caller =>
      (none, s.enter number { caller with call := { caller.call with fired := true } } caller.stage)

def run : List Move → Shared → List (Nat × Entry) × Shared
  | [], s => ([], s)
  | move :: moves, s =>
    match s.step move with
    | (entry, after) =>
      match run moves after with
      | (entries, final) => (entry.toList ++ entries, final)

end Shared

def inTurn : List Call → Connection → List (Except Error Answer) × Connection
  | [], c => ([], c)
  | call :: calls, c =>
    match call.perform c with
    | (answer, after) =>
      match inTurn calls after with
      | (answers, final) => (answer :: answers, final)

end ChainStore.Cache
