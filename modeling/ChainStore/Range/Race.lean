import ChainStore.Cache.Operation
import ChainStore.Range.Pipeline

set_option autoImplicit false
set_option relaxedAutoImplicit false

/-!
The two sides of a range at work side by side, in any order. Each move happens at a moment of its
own, so a schedule pairs it with the way the store reads at that moment. In a scene a range is read
while others are at work on the same database: clients through connections of their own, and other
programs. Between any two moves of the range anything may happen.
-/

namespace ChainStore.Range

inductive Move where
  /-- The producer reads its next height, or sends what it holds. -/
  | produce
  /-- The producer notices a fired token and leaves. -/
  | notice
  /-- The producer dies. -/
  | die
  /-- The token fires. -/
  | fire
  /-- The consumer begins to ask for the next block: it looks at the token. -/
  | ask
  /-- The consumer that has begun to ask takes what comes next out of the channel. -/
  | take
deriving DecidableEq

/-- A range with its token. `died` says that its producer died before its work was done, and
`asking` that the consumer has seen a token that had not fired and has not taken anything yet. -/
structure Race where
  pipeline : Pipeline
  fired : Bool
  died : Bool
  asking : Bool
deriving DecidableEq

namespace Race

def start (first last : Height) (capacity : Nat) : Race :=
  ⟨.start first last capacity, false, false, false⟩

/-- Carries out a move. What the consumer hears is the answer of its question; one question ends
before the next begins. -/
def step (reader : Reader) (race : Race) : Move → Option Poll × Race
  | .produce => (none, { race with pipeline := race.pipeline.advance reader })
  | .notice =>
    (none, if race.fired then { race with pipeline := race.pipeline.halt } else race)
  | .die =>
    (none,
      { race with
        pipeline := race.pipeline.halt
        died := race.died || race.pipeline.producer != .stopped })
  | .fire => (none, { race with fired := true })
  | .ask =>
    if race.asking then (none, race)
    else
      match race.pipeline.glance race.fired with
      | some (poll, pipeline) => (some poll, { race with pipeline := pipeline })
      | none => (none, { race with asking := true })
  | .take =>
    if race.asking then
      match race.pipeline.take race.fired with
      | (poll, pipeline) => (some poll, { race with pipeline := pipeline, asking := false })
    else (none, race)

def run : List (Reader × Move) → Race → List Poll × Race
  | [], race => ([], race)
  | (reader, move) :: moves, race =>
    match race.step reader move with
    | (answer, race) =>
      match run moves race with
      | (answers, race) => (answer.toList ++ answers, race)

end Race

/-- The blocks and the failure that reading the heights of a range one after the other gives. -/
def sequential (reader : Reader) : List Height → List Item × Option Error
  | [] => ([], none)
  | height :: heights =>
    match reader height with
    | .error e => ([], some e)
    | .ok found =>
      match sequential reader heights with
      | (items, ending) => ((found.map (Item.mk height)).toList ++ items, ending)

def heights (first last : Height) : List Height :=
  (List.range' first.toNat (last.toNat + 1 - first.toNat)).map UInt32.ofNat

/-! ### Amid others -/

open Storage (Connection Interference)

inductive Turn where
  /-- A client carries out an operation. Its connection leads to the database of the range, but may
  have other rights and know of other tables than the connection of the range. -/
  | call (through : Connection) (call : Cache.Call)
  /-- Another program interferes. -/
  | interfere (interference : Interference)
  /-- The range makes a move. -/
  | move (move : Move)

structure Scene where
  connection : Connection
  race : Race

namespace Scene

def start (c : Connection) (first last : Height) (capacity : Nat) : Scene :=
  ⟨c, .start first last capacity⟩

/-- What the consumer of the range hears, and how things stand afterwards. A move of the producer
that reads a height reads it from the database as it is then. A client that shares the connection of
the range may teach it of new tables, which plays no part in reading. -/
def step (scene : Scene) : Turn → Option Poll × Scene
  | .call through call =>
    (none,
      { scene with
        connection := scene.connection.holding
          (call.perform (through.holding scene.connection.database)).2.database })
  | .interfere act =>
    (none,
      { scene with connection := scene.connection.holding (act.apply scene.connection.database) })
  | .move move =>
    match scene.race.step (Cache.rangeRead scene.connection) move with
    | (answer, race) => (answer, { scene with race := race })

def run : List Turn → Scene → List Poll × Scene
  | [], scene => ([], scene)
  | turn :: turns, scene =>
    match scene.step turn with
    | (answer, scene) =>
      match run turns scene with
      | (answers, scene) => (answer.toList ++ answers, scene)

end Scene

end ChainStore.Range
