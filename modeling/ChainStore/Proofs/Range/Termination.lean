import ChainStore.Cache.Lookup
import ChainStore.Proofs.Range.Outlook
import ChainStore.Proofs.Range.Schedule
import Mathlib.Data.List.Induction

set_option autoImplicit false
set_option relaxedAutoImplicit false

/-!
How a range ends when its two sides, its token and a dying producer race in any order, over a store
that reads the same all the time. The consumer hears the blocks that reading one height after the
other finds, from the first one on, then at most one answer that ends the range and is warranted at
the moment it is given, and then only that the range is over.
-/

namespace ChainStore.Range

def Poll.isReady : Poll → Bool
  | .pending => false
  | _ => true

def ready (answers : List Poll) : List Poll := answers.filter Poll.isReady

theorem ready_append (answers more : List Poll) :
    ready (answers ++ more) = ready answers ++ ready more :=
  List.filter_append ..

/-- When an answer may end a range that has handed over `items` of all that reading one height after
the other finds. -/
def Warranted (found : List Item × Option Error) (items : List Item) (race : Race) : Poll → Prop
  | .ended => items = found.1 ∧ found.2 = none
  | .failed .cancelled => race.fired = true
  | .failed .streamAborted => race.died = true ∧ race.fired = false
  | .failed e => items = found.1 ∧ found.2 = some e
  | _ => False

/-- A store whose own failures are neither of those that the range adds. -/
def Reader.Forthright (reader : Reader) : Prop :=
  ∀ height, reader height ≠ .error .cancelled ∧ reader height ≠ .error .streamAborted

theorem warranted_failed {reader : Reader} (forthright : reader.Forthright)
    {heights : List Height} {e : Error} (failed : (sequential reader heights).2 = some e)
    (race : Race) :
    Warranted (sequential reader heights) (sequential reader heights).1 race (.failed e) := by
  obtain ⟨height, outcome⟩ := reader_of_failed failed
  cases e with
  | cancelled => exact absurd outcome (forthright height).1
  | streamAborted => exact absurd outcome (forthright height).2
  | _ => exact ⟨rfl, failed⟩

namespace Race

/-- A range that has handed over `items` and is not over. What is still to be heard carries the
story on, and to its end unless the producer is gone for a reason. -/
structure Underway (reader : Reader) (heights : List Height) (items : List Item) (race : Race) :
    Prop where
  opened : race.pipeline.closed = false
  carriesOn : items.map Event.block ++ race.pipeline.outlook reader <+:
    story (sequential reader heights)
  toTheEnd : items.map Event.block ++ race.pipeline.outlook reader =
      story (sequential reader heights) ∨
    race.pipeline.producer = .stopped ∧ (race.fired = true ∨ race.died = true)

structure Over (race : Race) : Prop where
  closed : race.pipeline.closed = true
  idle : race.asking = false

/-- What a move may make of a range under way: it stays so, with a block more or none, or it ends
with an answer that is warranted. -/
def Proceeds (reader : Reader) (heights : List Height) (items : List Item)
    (moved : Option Poll × Race) : Prop :=
  (∃ more, ready moved.1.toList = more.map .item ∧
      Underway reader heights (items ++ more) moved.2) ∨
    ∃ terminal, moved.1 = some terminal ∧
      Warranted (sequential reader heights) items moved.2 terminal ∧ Over moved.2

variable {reader : Reader} {heights : List Height} {items : List Item} {race : Race}

theorem underway_start (reader : Reader) (first last : Height) (capacity : Nat) :
    Underway reader (Range.heights first last) [] (start first last capacity) where
  opened := rfl
  carriesOn := List.prefix_refl _
  toTheEnd := .inl rfl

theorem Underway.prefix_found (under : Underway reader heights items race) :
    items <+: (sequential reader heights).1 :=
  prefix_of_story under.carriesOn

private theorem Underway.silent {moved : Race} (under : Underway reader heights items moved) :
    Proceeds reader heights items (none, moved) :=
  .inl ⟨[], rfl, by rwa [List.append_nil]⟩

private theorem Underway.produce (under : Underway reader heights items race) :
    Underway reader heights items { race with pipeline := race.pipeline.advance reader } where
  opened := by simpa using under.opened
  carriesOn := by simpa only [Pipeline.outlook_advance under.opened] using under.carriesOn
  toTheEnd := by
    rcases under.toTheEnd with told | ⟨gone, why⟩
    · exact .inl (by simpa only [Pipeline.outlook_advance under.opened] using told)
    · exact .inr ⟨by simpa only [Pipeline.advance_of_stopped gone] using gone, why⟩

private theorem Underway.halt (under : Underway reader heights items race) {died : Bool}
    (why : race.fired = true ∨ died = true) :
    Underway reader heights items
      { race with pipeline := race.pipeline.halt, died := died } where
  opened := under.opened
  carriesOn := by
    have shorter := Pipeline.outlook_halt reader race.pipeline
    exact ((List.prefix_append_right_inj _).mpr shorter).trans under.carriesOn
  toTheEnd := .inr ⟨rfl, why⟩

private theorem Underway.die (under : Underway reader heights items race) :
    Underway reader heights items (race.step reader .die).2 := by
  by_cases gone : race.pipeline.producer = .stopped
  · have same : race.pipeline.halt = race.pipeline := by
      rw [Pipeline.halt, ← gone]
    refine ⟨under.opened, ?_, ?_⟩
    · simpa only [step, same] using under.carriesOn
    · simpa [step, same, gone] using under.toTheEnd
  · exact under.halt (.inr (by simp [gone]))

private theorem Underway.concluded (under : Underway reader heights items race) {event : Event}
    {rest : List Event} (queue : race.pipeline.queue = event :: rest)
    (ends : ∀ item, event ≠ .block item) :
    items = (sequential reader heights).1 ∧ event = conclusion (sequential reader heights).2 := by
  have carriesOn := under.carriesOn
  simp only [Pipeline.outlook, queue, List.cons_append] at carriesOn
  exact conclusion_of_story ends carriesOn

private theorem Underway.stranded (under : Underway reader heights items race)
    (queue : race.pipeline.queue = []) (gone : race.pipeline.producer = .stopped) :
    race.fired = true ∨ race.died = true := by
  rcases under.toTheEnd with told | ⟨-, why⟩
  · simp only [Pipeline.outlook, queue, gone, Producer.events, List.append_nil] at told
    exact absurd told (blocks_ne_story items _)
  · exact why

private theorem Underway.take (under : Underway reader heights items race)
    (forthright : reader.Forthright) :
    Proceeds reader heights items
      (some (race.pipeline.take race.fired).1,
        { race with pipeline := (race.pipeline.take race.fired).2, asking := false }) := by
  cases queue : race.pipeline.queue with
  | cons event rest =>
    cases event with
    | block item =>
      have carriesOn := under.carriesOn
      have toTheEnd := under.toTheEnd
      simp only [Pipeline.outlook, queue, List.cons_append] at carriesOn toTheEnd
      refine .inl ⟨[item], by simp [Pipeline.take, queue, ready, Poll.isReady], ?_⟩
      refine ⟨by simpa [Pipeline.take, queue] using under.opened, ?_, ?_⟩
      · simpa [Pipeline.take, queue, Pipeline.outlook] using carriesOn
      · simpa [Pipeline.take, queue, Pipeline.outlook] using toTheEnd
    | finished =>
      obtain ⟨all, ends⟩ := under.concluded queue (by simp)
      have complete := conclusion_eq_finished.mp ends.symm
      refine .inr ⟨.ended, by simp [Pipeline.take, queue], ⟨all, complete⟩, ?_⟩
      exact ⟨by simp [Pipeline.take, queue], rfl⟩
    | failed e =>
      obtain ⟨rfl, ends⟩ := under.concluded queue (by simp)
      have failed := conclusion_eq_failed.mp ends.symm
      refine .inr ⟨.failed e, by simp [Pipeline.take, queue], ?_, ?_⟩
      · exact warranted_failed forthright failed _
      · exact ⟨by simp [Pipeline.take, queue], rfl⟩
  | nil =>
    by_cases gone : race.pipeline.producer = .stopped
    · have why := under.stranded queue gone
      cases fired : race.fired with
      | true =>
        refine .inr ⟨.failed .cancelled, by simp [Pipeline.take, queue, gone], rfl, ?_⟩
        exact ⟨by simp [Pipeline.take, queue, gone, Pipeline.close], rfl⟩
      | false =>
        have died : race.died = true := by simpa [fired] using why
        refine .inr ⟨.failed .streamAborted, by simp [Pipeline.take, queue, gone], ⟨died, rfl⟩, ?_⟩
        exact ⟨by simp [Pipeline.take, queue, gone, Pipeline.close], rfl⟩
    · have waits : race.pipeline.take race.fired = (.pending, race.pipeline) := by
        simp only [Pipeline.take, queue]
      rw [waits]
      refine .inl ⟨[], rfl, ?_⟩
      rw [List.append_nil]
      exact ⟨under.opened, under.carriesOn, under.toTheEnd⟩

/-- One move of a range under way, whichever it is. -/
theorem Underway.proceeds (under : Underway reader heights items race)
    (forthright : reader.Forthright) (move : Move) :
    Proceeds reader heights items (race.step reader move) := by
  cases move with
  | produce => exact under.produce.silent
  | notice =>
    simp only [step]
    split
    · exact (under.halt (.inl ‹_›)).silent
    · exact under.silent
  | die => exact under.die.silent
  | fire =>
    refine Underway.silent ⟨under.opened, under.carriesOn, ?_⟩
    exact under.toTheEnd.imp id (And.imp_right fun _ => .inl rfl)
  | ask =>
    simp only [step]
    split
    · exact under.silent
    · rename_i idle
      by_cases fired : race.fired = true
      · have looked : race.pipeline.glance race.fired =
            some (.failed .cancelled, race.pipeline.close) := by
          simp [Pipeline.glance, under.opened, fired]
        rw [looked]
        exact .inr ⟨_, rfl, fired, rfl, by simpa using idle⟩
      · have looked : race.pipeline.glance race.fired = none := by
          simp [Pipeline.glance, under.opened, fired]
        rw [looked]
        exact Underway.silent ⟨under.opened, under.carriesOn, under.toTheEnd⟩
  | take =>
    simp only [step]
    split
    · exact under.take forthright
    · exact under.silent

theorem Over.step (past : Over race) (reader : Reader) (move : Move) :
    Over (race.step reader move).2 ∧
      ∃ count, ready (race.step reader move).1.toList = List.replicate count .ended := by
  cases move with
  | produce => exact ⟨⟨by simpa [Race.step] using past.closed, past.idle⟩, 0, rfl⟩
  | notice =>
    simp only [Race.step]
    split
    · exact ⟨⟨past.closed, past.idle⟩, 0, rfl⟩
    · exact ⟨past, 0, rfl⟩
  | die => exact ⟨⟨past.closed, past.idle⟩, 0, rfl⟩
  | fire => exact ⟨⟨past.closed, past.idle⟩, 0, rfl⟩
  | ask =>
    simp only [Race.step, past.idle, Pipeline.glance, past.closed, Bool.false_eq_true, ↓reduceIte]
    exact ⟨⟨past.closed, rfl⟩, 1, rfl⟩
  | take =>
    simp only [Race.step, past.idle, Bool.false_eq_true, ↓reduceIte]
    exact ⟨past, 0, rfl⟩

/-- How a schedule has gone for the consumer: it has heard blocks and the range is under way, or it
heard blocks up to the end of `before`, where an answer ended the range. -/
def Course (reader : Reader) (heights : List Height) (race : Race) (moves : List Move)
    (items : List Item) : Prop :=
  (ready (run (steady reader moves) race).1 = items.map .item ∧
      Underway reader heights items (run (steady reader moves) race).2) ∨
    ∃ terminal rest before, before <+: moves ∧
      ready (run (steady reader before) race).1 = items.map .item ++ [terminal] ∧
      Warranted (sequential reader heights) items (run (steady reader before) race).2 terminal ∧
      ready (run (steady reader moves) race).1 =
        items.map .item ++ terminal :: List.replicate rest .ended ∧
      Over (run (steady reader moves) race).2

private theorem ready_of_warranted {found : List Item × Option Error} {terminal : Poll}
    (warranted : Warranted found items race terminal) : ready [terminal] = [terminal] := by
  cases terminal with
  | ended => rfl
  | failed e => rfl
  | pending => exact warranted.elim
  | item item => exact warranted.elim

theorem Underway.course (under : Underway reader heights [] race) (forthright : reader.Forthright)
    (moves : List Move) :
    ∃ items, items <+: (sequential reader heights).1 ∧ Course reader heights race moves items := by
  induction moves using List.reverseRecOn with
  | nil => exact ⟨[], List.nil_prefix, .inl ⟨rfl, under⟩⟩
  | append_singleton moves move ih =>
    obtain ⟨items, found, course⟩ := ih
    have heard : ready (run (steady reader (moves ++ [move])) race).1 =
        ready (run (steady reader moves) race).1 ++
          ready ((run (steady reader moves) race).2.step reader move).1.toList := by
      rw [steady_concat, run_concat, ready_append]
    have after : (run (steady reader (moves ++ [move])) race).2 =
        ((run (steady reader moves) race).2.step reader move).2 := by
      rw [steady_concat, run_concat]
    rcases course with
      ⟨told, under⟩ | ⟨terminal, rest, before, earlier, ends, warranted, told, past⟩
    · rcases under.proceeds forthright move with
        ⟨more, speaks, goes⟩ | ⟨terminal, speaks, warranted, past⟩
      · refine ⟨items ++ more, goes.prefix_found, .inl ⟨?_, ?_⟩⟩
        · rw [heard, told, speaks, List.map_append]
        · rwa [after]
      · have ends : ready (run (steady reader (moves ++ [move])) race).1 =
            items.map .item ++ [terminal] := by
          rw [heard, told, speaks, Option.toList_some, ready_of_warranted warranted]
        rw [← after] at warranted past
        exact ⟨items, found,
          .inr ⟨terminal, 0, moves ++ [move], List.prefix_refl _, ends, warranted, ends, past⟩⟩
    · obtain ⟨past, count, speaks⟩ := past.step reader move
      refine ⟨items, found, .inr ⟨terminal, rest + count, before, ?_, ends, warranted, ?_, ?_⟩⟩
      · exact earlier.trans (List.prefix_append _ _)
      · rw [heard, told, speaks, List.append_assoc, List.cons_append,
          List.replicate_append_replicate]
      · rwa [after]

end Race

theorem forthright_rangeRead (c : Storage.Connection) :
    Reader.Forthright (Cache.rangeRead c) := by
  intro height
  have named : ∀ e, Cache.rangeRead c height = .error e →
      ∃ fault, e = .storage (.readingForRange height) fault := by
    intro e failed
    simp only [Cache.rangeRead, Cache.payloadForRange, Cache.during, Storage.Task.mapFailure]
      at failed
    split at failed
    · cases failed
    · rename_i fault after outcome
      exact ⟨fault, (Except.error.inj failed).symm⟩
  constructor
  all_goals
    intro failed
    obtain ⟨fault, wrong⟩ := named _ failed
    cases wrong

/-- Whatever the order of moves, the consumer of a range over a cache that nobody changes hears the
first of the blocks that reading its heights one after the other finds, then at most one answer that
ends the range, then only that it is over. At the moment it is given the ending answer is warranted:
a clean end and a failure of the cache come after all that there was to hand over, a cancellation
when the token has fired, an abort when the producer has died and the token has not fired. -/
theorem answers_of_schedule (c : Storage.Connection) (first last : Height) (capacity : Nat)
    (moves : List Move) :
    let reader := Cache.rangeRead c
    let found := sequential reader (heights first last)
    let ran (moves : List Move) :=
      Race.run (Race.steady reader moves) (.start first last capacity)
    ∃ items, items <+: found.1 ∧
      (ready (ran moves).1 = items.map .item ∨
        ∃ terminal rest before, before <+: moves ∧
          ready (ran before).1 = items.map .item ++ [terminal] ∧
          Warranted found items (ran before).2 terminal ∧
          ready (ran moves).1 = items.map .item ++ terminal :: List.replicate rest .ended) := by
  intro reader found ran
  have under := Race.underway_start reader first last capacity
  obtain ⟨items, begins, course⟩ := under.course (forthright_rangeRead c) moves
  refine ⟨items, begins, course.imp (fun told => told.1) ?_⟩
  rintro ⟨terminal, rest, before, earlier, ends, warranted, told, -⟩
  exact ⟨terminal, rest, before, earlier, ends, warranted, told⟩

end ChainStore.Range
