import ChainStore.Proofs.Range.Termination

set_option autoImplicit false
set_option relaxedAutoImplicit false

/-!
A range that nothing disturbs makes progress: while its producer lives and its token has not fired,
every question is answered in the end, with the blocks that reading one height after the other
finds, then with the failure if there was one, then only with the end.
-/

namespace ChainStore.Range

/-- The answer to the question with this number, counted from the first, of one who is told all that
has been found. -/
def told (found : List Item × Option Error) (question : Nat) : Poll :=
  ((found.1.map Poll.item ++ found.2.toList.map Poll.failed)[question]?).getD .ended

def farewell : Option Error → Poll
  | none => .ended
  | some e => .failed e

theorem told_item (item : Item) (items : List Item) (ending : Option Error) (count : Nat) :
    (List.range (count + 1)).map (told (item :: items, ending)) =
      .item item :: (List.range count).map (told (items, ending)) := by
  have later : told (item :: items, ending) ∘ Nat.succ = told (items, ending) := rfl
  rw [List.range_succ_eq_map, List.map_cons, List.map_map, later]
  rfl

private theorem told_items (items rest : List Item) (ending : Option Error) (count : Nat) :
    (List.range (items.length + count)).map (told (items ++ rest, ending)) =
      items.map .item ++ (List.range count).map (told (rest, ending)) := by
  induction items with
  | nil => simp
  | cons item items ih =>
    have longer : (item :: items).length + count = (items.length + count) + 1 := by
      rw [List.length_cons]
      omega
    rw [longer, List.cons_append, told_item, ih]
    rfl

theorem told_farewell (ending : Option Error) (count : Nat) :
    (List.range (count + 1)).map (told ([], ending)) =
      farewell ending :: List.replicate count .ended := by
  have later : (told ([], ending)) ∘ Nat.succ = fun _ => Poll.ended := by
    funext n
    cases ending <;> rfl
  have first : told ([], ending) 0 = farewell ending := by cases ending <;> rfl
  rw [List.range_succ_eq_map, List.map_cons, List.map_map, later, first, List.map_const',
    List.length_range]

namespace Pipeline

variable {reader : Reader} {p : Pipeline}

/-! ### The producer comes to send -/

/-- A bound on the steps that a producer takes until it has sent its next event. -/
def untilSent (last : Height) : Producer → Nat
  | .reading next => last.toNat + 1 - next + 2
  | .offering _ _ => 1
  | .stopped => 0

theorem untilSent_le_patience (p : Pipeline) : untilSent p.last p.producer ≤ p.patience := by
  unfold patience
  cases p.producer <;> simp only [untilSent] <;> omega

private theorem untilSent_look (reader : Reader) (last : Height) (next : Nat) :
    untilSent last (look reader last next) < untilSent last (.reading next) := by
  by_cases within : next ≤ last.toNat
  · rw [look, if_pos within]
    cases reader (UInt32.ofNat next) with
    | error e => simp [untilSent]
    | ok found =>
      cases found with
      | none =>
        simp only [untilSent]
        omega
      | some payload => simp [untilSent]
  · rw [look, if_neg within]
    simp [untilSent]

theorem outlook_fill (reader : Reader) {p : Pipeline} (opened : p.closed = false) (ahead steps : Nat) :
    (p.fill ahead reader steps).closed = false ∧
      (p.fill ahead reader steps).outlook reader = p.outlook reader := by
  induction steps generalizing p with
  | zero => exact ⟨opened, rfl⟩
  | succ steps ih =>
    unfold fill
    split
    · obtain ⟨stillOpen, same⟩ := ih ((closed_advance reader p).trans opened)
      exact ⟨stillOpen, same.trans (outlook_advance opened)⟩
    · exact ⟨opened, rfl⟩

@[simp] theorem capacity_advance (reader : Reader) (p : Pipeline) :
    (p.advance reader).capacity = p.capacity := by
  unfold advance
  repeat' split
  all_goals rfl

theorem capacity_fill (reader : Reader) (ahead steps : Nat) :
    (p.fill ahead reader steps).capacity = p.capacity := by
  induction steps generalizing p with
  | zero => rfl
  | succ steps ih =>
    unfold fill
    split
    · rw [ih, capacity_advance]
    · rfl

private theorem queue_advance (held : p.queue ≠ []) : (p.advance reader).queue ≠ [] := by
  unfold advance
  repeat' split
  all_goals simp [held]

private theorem queue_fill (held : p.queue ≠ []) (ahead steps : Nat) :
    (p.fill ahead reader steps).queue ≠ [] := by
  induction steps generalizing p with
  | zero => exact held
  | succ steps ih =>
    unfold fill
    split
    · exact ih (queue_advance held)
    · exact held

theorem fill_sends (room : 0 < p.capacity) (opened : p.closed = false) (ahead : Nat) {steps : Nat}
    (enough : untilSent p.last p.producer ≤ steps) :
    (p.fill ahead reader steps).queue ≠ [] ∨ (p.fill ahead reader steps).producer = .stopped := by
  induction steps generalizing p with
  | zero =>
    right
    show p.producer = .stopped
    cases producer : p.producer with
    | stopped => rfl
    | reading next | offering event next => simp [untilSent, producer] at enough
  | succ steps ih =>
    unfold fill
    split
    · rename_i wants
      cases producer : p.producer with
      | stopped => simp [Pipeline.wants, producer] at wants
      | reading next =>
        refine ih (by simpa using room) (by simpa using opened) ?_
        have sooner := untilSent_look reader p.last next
        rw [producer] at enough
        simp only [advance, producer]
        omega
      | offering event next =>
        have free : p.queue.length < p.capacity := by
          simp only [Pipeline.wants, producer, decide_eq_true_eq] at wants
          exact wants.2
        have sends : (p.advance reader).queue ≠ [] := by
          simp [advance, producer, opened, free]
        exact .inl (queue_fill sends ahead steps)
    · rename_i idle
      cases producer : p.producer with
      | stopped => exact .inr rfl
      | reading next | offering event next =>
        refine .inl fun empty => idle ?_
        simp [Pipeline.wants, producer, empty, room]

/-! ### Questions and answers -/

/-- A range whose consumer has still to be told all of `found`. -/
structure Telling (reader : Reader) (found : List Item × Option Error) (p : Pipeline) : Prop where
  opened : p.closed = false
  room : 0 < p.capacity
  tells : p.outlook reader = story found

variable {ahead : Nat} {items : List Item} {ending : Option Error}

private theorem Telling.filled {found : List Item × Option Error} (telling : Telling reader found p)
    (ahead : Nat) :
    ∃ event rest, p.next ahead reader false = (p.fill ahead reader p.patience).take false ∧
      (p.fill ahead reader p.patience).queue = event :: rest ∧
      event :: (rest ++ (p.fill ahead reader p.patience).producer.events reader
        (p.fill ahead reader p.patience).last) = story found := by
  obtain ⟨opened, same⟩ := outlook_fill reader telling.opened ahead p.patience
  have asks : p.next ahead reader false = (p.fill ahead reader p.patience).take false := by
    simp [Pipeline.next, poll, glance, telling.opened, opened]
  have tells := same.trans telling.tells
  rw [outlook] at tells
  cases queue : (p.fill ahead reader p.patience).queue with
  | cons event rest => exact ⟨event, rest, asks, rfl, by rwa [queue] at tells⟩
  | nil =>
    rcases fill_sends telling.room telling.opened ahead (untilSent_le_patience p) with held | gone
    · exact absurd queue held
    · have silent : ([] : List Event) = story found := by
        rw [← tells, queue, gone]
        rfl
      simp [story] at silent

theorem Telling.next_item {item : Item} (telling : Telling reader (item :: items, ending) p)
    (ahead : Nat) :
    ∃ after, p.next ahead reader false = (.item item, after) ∧
      Telling reader (items, ending) after := by
  obtain ⟨event, rest, asks, queue, tells⟩ := telling.filled ahead
  have opened := (outlook_fill reader telling.opened ahead p.patience).1
  have room := telling.room
  rw [← capacity_fill reader ahead p.patience] at room
  obtain ⟨rfl, later⟩ : event = .block item ∧ _ = story (items, ending) := List.cons.inj tells
  rw [asks, take, queue]
  exact ⟨_, rfl, opened, room, later⟩

theorem Telling.next_farewell (telling : Telling reader ([], ending) p) (ahead : Nat) :
    ∃ after, p.next ahead reader false = (farewell ending, after) ∧ after.closed = true := by
  obtain ⟨event, rest, asks, queue, tells⟩ := telling.filled ahead
  obtain ⟨rfl, -⟩ : event = conclusion ending ∧ _ = [] := List.cons.inj tells
  rw [asks, take, queue]
  cases ending <;> exact ⟨_, rfl, rfl⟩

theorem next_of_closed (past : p.closed = true) (ahead : Nat) :
    p.next ahead reader false = (.ended, p) := by
  simp [Pipeline.next, poll, glance, past]

def asked (ahead : Nat) (reader : Reader) : Nat → Pipeline → List Poll
  | 0, _ => []
  | count + 1, p =>
    match p.next ahead reader false with
    | (poll, rest) => poll :: asked ahead reader count rest

theorem asked_of_closed (past : p.closed = true) (ahead count : Nat) :
    p.asked ahead reader count = List.replicate count .ended := by
  induction count with
  | zero => rfl
  | succ count ih =>
    rw [asked, next_of_closed past]
    exact congrArg (List.cons .ended) ih

theorem Telling.asked (telling : Telling reader (items, ending) p) (ahead count : Nat) :
    p.asked ahead reader count = (List.range count).map (told (items, ending)) := by
  induction count generalizing p items with
  | zero => rfl
  | succ count ih =>
    rw [Pipeline.asked]
    cases items with
    | nil =>
      obtain ⟨after, answer, past⟩ := telling.next_farewell ahead
      rw [answer, told_farewell, ← asked_of_closed past ahead count]
    | cons item items =>
      obtain ⟨after, answer, more⟩ := telling.next_item ahead
      rw [answer, told_item, ← ih more]

theorem Telling.drain (telling : Telling reader (items, ending) p) (ahead : Nat) {count : Nat}
    (enough : items.length < count) : p.drain ahead reader false count = (items, ending) := by
  induction count generalizing p items with
  | zero => omega
  | succ count ih =>
    rw [Pipeline.drain]
    cases items with
    | nil =>
      obtain ⟨after, answer, -⟩ := telling.next_farewell ahead
      rw [answer]
      cases ending <;> rfl
    | cons item items =>
      obtain ⟨after, answer, more⟩ := telling.next_item ahead
      have fewer : items.length < count := by
        rw [List.length_cons] at enough
        omega
      simp only [answer, ih more fewer]

end Pipeline

theorem drain_start (reader : Reader) (first last : Height) {capacity : Nat}
    (room : 0 < capacity) (ahead : Nat) :
    let p := Pipeline.start first last capacity
    p.drain ahead reader false p.questions = sequential reader (heights first last) := by
  intro p
  have telling : p.Telling reader (sequential reader (heights first last)) := ⟨rfl, room, rfl⟩
  have fewer := (sublist_sequential reader (heights first last)).length_le
  refine telling.drain ahead ?_
  simp only [heights, List.length_map, List.length_range'] at fewer
  simp only [p, heights, Pipeline.questions, Pipeline.start, Pipeline.patience, List.length_nil]
  omega

/-- Collecting a range gives what reading its heights one after the other gives. -/
theorem collect_start (reader : Reader) (first last : Height) {capacity : Nat}
    (room : 0 < capacity) (ahead : Nat) :
    (Pipeline.start first last capacity).collect ahead reader false =
      match sequential reader (heights first last) with
      | (items, none) => .ok items
      | (_, some e) => .error e := by
  have drained := drain_start reader first last room ahead
  cases found : sequential reader (heights first last) with
  | mk items ending =>
    rw [found] at drained
    cases ending <;> simp only [Pipeline.collect, drained]

/-! ### Schedules without a disturbance -/

/-- Whether a move is part of the work of a range: neither does the token fire nor the producer
die. -/
def Move.calm : Move → Bool
  | .fire | .die => false
  | .produce | .notice | .ask | .take => true

private theorem calm_run (reader : Reader) (first last : Height) (capacity : Nat)
    {moves : List Move} (calm : ∀ move ∈ moves, move.calm = true) :
    let ran := Race.run (Race.steady reader moves) (.start first last capacity)
    ran.2.fired = false ∧ ran.2.died = false := by
  intro ran
  have within {other : Reader} {move : Move} (member : (other, move) ∈ Race.steady reader moves) :
      move.calm = true := by
    obtain ⟨made, there, same⟩ := List.mem_map.mp member
    rw [← (Prod.mk.inj same).2]
    exact calm made there
  constructor
  · rw [Bool.eq_false_iff]
    intro fired
    rcases (Race.fired_run _ _).mp fired with early | ⟨⟨other, move⟩, member, rfl⟩
    · cases early
    · exact absurd (within member) (by simp [Move.calm])
  · rw [Bool.eq_false_iff]
    intro died
    rcases Race.died_run died with early | ⟨before, other, after, split, -⟩
    · cases early
    · have member : (other, Move.die) ∈ Race.steady reader moves := by simp [split]
      exact absurd (within member) (by simp [Move.calm])

private theorem farewell_of_warranted {found : List Item × Option Error} {items : List Item}
    {race : Race} {terminal : Poll} (warranted : Warranted found items race terminal)
    (fresh : race.fired = false) (alive : race.died = false) :
    items = found.1 ∧ terminal = farewell found.2 := by
  cases terminal with
  | pending | item item => exact warranted.elim
  | ended => exact ⟨warranted.1, by rw [warranted.2]; rfl⟩
  | failed e =>
    cases e with
    | cancelled => exact absurd warranted (by simp [Warranted, fresh])
    | streamAborted => exact absurd warranted (by simp [Warranted, alive])
    | _ => exact ⟨warranted.1, by rw [warranted.2]; rfl⟩

private theorem Race.Underway.telling {reader : Reader} {heights : List Height}
    {items : List Item} {race : Race} (under : race.Underway reader heights items)
    (room : 0 < race.pipeline.capacity) (fresh : race.fired = false) (alive : race.died = false) :
    ∃ later, (sequential reader heights).1 = items ++ later ∧
      race.pipeline.Telling reader (later, (sequential reader heights).2) := by
  obtain ⟨later, all⟩ := under.prefix_found
  have whole : items.map Event.block ++ race.pipeline.outlook reader =
      story (sequential reader heights) := by
    rcases under.toTheEnd with whole | ⟨-, fired | died⟩
    · exact whole
    · exact absurd fired (by rw [fresh]; exact Bool.false_ne_true)
    · exact absurd died (by rw [alive]; exact Bool.false_ne_true)
  refine ⟨later, all.symm, under.opened, room, List.append_cancel_left (whole.trans ?_)⟩
  rw [story, ← all, List.map_append, List.append_assoc]
  rfl

/-- However the two sides of a range interleave, and however often it is asked for more from then
on: the answers are what the consumer is told of what reading one height after the other finds. -/
theorem answers_of_calm {reader : Reader} (forthright : reader.Forthright) (first last : Height)
    {capacity : Nat} (room : 0 < capacity) {moves : List Move}
    (calm : ∀ move ∈ moves, move.calm = true) (ahead count : Nat) :
    let ran := Race.run (Race.steady reader moves) (.start first last capacity)
    ready ran.1 ++ ran.2.pipeline.asked ahead reader count =
      (List.range ((ready ran.1).length + count)).map
        (told (sequential reader (heights first last))) := by
  intro ran
  have under := Race.underway_start reader first last capacity
  obtain ⟨items, begins, course⟩ := under.course forthright moves
  rcases course with
    ⟨heard, under⟩ | ⟨terminal, rest, before, earlier, -, warranted, heard, past⟩
  · obtain ⟨fresh, alive⟩ := calm_run reader first last capacity calm
    have channel := (Race.within_run (Race.within_start first last capacity)
      (Race.steady reader moves)).room
    obtain ⟨later, all, telling⟩ := under.telling (by rw [channel]; exact room) fresh alive
    have found : sequential reader (heights first last) =
        (items ++ later, (sequential reader (heights first last)).2) := Prod.ext all rfl
    rw [heard, telling.asked ahead count, found, List.length_map, told_items]
  · have early : ∀ move ∈ before, move.calm = true :=
      fun move member => calm move (earlier.subset member)
    obtain ⟨fresh, alive⟩ := calm_run reader first last capacity early
    obtain ⟨all, ends⟩ := farewell_of_warranted warranted fresh alive
    have found : sequential reader (heights first last) =
        (items ++ [], (sequential reader (heights first last)).2) := by
      rw [List.append_nil, all]
    have counted : (items.map Poll.item ++ terminal :: List.replicate rest .ended).length + count =
        items.length + ((rest + count) + 1) := by
      simp only [List.length_append, List.length_map, List.length_cons, List.length_replicate]
      omega
    rw [heard, Pipeline.asked_of_closed past.closed, counted, found, told_items, told_farewell,
      ends, List.append_assoc, List.cons_append, List.replicate_append_replicate]

/-- What collecting makes of all that has been found: a failure is all that is left with it. -/
def gathered : List Item × Option Error → Except Error (List Item)
  | (items, none) => .ok items
  | (_, some e) => .error e

/-- A range that nothing disturbs tells all that has been found: to whoever asks, however the two
sides interleave before and however often he asks from then on, and to whoever collects it. -/
structure Tells (reader : Reader) (pipeline : Pipeline) (found : List Item × Option Error) :
    Prop where
  hears : ∀ (moves : List Move) (ahead count : Nat), (∀ move ∈ moves, move.calm = true) →
    let ran := Race.run (Race.steady reader moves) ⟨pipeline, false, false, false⟩
    ready ran.1 ++ ran.2.pipeline.asked ahead reader count =
      (List.range ((ready ran.1).length + count)).map (told found)
  collects : ∀ ahead, pipeline.collect ahead reader false = gathered found

theorem tells_start {reader : Reader} (forthright : reader.Forthright) (first last : Height)
    {capacity : Nat} (room : 0 < capacity) :
    Tells reader (.start first last capacity) (sequential reader (heights first last)) where
  hears _ ahead count calm := answers_of_calm forthright first last room calm ahead count
  collects ahead := collect_start reader first last room ahead

end ChainStore.Range
