import ChainStore.Proofs.Range.Sequential

set_option autoImplicit false
set_option relaxedAutoImplicit false

/-!
What a range has still to tell: the events in its channel and those that its producer sends if
nothing disturbs it and the store reads the same all the time. No step of the producer changes them.
-/

namespace ChainStore.Range

def conclusion : Option Error → Event
  | none => .finished
  | some e => .failed e

/-- What has been found, as the events that tell it. -/
def story (found : List Item × Option Error) : List Event :=
  found.1.map .block ++ [conclusion found.2]

theorem conclusion_eq_finished {ending : Option Error} :
    conclusion ending = .finished ↔ ending = none := by
  cases ending <;> simp [conclusion]

theorem conclusion_eq_failed {ending : Option Error} {e : Error} :
    conclusion ending = .failed e ↔ ending = some e := by
  cases ending <;> simp [conclusion]

private theorem conclusion_ne_block (ending : Option Error) (item : Item) :
    conclusion ending ≠ .block item := by
  cases ending <;> simp [conclusion]

theorem story_of_none {reader : Reader} {height : Height} {rest : List Height}
    (missing : reader height = .ok none) :
    story (sequential reader (height :: rest)) = story (sequential reader rest) := by
  simp [sequential, missing, story]

theorem story_of_some {reader : Reader} {height : Height} {payload : Payload}
    {rest : List Height} (found : reader height = .ok (some payload)) :
    story (sequential reader (height :: rest)) =
      .block ⟨height, payload⟩ :: story (sequential reader rest) := by
  simp [sequential, found, story]

theorem story_of_error {reader : Reader} {height : Height} {e : Error} {rest : List Height}
    (failed : reader height = .error e) :
    story (sequential reader (height :: rest)) = [.failed e] := by
  simp [sequential, failed, story, conclusion]

theorem split_story {items : List Item} {found : List Item × Option Error} {tail : List Event}
    (begins : items.map Event.block ++ tail <+: story found) :
    ∃ rest, found.1 = items ++ rest ∧ tail <+: story (rest, found.2) := by
  obtain ⟨items', ending⟩ := found
  induction items generalizing items' with
  | nil => exact ⟨items', rfl, begins⟩
  | cons item items ih =>
    cases items' with
    | nil =>
      have ends : Event.block item = conclusion ending := (List.cons_prefix_cons.mp begins).1
      exact absurd ends.symm (conclusion_ne_block ending item)
    | cons other items' =>
      obtain ⟨same, begins⟩ := List.cons_prefix_cons.mp begins
      cases same
      obtain ⟨rest, found, later⟩ := ih items' begins
      exact ⟨rest, congrArg (List.cons item) found, later⟩

theorem prefix_of_story {items : List Item} {found : List Item × Option Error}
    {tail : List Event} (begins : items.map Event.block ++ tail <+: story found) :
    items <+: found.1 := by
  obtain ⟨rest, all, -⟩ := split_story begins
  exact ⟨rest, all.symm⟩

theorem conclusion_of_story {items : List Item} {found : List Item × Option Error} {event : Event}
    {later : List Event} (ends : ∀ item, event ≠ .block item)
    (begins : items.map Event.block ++ event :: later <+: story found) :
    items = found.1 ∧ event = conclusion found.2 := by
  obtain ⟨rest, all, begins⟩ := split_story begins
  cases rest with
  | nil => exact ⟨by rw [all, List.append_nil], (List.cons_prefix_cons.mp begins).1⟩
  | cons item rest => exact absurd (List.cons_prefix_cons.mp begins).1 (ends item)

theorem blocks_ne_story (items : List Item) (found : List Item × Option Error) :
    items.map Event.block ≠ story found := by
  intro same
  have member : conclusion found.2 ∈ items.map Event.block := by
    rw [same]
    exact List.mem_append_right _ (List.mem_singleton_self _)
  obtain ⟨item, _, ends⟩ := List.mem_map.mp member
  exact conclusion_ne_block found.2 item ends.symm

def Producer.events (reader : Reader) (last : Height) : Producer → List Event
  | .reading next => story (sequential reader (heightsFrom next last))
  | .offering (.block item) next =>
    .block item :: story (sequential reader (heightsFrom next last))
  | .offering event _ => [event]
  | .stopped => []

namespace Pipeline

/-- All that the consumer of a range hears if nothing disturbs its producer. -/
def outlook (reader : Reader) (p : Pipeline) : List Event :=
  p.queue ++ p.producer.events reader p.last

private theorem events_look (reader : Reader) (last : Height) (next : Nat) :
    (look reader last next).events reader last =
      story (sequential reader (heightsFrom next last)) := by
  by_cases within : next ≤ last.toNat
  · rw [look, if_pos within, heightsFrom_of_le within]
    cases outcome : reader (UInt32.ofNat next) with
    | error e => rw [story_of_error outcome]; rfl
    | ok found =>
      cases found with
      | none => rw [story_of_none outcome]; rfl
      | some payload => rw [story_of_some outcome]; rfl
  · rw [look, if_neg within, heightsFrom_of_lt (Nat.lt_of_not_le within)]
    rfl

private theorem events_sent (reader : Reader) (last : Height) (event : Event) (next : Nat) :
    event :: (sent event next).events reader last =
      (Producer.offering event next).events reader last := by
  cases event <;> rfl

/-- As long as the consumer listens, its producer does not change what is to be heard. -/
theorem outlook_advance {reader : Reader} {p : Pipeline} (opened : p.closed = false) :
    (p.advance reader).outlook reader = p.outlook reader := by
  unfold advance
  split
  · rfl
  · rename_i next reading
    simp only [outlook, reading, events_look]
    rfl
  · rename_i event next offering
    simp only [opened, Bool.false_eq_true, ↓reduceIte]
    split
    · simp only [outlook, offering, List.append_assoc, List.singleton_append, events_sent]
    · rfl

@[simp] theorem closed_advance (reader : Reader) (p : Pipeline) :
    (p.advance reader).closed = p.closed := by
  unfold advance
  repeat' split
  all_goals rfl

theorem advance_of_stopped {reader : Reader} {p : Pipeline} (gone : p.producer = .stopped) :
    p.advance reader = p := by
  simp only [advance, gone]

theorem outlook_halt (reader : Reader) (p : Pipeline) :
    p.halt.outlook reader <+: p.outlook reader := by
  simp only [outlook, halt, Producer.events, List.append_nil]
  exact List.prefix_append _ _

end Pipeline

end ChainStore.Range
