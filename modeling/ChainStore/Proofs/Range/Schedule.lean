import ChainStore.Range.Race

set_option autoImplicit false
set_option relaxedAutoImplicit false

/-!
Schedules of a range: how they compose, what they leave as it is, and that asking for the next block
of a range with a producer that works on demand is one of them.
-/

namespace ChainStore.Range

namespace Race

theorem run_append (moves more : List (Reader × Move)) (race : Race) :
    run (moves ++ more) race =
      ((run moves race).1 ++ (run more (run moves race).2).1,
        (run more (run moves race).2).2) := by
  induction moves generalizing race with
  | nil => rfl
  | cons move moves ih =>
    simp only [List.cons_append, run, ih, List.append_assoc]

theorem run_concat (moves : List (Reader × Move)) (reader : Reader) (move : Move) (race : Race) :
    run (moves ++ [(reader, move)]) race =
      ((run moves race).1 ++ ((run moves race).2.step reader move).1.toList,
        ((run moves race).2.step reader move).2) := by
  rw [run_append]
  simp only [run, List.append_nil]

theorem fired_step (reader : Reader) (race : Race) (move : Move) :
    (race.step reader move).2.fired = true ↔ race.fired = true ∨ move = .fire := by
  cases move with
  | notice | ask | take =>
    simp only [step]
    repeat' split
    all_goals simp
  | produce | die | fire => simp [step]

theorem fired_run (moves : List (Reader × Move)) (race : Race) :
    (run moves race).2.fired = true ↔
      race.fired = true ∨ ∃ entry ∈ moves, entry.2 = .fire := by
  induction moves generalizing race with
  | nil => simp [run]
  | cons entry moves ih =>
    simp only [run, ih, fired_step, List.mem_cons, exists_eq_or_imp, or_assoc]

theorem died_step {reader : Reader} {race : Race} {move : Move}
    (died : (race.step reader move).2.died = true) :
    race.died = true ∨ move = .die ∧ race.pipeline.producer ≠ .stopped := by
  cases move with
  | notice | ask | take =>
    simp only [step] at died
    repeat' split at died
    all_goals exact .inl died
  | produce | fire => exact .inl died
  | die => simpa [step] using died

theorem died_run {moves : List (Reader × Move)} {race : Race}
    (died : (run moves race).2.died = true) :
    race.died = true ∨ ∃ before reader after, moves = before ++ (reader, .die) :: after ∧
      (run before race).2.pipeline.producer ≠ .stopped := by
  induction moves generalizing race with
  | nil => exact .inl died
  | cons entry moves ih =>
    obtain ⟨reader, move⟩ := entry
    rcases ih died with early | ⟨before, other, after, rfl, working⟩
    · refine (died_step early).imp id ?_
      rintro ⟨rfl, working⟩
      exact ⟨[], reader, moves, rfl, working⟩
    · exact .inr ⟨(reader, move) :: before, other, after, rfl, working⟩

end Race

/-! ### The channel -/

structure Pipeline.Within (capacity : Nat) (p : Pipeline) : Prop where
  room : p.capacity = capacity
  bounded : p.queue.length ≤ capacity

namespace Pipeline

variable {capacity : Nat} {p : Pipeline}

theorem Within.advance (within : p.Within capacity) (reader : Reader) :
    (p.advance reader).Within capacity := by
  unfold Pipeline.advance
  split
  · exact within
  · exact ⟨within.room, within.bounded⟩
  · split
    · exact ⟨within.room, within.bounded⟩
    · split
      · rename_i free
        refine ⟨within.room, ?_⟩
        rw [List.length_append, List.length_singleton]
        have := within.room
        omega
      · exact within

theorem Within.glance {fired : Bool} {answer : Poll} {after : Pipeline}
    (within : p.Within capacity) (looked : p.glance fired = some (answer, after)) :
    after.Within capacity := by
  unfold Pipeline.glance at looked
  split at looked
  · cases looked
    exact within
  · split at looked
    · cases looked
      exact ⟨within.room, within.bounded⟩
    · cases looked

theorem Within.take (within : p.Within capacity) (fired : Bool) :
    (p.take fired).2.Within capacity := by
  cases queue : p.queue with
  | cons event rest =>
    have shorter : rest.length ≤ capacity := by
      have bounded := within.bounded
      rw [queue, List.length_cons] at bounded
      omega
    cases event <;> exact ⟨by simpa [Pipeline.take, queue] using within.room,
      by simpa [Pipeline.take, queue] using shorter⟩
  | nil =>
    simp only [Pipeline.take, queue]
    split
    · exact ⟨within.room, within.bounded⟩
    · exact within

end Pipeline

namespace Race

theorem within_step {capacity : Nat} {race : Race} (within : race.pipeline.Within capacity)
    (reader : Reader) (move : Move) : (race.step reader move).2.pipeline.Within capacity := by
  cases move with
  | produce => exact within.advance reader
  | notice =>
    simp only [step]
    split
    · exact ⟨within.room, within.bounded⟩
    · exact within
  | die => exact ⟨within.room, within.bounded⟩
  | fire => exact within
  | ask =>
    simp only [step]
    split
    · exact within
    · split
      · rename_i looked
        exact within.glance looked
      · exact within
  | take =>
    simp only [step]
    split
    · exact within.take race.fired
    · exact within

theorem within_start (first last : Height) (capacity : Nat) :
    (start first last capacity).pipeline.Within capacity := ⟨rfl, Nat.zero_le capacity⟩

theorem within_run {capacity : Nat} {race : Race} (within : race.pipeline.Within capacity)
    (moves : List (Reader × Move)) : (run moves race).2.pipeline.Within capacity := by
  induction moves generalizing race with
  | nil => exact within
  | cons entry moves ih => exact ih (within_step within entry.1 entry.2)

theorem channel_bounded (first last : Height) (capacity : Nat) (moves : List (Reader × Move)) :
    (run moves (start first last capacity)).2.pipeline.queue.length ≤ capacity :=
  (within_run (within_start first last capacity) moves).bounded

/-- A schedule over a store that reads the same at every move. -/
def steady (reader : Reader) (moves : List Move) : List (Reader × Move) :=
  moves.map (Prod.mk reader)

theorem steady_concat (reader : Reader) (moves : List Move) (move : Move) :
    steady reader (moves ++ [move]) = steady reader moves ++ [(reader, move)] := by
  rw [steady, List.map_append, List.map_singleton, steady]

theorem poll_is_run (reader : Reader) (p : Pipeline) (fired died : Bool) :
    run (steady reader [.ask, .take]) ⟨p, fired, died, false⟩ =
      ([(p.poll fired).1], ⟨(p.poll fired).2, fired, died, false⟩) := by
  cases looked : p.glance fired with
  | none => simp [steady, run, step, Pipeline.poll, looked]
  | some answer => simp [steady, run, step, Pipeline.poll, looked]

private theorem fill_is_run (ahead : Nat) (reader : Reader) (steps : Nat) (p : Pipeline)
    (fired died asking : Bool) :
    ∃ moves, run (steady reader moves) ⟨p, fired, died, asking⟩ =
      ([], ⟨p.fill ahead reader steps, fired, died, asking⟩) := by
  induction steps generalizing p with
  | zero => exact ⟨[], rfl⟩
  | succ steps ih =>
    by_cases wants : p.wants ahead = true
    · obtain ⟨moves, ran⟩ := ih (p.advance reader)
      refine ⟨.produce :: moves, ?_⟩
      rw [Pipeline.fill, if_pos wants, ← ran]
      rfl
    · exact ⟨[], by rw [Pipeline.fill, if_neg wants]; rfl⟩

theorem next_is_run (ahead : Nat) (reader : Reader) (p : Pipeline) (fired died : Bool) :
    ∃ moves, run (steady reader moves) ⟨p, fired, died, false⟩ =
      ([(p.next ahead reader fired).1], ⟨(p.next ahead reader fired).2, fired, died, false⟩) := by
  by_cases hasty : (p.closed || fired) = true
  · exact ⟨[.ask, .take], by rw [Pipeline.next, if_pos hasty, poll_is_run]⟩
  · obtain ⟨moves, ran⟩ := fill_is_run ahead reader p.patience p fired died false
    refine ⟨moves ++ [.ask, .take], ?_⟩
    rw [steady, List.map_append, ← steady, ← steady, run_append, ran, Pipeline.next, if_neg hasty,
      poll_is_run]
    rfl

end Race

end ChainStore.Range
