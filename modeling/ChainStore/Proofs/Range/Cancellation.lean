import ChainStore.Proofs.Range.Termination

set_option autoImplicit false
set_option relaxedAutoImplicit false

/-!
A token that fires while a range is read, or before. From then on the consumer hears of no block any
more, whatever is in the channel and however the store reads: a range that was not over is cancelled
by the next question, and is over after that. While the token has not fired, no range is cancelled.
-/

namespace ChainStore.Range

namespace Race

variable {race : Race}

def questions (moves : List (Reader × Move)) : Nat :=
  moves.countP fun entry => entry.2 == .ask

/-- What the next question hears once the token has fired. -/
def lastWord (race : Race) : Poll := if race.pipeline.closed then .ended else .failed .cancelled

private theorem answer_of_over (past : Over race) (reader : Reader) (move : Move) :
    (race.step reader move).1.toList = List.replicate (if move = .ask then 1 else 0) .ended := by
  cases move with
  | produce | notice | die | fire => rfl
  | ask => simp [step, past.idle, Pipeline.glance, past.closed]
  | take => simp [step, past.idle]

theorem answers_of_over (past : Over race) (moves : List (Reader × Move)) :
    (run moves race).1 = List.replicate (questions moves) .ended := by
  induction moves generalizing race with
  | nil => rfl
  | cons entry moves ih =>
    obtain ⟨reader, move⟩ := entry
    have rest := ih (past.step reader move).1
    simp only [run, answer_of_over past reader move, rest, List.replicate_append_replicate, questions,
      List.countP_cons, beq_iff_eq]
    rw [Nat.add_comm]

/-- Once the token has fired a range hands over no block any more: the next question hears that it
is cancelled, or, if the consumer had heard before how it ended, that it is over; every later
question hears that it is over. -/
theorem answers_of_fired (fired : race.fired = true) (idle : race.asking = false)
    (moves : List (Reader × Move)) :
    (run moves race).1 =
      (race.lastWord :: List.replicate (questions moves) .ended).take (questions moves) := by
  induction moves generalizing race with
  | nil => rfl
  | cons entry moves ih =>
    obtain ⟨reader, move⟩ := entry
    have quiet (other : move ≠ .ask) : (race.step reader move).1 = none ∧
        (race.step reader move).2.fired = true ∧ (race.step reader move).2.asking = false ∧
        (race.step reader move).2.lastWord = race.lastWord := by
      cases move with
      | produce => simp [step, fired, idle, lastWord]
      | notice => simp [step, fired, idle, lastWord, Pipeline.halt]
      | die => simp [step, fired, idle, lastWord, Pipeline.halt]
      | fire => simp [step, idle, lastWord]
      | take => simp [step, fired, idle]
      | ask => exact absurd rfl other
    by_cases asks : move = .ask
    · subst asks
      have asked : questions ((reader, .ask) :: moves) = questions moves + 1 := by
        simp [questions]
      have spoken : (race.step reader .ask).1 = some race.lastWord ∧
          Over (race.step reader .ask).2 := by
        cases closed : race.pipeline.closed with
        | true =>
          refine ⟨?_, ?_, ?_⟩ <;> simp [step, idle, Pipeline.glance, lastWord, closed]
        | false =>
          refine ⟨?_, ?_, ?_⟩ <;>
            simp [step, idle, fired, Pipeline.glance, Pipeline.close, lastWord, closed]
      have rest := answers_of_over spoken.2 moves
      simp only [run, spoken.1, rest, asked, Option.toList_some, List.singleton_append,
        List.take_succ_cons, List.take_replicate]
      congr 2
      omega
    · obtain ⟨silent, fired_next, idle_next, same⟩ := quiet asks
      have asked : questions ((reader, move) :: moves) = questions moves := by
        simp [questions, asks]
      have rest := ih fired_next idle_next
      simp only [run, silent, rest, same, asked, Option.toList_none, List.nil_append]

/-! ### A token that has not fired -/

/-- Nothing on its way to the consumer says that the range is cancelled. -/
structure Unspoken (p : Pipeline) : Prop where
  queue : .failed .cancelled ∉ p.queue
  producer : ∀ event next, p.producer = .offering event next → event ≠ .failed .cancelled

private theorem unspoken_advance {p : Pipeline} (unspoken : Unspoken p) {reader : Reader}
    (forthright : reader.Forthright) : Unspoken (p.advance reader) := by
  unfold Pipeline.advance
  split
  · exact unspoken
  · refine ⟨unspoken.queue, fun event next offers => ?_⟩
    simp only [Pipeline.look] at offers
    split at offers
    · split at offers
      · cases offers
      · cases offers
        simp
      · rename_i e failed
        cases offers
        rintro wrong
        exact (forthright _).1 (failed.trans (congrArg Except.error (Event.failed.inj wrong)))
    · cases offers
      simp
  · rename_i event next offers
    split
    · exact ⟨unspoken.queue, fun event next wrong => by cases wrong⟩
    · split
      · refine ⟨?_, fun other after wrong => ?_⟩
        · rw [List.mem_append, List.mem_singleton]
          rintro (queued | rfl)
          · exact unspoken.queue queued
          · exact unspoken.producer _ next offers rfl
        · cases event <;> cases wrong
      · exact unspoken

private theorem unspoken_take {p : Pipeline} (unspoken : Unspoken p) :
    Unspoken (p.take false).2 ∧ (p.take false).1 ≠ .failed .cancelled := by
  unfold Pipeline.take
  have shorter {event : Event} {rest : List Event} (queue : p.queue = event :: rest) :
      .failed .cancelled ∉ rest := by
    intro queued
    exact unspoken.queue (queue ▸ List.mem_cons_of_mem event queued)
  split
  · rename_i item rest queue
    exact ⟨⟨shorter queue, unspoken.producer⟩, by simp⟩
  · rename_i rest queue
    exact ⟨⟨shorter queue, unspoken.producer⟩, by simp⟩
  · rename_i e rest queue
    refine ⟨⟨shorter queue, unspoken.producer⟩, ?_⟩
    rintro same
    obtain rfl := Poll.failed.inj same
    exact unspoken.queue (queue ▸ List.mem_cons_self)
  · split
    · exact ⟨⟨unspoken.queue, unspoken.producer⟩, by simp⟩
    · exact ⟨unspoken, by simp⟩

private theorem unspoken_step (unspoken : Unspoken race.pipeline) {reader : Reader}
    (forthright : reader.Forthright) {move : Move}
    (live : (race.step reader move).2.fired = false) :
    Unspoken (race.step reader move).2.pipeline ∧
      (race.step reader move).1 ≠ some (.failed .cancelled) := by
  have before : race.fired = false := by
    rw [Bool.eq_false_iff] at live ⊢
    exact fun fired => live ((fired_step reader race move).mpr (.inl fired))
  have halted : Unspoken race.pipeline.halt :=
    ⟨unspoken.queue, fun event next wrong => by cases wrong⟩
  cases move with
  | produce => exact ⟨unspoken_advance unspoken forthright, by simp [step]⟩
  | notice =>
    simp only [step, before, Bool.false_eq_true, ↓reduceIte]
    exact ⟨unspoken, by simp⟩
  | die => exact ⟨halted, by simp [step]⟩
  | fire => cases live
  | ask =>
    simp only [step, Pipeline.glance, before]
    split
    · exact ⟨unspoken, by simp⟩
    · cases race.pipeline.closed <;> exact ⟨unspoken, by simp⟩
  | take =>
    simp only [step, before]
    split
    · obtain ⟨after, answer⟩ := unspoken_take unspoken
      exact ⟨after, fun same => answer (Option.some.inj same)⟩
    · exact ⟨unspoken, by simp⟩

theorem uncancelled_of_live (unspoken : Unspoken race.pipeline) {moves : List (Reader × Move)}
    (forthright : ∀ entry ∈ moves, entry.1.Forthright) (live : (run moves race).2.fired = false) :
    .failed .cancelled ∉ (run moves race).1 := by
  induction moves generalizing race with
  | nil => simp [run]
  | cons entry moves ih =>
    obtain ⟨reader, move⟩ := entry
    have live_step : (race.step reader move).2.fired = false := by
      rw [Bool.eq_false_iff] at live ⊢
      exact fun fired => live ((fired_run moves _).mpr (.inl fired))
    obtain ⟨next, answer⟩ :=
      unspoken_step unspoken (forthright (reader, move) List.mem_cons_self) live_step
    have rest := ih next (fun other member => forthright other (List.mem_cons_of_mem _ member)) live
    simp only [run, List.mem_append, Option.mem_toList]
    rintro (spoken | later)
    · exact answer spoken
    · exact rest later

theorem unspoken_start (first last : Height) (capacity : Nat) :
    Unspoken (start first last capacity).pipeline :=
  ⟨by simp [start, Pipeline.start], fun event next wrong => by cases wrong⟩

end Race

end ChainStore.Range
