import ChainStore.Proofs.Range.Schedule
import ChainStore.Proofs.Range.Sequential

set_option autoImplicit false
set_option relaxedAutoImplicit false

/-!
A producer reads every height at most once. So a range over a store that changes all the time goes
as if the store read the same all the time: at every height what it read when the producer came by.
-/

namespace ChainStore.Range

/-- Whether a producer may still read a height. -/
def Producer.MayRead (height : Height) : Producer → Prop
  | .reading next => next ≤ height.toNat
  | .offering (.block _) next => next ≤ height.toNat
  | _ => False

namespace Pipeline

def cursor? (p : Pipeline) : Option Height :=
  match p.producer with
  | .reading next => if next ≤ p.last.toNat then some (UInt32.ofNat next) else none
  | _ => none

variable {p : Pipeline} {height : Height}

theorem cursor_reading (here : p.cursor? = some height) :
    p.producer = .reading height.toNat ∧ height.toNat ≤ p.last.toNat := by
  unfold cursor? at here
  split at here
  · rename_i next reading
    split at here
    · rename_i within
      cases here
      rw [toNat_ofNat_of_le within]
      exact ⟨reading, within⟩
    · cases here
  · cases here

theorem advance_congr {reader other : Reader}
    (agree : ∀ height, p.cursor? = some height → reader height = other height) :
    p.advance reader = p.advance other := by
  cases producer : p.producer with
  | reading next =>
    by_cases within : next ≤ p.last.toNat
    · have same := agree (UInt32.ofNat next) (by simp [cursor?, producer, within])
      simp only [advance, producer, look, within, same]
    · simp only [advance, producer, look, within, ↓reduceIte]
  | offering event next => simp only [advance, producer]
  | stopped => simp only [advance, producer]

theorem mayRead_of_cursor (here : p.cursor? = some height) : p.producer.MayRead height := by
  rw [(cursor_reading here).1]
  exact Nat.le_refl _

private theorem mayRead_look {reader : Reader} {last : Height} {next : Nat}
    (later : (look reader last next).MayRead height) :
    next ≤ last.toNat ∧ next < height.toNat := by
  unfold look at later
  split at later
  · rename_i within
    split at later
    · exact ⟨within, later⟩
    · exact ⟨within, later⟩
    · exact later.elim
  · exact later.elim

theorem mayRead_advance {reader : Reader} (later : (p.advance reader).producer.MayRead height) :
    p.producer.MayRead height ∧ p.cursor? ≠ some height := by
  cases producer : p.producer with
  | stopped =>
    simp only [advance, producer] at later
    exact later.elim
  | reading next =>
    simp only [advance, producer] at later
    obtain ⟨within, past⟩ := mayRead_look later
    refine ⟨Nat.le_of_lt past, fun here => ?_⟩
    have same : Producer.reading next = .reading height.toNat := by
      rw [← producer, (cursor_reading here).1]
    cases same
    exact Nat.lt_irrefl _ past
  | offering event next =>
    refine ⟨?_, by simp [cursor?, producer]⟩
    simp only [advance, producer] at later
    split at later
    · exact later.elim
    · split at later
      · cases event with
        | block item => exact later
        | finished => exact later.elim
        | failed e => exact later.elim
      · rwa [producer] at later

end Pipeline

namespace Race

variable {race : Race} {height : Height}

def reads? (race : Race) (move : Move) : Option Height :=
  if move = .produce then race.pipeline.cursor? else none

private theorem step_congr {reader other : Reader} {move : Move}
    (agree : ∀ height, race.reads? move = some height → reader height = other height) :
    race.step reader move = race.step other move := by
  cases move with
  | produce => rw [step, step, Pipeline.advance_congr (by simpa [reads?] using agree)]
  | notice | die | fire | ask | take => rfl

private theorem mayRead_of_reads {move : Move} (here : race.reads? move = some height) :
    race.pipeline.producer.MayRead height := by
  unfold reads? at here
  split at here
  · exact Pipeline.mayRead_of_cursor here
  · cases here

private theorem producer_take (fired : Bool) (p : Pipeline) :
    (p.take fired).2.producer = p.producer := by
  unfold Pipeline.take
  repeat' split
  all_goals rfl

private theorem producer_glance {fired : Bool} {p after : Pipeline} {answer : Poll}
    (looked : p.glance fired = some (answer, after)) : after.producer = p.producer := by
  unfold Pipeline.glance at looked
  repeat' split at looked
  all_goals cases looked
  all_goals rfl

private theorem mayRead_step {reader : Reader} {move : Move}
    (later : (race.step reader move).2.pipeline.producer.MayRead height) :
    race.pipeline.producer.MayRead height ∧ race.reads? move ≠ some height := by
  cases move with
  | produce => exact Pipeline.mayRead_advance later
  | notice =>
    refine ⟨?_, by simp [reads?]⟩
    simp only [step] at later
    split at later
    · exact later.elim
    · exact later
  | die => exact later.elim
  | fire => exact ⟨later, by simp [reads?]⟩
  | ask =>
    refine ⟨?_, by simp [reads?]⟩
    simp only [step] at later
    split at later
    · exact later
    · split at later
      · rename_i looked
        rwa [producer_glance looked] at later
      · exact later
  | take =>
    refine ⟨?_, by simp [reads?]⟩
    simp only [step] at later
    split at later
    · rwa [producer_take] at later
    · exact later

/-- A range depends on the store at those heights only that its producer may still read. -/
theorem run_congr {reader other : Reader} (moves : List Move)
    (agree : ∀ height, race.pipeline.producer.MayRead height → reader height = other height) :
    run (steady reader moves) race = run (steady other moves) race := by
  induction moves generalizing race with
  | nil => rfl
  | cons move moves ih =>
    have step : race.step reader move = race.step other move :=
      step_congr fun height here => agree height (mayRead_of_reads here)
    have rest := @ih (race.step other move).2
      fun height later => agree height (mayRead_step later).1
    simp only [steady, List.map_cons, run, step] at rest ⊢
    rw [rest]

/-- Every schedule over a changing store is one over a store that reads the same all the time, and
at every height either as the changing store did at some move or, where that was never read, as one
likes. -/
theorem run_as_steady (unread : Except Error (Option Payload)) (moves : List (Reader × Move))
    (race : Race) :
    ∃ reader : Reader, run moves race = run (steady reader (moves.map Prod.snd)) race ∧
      ∀ height, reader height = unread ∨ ∃ entry ∈ moves, reader height = entry.1 height := by
  induction moves generalizing race with
  | nil => exact ⟨fun _ => unread, rfl, fun _ => .inl rfl⟩
  | cons entry moves ih =>
    obtain ⟨now, move⟩ := entry
    obtain ⟨later, same, source⟩ := ih (race.step now move).2
    -- The height read by this move is not read again, so the reading may be put in for good.
    let reader : Reader := fun height =>
      if race.reads? move = some height then now height else later height
    have first : race.step now move = race.step reader move :=
      step_congr fun height here => by simp [reader, here]
    have rest : run (steady later (moves.map Prod.snd)) (race.step now move).2 =
        run (steady reader (moves.map Prod.snd)) (race.step now move).2 :=
      run_congr _ fun height mayRead => by simp [reader, (mayRead_step mayRead).2]
    refine ⟨reader, ?_, fun height => ?_⟩
    · rw [rest, first] at same
      simp only [steady, List.map_cons, run, first] at same ⊢
      rw [same]
    · by_cases here : race.reads? move = some height
      · exact .inr ⟨(now, move), List.mem_cons_self, by simp [reader, here]⟩
      · refine (source height).imp (fun never => by simp [reader, here, never]) ?_
        rintro ⟨entry, member, read⟩
        exact ⟨entry, List.mem_cons_of_mem _ member, by simp [reader, here, read]⟩

end Race

end ChainStore.Range
