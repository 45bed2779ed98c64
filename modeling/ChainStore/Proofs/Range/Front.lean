import ChainStore.Proofs.Range.Provenance

set_option autoImplicit false
set_option relaxedAutoImplicit false

/-!
What is in front of a range: the heights of the blocks on their way, and the next height that its
producer reads. They ascend, and the consumer has passed all heights below them, so what a store
holds at heights that were passed does not matter to the range any more.
-/

namespace ChainStore.Range

def Event.height? : Event → Option Nat
  | .block item => some item.height.toNat
  | .finished | .failed _ => none

/-- The heights in front of a producer: that of a block which it holds, and the next to be read. -/
def Producer.front : Producer → List Nat
  | .reading next => [next]
  | .offering (.block item) next => [item.height.toNat, next]
  | _ => []

def passed (answers : List Poll) : List Nat :=
  (yielded answers).map fun item => item.height.toNat

theorem passed_append (answers more : List Poll) :
    passed (answers ++ more) = passed answers ++ passed more := by
  simp only [passed, yielded, List.filterMap_append, List.map_append]

def AgreeBeyond (past : List Nat) (first last : Height) (reader other : Reader) : Prop :=
  ∀ height : Height, first.toNat ≤ height.toNat → height.toNat ≤ last.toNat →
    (∀ n ∈ past, n < height.toNat) → reader height = other height

namespace Pipeline

def front (p : Pipeline) : List Nat := p.queue.filterMap Event.height? ++ p.producer.front

/-- A range of which the heights in `past` have been passed. -/
structure Ahead (past : List Nat) (first : Height) (p : Pipeline) : Prop where
  ascending : (past ++ p.front).Pairwise (· < ·)
  begun : ∀ n ∈ p.front, first.toNat ≤ n

variable {past : List Nat} {first : Height} {p : Pipeline}

theorem ahead_start (first last : Height) (capacity : Nat) :
    (start first last capacity).Ahead [] first where
  ascending := List.pairwise_singleton _ _
  begun := by
    intro n member
    rw [List.mem_singleton.mp member]

/-! ### The producer -/

/-- What no step of a range changes: its last height and the room of its channel. -/
def frame (p : Pipeline) : Height × Nat := (p.last, p.capacity)

private theorem frame_advance (reader : Reader) (p : Pipeline) :
    (p.advance reader).frame = p.frame := by
  unfold advance
  repeat' split
  all_goals rfl

private theorem pairwise_look {before : List Nat} {next : Nat}
    (ascending : (before ++ [next]).Pairwise (· < ·)) (reader : Reader) (last : Height) :
    (before ++ (look reader last next).front).Pairwise (· < ·) := by
  obtain ⟨below, -, apart⟩ := List.pairwise_append.mp ascending
  have lower : ∀ n ∈ before, n < next := fun n member => apart n member next (by simp)
  unfold look
  split
  · rename_i within
    split
    · refine List.pairwise_append.mpr
        ⟨below, List.pairwise_singleton _ _, fun n member m here => ?_⟩
      rw [List.mem_singleton.mp here]
      exact Nat.lt_succ_of_lt (lower n member)
    · simp only [Producer.front, toNat_ofNat_of_le within]
      refine List.pairwise_append.mpr ⟨below, by simp, fun n member m here => ?_⟩
      have := lower n member
      rcases List.mem_cons.mp here with rfl | here
      · exact this
      · rw [List.mem_singleton.mp here]
        omega
    · simpa [Producer.front] using below
  · simpa [Producer.front] using below

private theorem begun_look {next : Nat} {n : Nat} {reader : Reader} {last : Height}
    (member : n ∈ (look reader last next).front) : next ≤ n := by
  unfold look at member
  split at member
  · rename_i within
    split at member
    · rw [List.mem_singleton.mp member]
      exact Nat.le_succ next
    · simp only [Producer.front, toNat_ofNat_of_le within] at member
      rcases List.mem_cons.mp member with rfl | member
      · exact Nat.le_refl _
      · rw [List.mem_singleton.mp member]
        exact Nat.le_succ next
    · cases member
  · cases member

private theorem front_sent (queue : List Event) (event : Event) (next : Nat) :
    (queue ++ [event]).filterMap Event.height? ++ (sent event next).front =
      queue.filterMap Event.height? ++ (Producer.offering event next).front := by
  cases event <;> simp [Event.height?, sent, Producer.front]

theorem Ahead.advance (ahead : p.Ahead past first) (reader : Reader) :
    (p.advance reader).Ahead past first := by
  obtain ⟨ascending, begun⟩ := ahead
  unfold front at ascending begun
  cases producer : p.producer with
  | stopped => exact ⟨by simpa [Pipeline.advance, producer, front] using ascending,
      by simpa [Pipeline.advance, producer, front] using begun⟩
  | reading next =>
    rw [producer] at ascending begun
    simp only [Pipeline.advance, producer]
    refine ⟨?_, fun n member => ?_⟩
    · rw [← List.append_assoc] at ascending
      rw [front, ← List.append_assoc]
      exact pairwise_look ascending reader p.last
    · rcases List.mem_append.mp member with queued | later
      · exact begun n (List.mem_append_left _ queued)
      · exact (begun next (by simp [Producer.front])).trans (begun_look later)
  | offering event next =>
    rw [producer] at ascending begun
    simp only [Pipeline.advance, producer]
    split
    · refine ⟨?_, fun n member => begun n ?_⟩
      · rw [← List.append_assoc] at ascending
        simpa [front, Producer.front] using ascending.sublist (List.sublist_append_left _ _)
      · exact List.mem_append_left _ (by simpa [front, Producer.front] using member)
    · split
      · constructor
        · simpa only [front, front_sent] using ascending
        · simpa only [front, front_sent] using begun
      · exact ⟨by simpa [front, producer] using ascending, by simpa [front, producer] using begun⟩

theorem Ahead.beyond (ahead : p.Ahead past first) {height : Height}
    (here : p.cursor? = some height) :
    first.toNat ≤ height.toNat ∧ height.toNat ≤ p.last.toNat ∧ ∀ n ∈ past, n < height.toNat := by
  obtain ⟨reading, within⟩ := cursor_reading here
  have member : height.toNat ∈ p.front := by
    rw [front, reading]
    exact List.mem_append_right _ (List.mem_singleton_self _)
  refine ⟨ahead.begun _ member, within, fun n gone => ?_⟩
  exact (List.pairwise_append.mp ahead.ascending).2.2 n gone _ member

/-! ### The consumer -/

private theorem poll_eq (fired : Bool) (p : Pipeline) :
    p.poll fired =
      if p.closed then (.ended, p)
      else if fired then (.failed .cancelled, p.close) else p.take fired := by
  unfold poll glance
  split
  · rfl
  · split <;> rfl

private theorem frame_poll (fired : Bool) (p : Pipeline) : (p.poll fired).2.frame = p.frame := by
  rw [poll_eq]
  unfold take
  repeat' split
  all_goals rfl

private theorem Ahead.take (ahead : p.Ahead past first) (fired : Bool) :
    (p.take fired).2.Ahead (past ++ passed [(p.take fired).1]) first := by
  obtain ⟨ascending, begun⟩ := ahead
  unfold front at ascending begun
  cases queue : p.queue with
  | nil =>
    simp only [Pipeline.take, queue]
    split <;> exact ⟨by simpa [front, close, queue, passed, yielded] using ascending,
      by simpa [front, close, queue] using begun⟩
  | cons event rest =>
    rw [queue] at ascending begun
    cases event with
    | block item =>
      simp only [Pipeline.take, queue]
      refine ⟨?_, fun n member => begun n ?_⟩
      · simpa [front, Event.height?, passed, yielded] using ascending
      · exact List.mem_cons_of_mem _ member
    | finished | failed e =>
      simp only [Pipeline.take, queue, passed, yielded, List.filterMap_cons, List.filterMap_nil,
        List.map_nil, List.append_nil]
      exact ⟨ascending, begun⟩

theorem Ahead.poll (ahead : p.Ahead past first) (fired : Bool) :
    (p.poll fired).2.Ahead (past ++ passed [(p.poll fired).1]) first := by
  have silent {answer : Poll} (quiet : passed [answer] = []) :
      p.Ahead (past ++ passed [answer]) first := by
    rwa [quiet, List.append_nil]
  rw [poll_eq]
  split
  · exact silent rfl
  · split
    · exact ⟨(silent rfl).ascending, ahead.begun⟩
    · exact ahead.take fired

/-! ### Channels of different room -/

def withRoom (capacity : Nat) (p : Pipeline) : Pipeline := { p with capacity := capacity }

theorem wants_withRoom {ahead capacity : Nat} {p : Pipeline}
    (room : min (ahead + 1) capacity = min (ahead + 1) p.capacity) :
    (p.withRoom capacity).wants ahead = p.wants ahead := by
  have same : (p.queue.length ≤ ahead ∧ p.queue.length < capacity) ↔
      (p.queue.length ≤ ahead ∧ p.queue.length < p.capacity) := by omega
  unfold wants withRoom
  simp only
  split
  · rfl
  · rw [Bool.eq_iff_iff, decide_eq_true_iff, decide_eq_true_iff, same]

private theorem advance_withRoom {capacity : Nat} {p : Pipeline} (reader : Reader)
    (room : p.queue.length < p.capacity) (room' : p.queue.length < capacity) :
    (p.withRoom capacity).advance reader = (p.advance reader).withRoom capacity := by
  cases producer : p.producer with
  | stopped => simp only [advance, withRoom, producer]
  | reading next => simp only [advance, withRoom, producer]
  | offering event next =>
    simp only [advance, withRoom, producer, room, room', ↓reduceIte]
    split <;> rfl

private theorem room_of_wants {ahead : Nat} {p : Pipeline} (wants : p.wants ahead = true) :
    p.queue.length < p.capacity := by
  unfold Pipeline.wants at wants
  split at wants
  · cases wants
  · exact (of_decide_eq_true wants).2

theorem Ahead.fill {reader other : Reader} (ahead : p.Ahead past first)
    (agree : AgreeBeyond past first p.last reader other) {count capacity : Nat}
    (room : min (count + 1) capacity = min (count + 1) p.capacity) (steps : Nat) :
    (p.withRoom capacity).fill count other steps =
        (p.fill count reader steps).withRoom capacity ∧
      (p.fill count reader steps).Ahead past first ∧
      (p.fill count reader steps).frame = p.frame := by
  induction steps generalizing p with
  | zero => exact ⟨rfl, ahead, rfl⟩
  | succ steps ih =>
    have same := wants_withRoom room
    by_cases wants : p.wants count = true
    · have free : p.queue.length < capacity :=
        room_of_wants (p := p.withRoom capacity) (same.trans wants)
      have kept := frame_advance reader p
      obtain ⟨last, wide⟩ := Prod.mk.inj kept
      have read : p.advance reader = p.advance other := advance_congr fun height here => by
        obtain ⟨low, high, past⟩ := ahead.beyond here
        exact agree height low high past
      obtain ⟨filled, ahead', kept'⟩ :=
        ih (ahead.advance reader) (by rw [last]; exact agree) (by rw [wide, room])
      rw [Pipeline.fill, Pipeline.fill, if_pos (same.trans wants), if_pos wants,
        advance_withRoom other (room_of_wants wants) free, ← read]
      exact ⟨filled, ahead', kept'.trans kept⟩
    · rw [Pipeline.fill, Pipeline.fill, if_neg (by rwa [same]), if_neg wants]
      exact ⟨rfl, ahead, rfl⟩

private theorem poll_withRoom (capacity : Nat) (p : Pipeline) (fired : Bool) :
    (p.withRoom capacity).poll fired =
      ((p.poll fired).1, (p.poll fired).2.withRoom capacity) := by
  have taken : (p.withRoom capacity).take fired =
      ((p.take fired).1, (p.take fired).2.withRoom capacity) := by
    unfold take withRoom
    simp only
    repeat' split
    all_goals rfl
  have closed : (p.withRoom capacity).closed = p.closed := rfl
  rw [poll_eq, poll_eq, closed, taken]
  split
  · rfl
  · split <;> rfl

/-- A question is answered alike over two stores that are read alike at the heights that were not
passed, and with channels of different room as long as that makes no difference to what is kept
waiting. -/
theorem Ahead.next {reader other : Reader} (ahead : p.Ahead past first)
    (agree : AgreeBeyond past first p.last reader other) {count capacity : Nat}
    (room : min (count + 1) capacity = min (count + 1) p.capacity) (fired : Bool) :
    (p.withRoom capacity).next count other fired =
        ((p.next count reader fired).1, (p.next count reader fired).2.withRoom capacity) ∧
      (p.next count reader fired).2.Ahead (past ++ passed [(p.next count reader fired).1]) first ∧
      (p.next count reader fired).2.frame = p.frame := by
  unfold Pipeline.next
  have closed : (p.withRoom capacity).closed = p.closed := rfl
  have patience : (p.withRoom capacity).patience = p.patience := rfl
  rw [closed, patience]
  split
  · exact ⟨poll_withRoom capacity p fired, ahead.poll fired, frame_poll fired p⟩
  · obtain ⟨filled, ahead', kept⟩ := ahead.fill agree room p.patience
    rw [filled]
    exact ⟨poll_withRoom capacity _ fired, ahead'.poll fired, (frame_poll fired _).trans kept⟩

end Pipeline

end ChainStore.Range
