import ChainStore.Proofs.Cache.Waiting
import ChainStore.Proofs.Range.Cancellation
import ChainStore.Proofs.Session.Unchanged

set_option autoImplicit false
set_option relaxedAutoImplicit false

/-!
Tokens in a session. An operation looks at its own token and at no other, and a range is opened
without a look at any token.
-/

namespace ChainStore.Session

namespace State

def openingReply (limits : Limits) (first last : Height) : Reply :=
  match Range.check first last limits.maxRangeSpan with
  | .error e => .failed e
  | .ok _ =>
    if limits.streamBuffer.toNat = 0 ∨ Range.maxCapacity < limits.streamBuffer.toNat then .crashed
    else .done

private theorem reply_streamOpen {s : State} {now : Int} {name stream : String}
    {token : Option String} {first last : Height} {handle : Handle}
    (named : s.handles.lookup name = some handle) :
    (s.carryOut now (.streamOpen name stream token first last)).1 =
      openingReply handle.limits first last := by
  simp only [carryOut, withHandle, named, streamOpen, Range.accept, openingReply]
  cases Range.check first last handle.limits.maxRangeSpan with
  | error e => rfl
  | ok _ =>
    by_cases unmade : handle.limits.streamBuffer.toNat = 0 ∨
        Range.maxCapacity < handle.limits.streamBuffer.toNat
    · simp only [if_pos unmade]
    · simp only [if_neg unmade]

private theorem perform_fire (s : State) (other : String) (handle : Handle) (call : Cache.Call) :
    (s.fire other).perform handle call =
      ((s.perform handle call).1, (s.perform handle call).2.fire other) := rfl

private theorem hasFired_fire {s : State} {token : Option String} {other : String}
    (foreign : token ≠ some other) : (s.fire other).hasFired token = s.hasFired token := by
  cases token with
  | none => rfl
  | some own =>
    have apart : own ≠ other := fun same => foreign (congrArg some same)
    simp [hasFired, fire, apart]

private theorem reply_call {s : State} {now : Int} {name : String} {token : Option String}
    {operation : Cache.Operation} {handle : Handle} (named : s.handles.lookup name = some handle) :
    s.carryOut now (.call name token operation) =
      (Reply.ofResult Reply.answer (s.perform handle ⟨operation, s.hasFired token, now⟩).1,
        (s.perform handle ⟨operation, s.hasFired token, now⟩).2) := by
  simp only [carryOut, withHandle, named]

private theorem failed_iff {answer : Except Error Cache.Answer} {e : Error} :
    Reply.ofResult Reply.answer answer = .failed e ↔ answer = .error e := by
  cases answer <;> simp [Reply.ofResult]

private theorem call_of_token {s : State} {now : Int} {name : String} {token : Option String}
    {operation : Cache.Operation} {handle : Handle} (named : s.handles.lookup name = some handle) :
    let told := s.carryOut now (.call name token operation)
    (told.1 = .failed .cancelled ↔ s.hasFired token = true) ∧
      (s.hasFired token = true → s.SameDatabases told.2) ∧
      ∀ other, token ≠ some other →
        ((s.fire other).carryOut now (.call name token operation)).1 = told.1 := by
  intro told
  have cancelled : (s.perform handle ⟨operation, s.hasFired token, now⟩).1 = .error .cancelled ↔
      s.hasFired token = true :=
    Cache.perform_cancelled_iff ⟨operation, s.hasFired token, now⟩ _
  have reply : told = _ := reply_call named
  refine ⟨?_, fun fired => ?_, fun other foreign => ?_⟩
  · rw [reply]
    exact failed_iff.trans cancelled
  · rw [reply]
    exact sameDatabases_perform (.inr ⟨_, cancelled.mpr fired⟩)
  · have there : (s.fire other).handles.lookup name = some handle := named
    rw [reply_call there, hasFired_fire foreign, perform_fire, reply]

/-- Cancellation is exact and final. Callers at one connection are served as if they had come one
after the other; those whose tokens fire before they begin to work are cancelled and have no effect,
and nobody else is. An operation of a session looks at its own token only. A range is opened, or
not, whatever tokens have fired. Once its token has fired a range is cancelled by the next question,
unless it was over, and over for all later ones, whatever is in the channel and in the store; before
that it is never cancelled. -/
theorem cancellation_exact :
    (∀ (c : Storage.Connection) (calls : List Cache.Call) (moves : List Cache.Shared.Move),
      Cache.Shared.Exact c calls moves) ∧
    (∀ (s : State) (now : Int) (name : String) (token : Option String)
      (operation : Cache.Operation) (handle : Handle), s.handles.lookup name = some handle →
        let told := s.carryOut now (.call name token operation)
        (told.1 = .failed .cancelled ↔ s.hasFired token = true) ∧
          (s.hasFired token = true → s.SameDatabases told.2) ∧
          ∀ other, token ≠ some other →
            ((s.fire other).carryOut now (.call name token operation)).1 = told.1) ∧
    (∀ (s : State) (fired : List String) (now : Int) (name stream : String)
      (token : Option String) (first last : Height) (handle : Handle),
      s.handles.lookup name = some handle →
        ({ s with fired := fired }.carryOut now (.streamOpen name stream token first last)).1 =
          openingReply handle.limits first last) ∧
    (∀ (race : Range.Race) (moves : List (Range.Reader × Range.Move)), race.fired = true →
      race.asking = false →
        let questions := moves.countP fun entry => entry.2 == .ask
        (Range.Race.run moves race).1 =
          ((if race.pipeline.closed then .ended else .failed .cancelled) ::
            List.replicate questions .ended).take questions) ∧
    ∀ (first last : Height) (capacity : Nat) (moves : List (Storage.Connection × Range.Move)),
      let ran := Range.Race.run (moves.map fun entry => (Cache.rangeRead entry.1, entry.2))
        (.start first last capacity)
      ran.2.fired = false → .failed .cancelled ∉ ran.1 := by
  refine ⟨Cache.Shared.exact_run, ?calls, ?openings, ?fired, ?live⟩
  case calls =>
    intro s now name token operation handle named
    exact call_of_token named
  case openings =>
    intro s fired now name stream token first last handle named
    exact reply_streamOpen (s := { s with fired := fired }) named
  case fired =>
    intro race moves fired idle
    exact Range.Race.answers_of_fired fired idle moves
  case live =>
    intro first last capacity moves ran live
    refine Range.Race.uncancelled_of_live (Range.Race.unspoken_start first last capacity)
      (fun entry member => ?_) live
    obtain ⟨⟨c, move⟩, -, rfl⟩ := List.mem_map.mp member
    exact Range.forthright_rangeRead c

end State

end ChainStore.Session
