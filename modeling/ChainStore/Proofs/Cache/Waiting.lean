import ChainStore.Cache.Waiting
import ChainStore.Proofs.Cache.Lookup

set_option autoImplicit false
set_option relaxedAutoImplicit false

/-!
Callers at one connection. However they get into each other's way, they are served one after the
other in the order of their answers. Those whose token has fired before they begin to work are told
so and have no effect; nobody else is ever told that.
-/

namespace ChainStore.Storage.Task

variable {ε α β : Type}

def Avoids (e : ε) (task : Task ε α) : Prop := ∀ c, (task.run c).1 ≠ .error e

theorem avoids_pure (e : ε) (a : α) : (pure a : Task ε α).Avoids e := by
  intro c failed
  cases failed

theorem Avoids.bind {e : ε} {task : Task ε α} {next : α → Task ε β} (first : task.Avoids e)
    (second : ∀ a, (next a).Avoids e) : (task >>= next).Avoids e := by
  intro c
  rw [run_bind]
  have fine := first c
  split
  · rename_i a after ran
    exact second a after
  · rename_i fault after ran
    rw [ran] at fine
    exact fun failed => fine (congrArg Except.error (Except.error.inj failed))

theorem Avoids.map {e : ε} {task : Task ε α} (fine : task.Avoids e) (f : α → β) :
    (f <$> task).Avoids e :=
  fine.bind fun a => avoids_pure e (f a)

theorem Avoids.atomically {e : ε} {task : Task ε α} (fine : task.Avoids e) :
    (Task.atomically task).Avoids e := by
  intro c
  rw [answer_atomically]
  exact fine c

theorem avoids_mapFailure {ε' : Type} {e : ε'} {report : ε → ε'} (apart : ∀ fault, report fault ≠ e)
    (task : Task ε α) : (task.mapFailure report).Avoids e := by
  intro c failed
  unfold mapFailure at failed
  simp only at failed
  split at failed
  · cases failed
  · exact apart _ (Except.error.inj failed)

end ChainStore.Storage.Task

namespace ChainStore.Cache

open Storage

/-! ### Operations -/

private theorem avoids_during {α : Type} (activity : Activity) (statement : Statement α) :
    (during activity statement).Avoids .cancelled :=
  Task.avoids_mapFailure (fun _ wrong => by cases wrong) statement

private theorem avoids_following {α : Type} (height : Height) (statement : Statement α) :
    (following height statement).Avoids .cancelled :=
  Task.avoids_mapFailure (fun _ wrong => by cases wrong) statement

private theorem avoids_lookup {α : Type} (activity : Activity) (subject : Subject)
    (read : Database → Except Fault (Option α)) :
    (during activity (query read) >>= found subject).Avoids .cancelled := by
  refine (avoids_during activity _).bind fun result => ?_
  cases result with
  | none =>
    intro c failed
    cases failed
  | some a => exact Task.avoids_pure _ a

theorem avoids_action (operation : Operation) (now : Int) :
    (operation.action now).Avoids .cancelled := by
  cases operation with
  | tipHeight => exact (avoids_lookup _ _ _).map _
  | tip => exact (avoids_lookup _ _ _).map _
  | payloadAt height => exact (avoids_lookup _ _ _).map _
  | blockAt height => exact (avoids_lookup _ _ _).map _
  | hashAt height => exact (avoids_lookup _ _ _).map _
  | payloadWithHash hash => exact ((avoids_lookup _ _ _).bind fun _ => Task.avoids_pure _ _).map _
  | blockWithHash hash => exact (avoids_lookup _ _ _).map _
  | transaction key => exact (avoids_lookup _ _ _).map _
  | setTip height => exact (avoids_during _ _).map _
  | putBlock block => exact (avoids_during _ _).map _
  | removeBlock height => exact ((avoids_during _ _).bind fun _ => Task.avoids_pure _ _).map _
  | addTransaction transaction => exact (avoids_during _ _).map _
  | removeTransactions height => exact (avoids_during _ _).map _
  | acceptBlock block =>
    exact (((avoids_during _ _).bind fun _ => (avoids_during _ _).bind fun _ =>
      avoids_following _ _).atomically).map _
  | rollBack height =>
    exact (((avoids_during _ _).bind fun _ => (avoids_during _ _).bind fun _ =>
      (avoids_during _ _).bind fun _ => (avoids_following _ _).bind fun _ =>
        Task.avoids_pure _ _).atomically).map _

theorem perform_cancelled_iff (call : Call) (c : Connection) :
    (call.perform c).1 = .error .cancelled ↔ call.fired = true := by
  unfold Call.perform
  cases fired : call.fired with
  | true => simp
  | false => simpa using avoids_action call.operation call.now c

theorem perform_fired {call : Call} (fired : call.fired = true) (c : Connection) :
    call.perform c = (.error .cancelled, c) := by
  rw [Call.perform, if_pos fired]

namespace Shared

/-! ### Moves -/

inductive Passage (s : Shared) : Move → Option (Nat × Entry) × Shared → Prop where
  | rest (move : Move) : Passage s move (none, s)
  | wait {number : Nat} {caller : Caller} (there : s.callers[number]? = some caller)
      (stage : caller.stage = .arriving) (live : caller.call.fired = false) :
      Passage s (.proceed number) (none, s.enter number caller .waiting)
  | obtainHold {number : Nat} {caller : Caller} (there : s.callers[number]? = some caller)
      (stage : caller.stage = .waiting) (free : s.busy = false) :
      Passage s (.proceed number) (none, s.enter number caller .admitted)
  | work {number : Nat} {caller : Caller} (there : s.callers[number]? = some caller)
      (stage : caller.stage = .admitted) (live : caller.call.fired = false) :
      Passage s (.proceed number) (none, s.enter number caller (.working s.connection))
  | cancel {number : Nat} {caller : Caller} (there : s.callers[number]? = some caller)
      (undecided : caller.stage.undecided = true) (fired : caller.call.fired = true) :
      Passage s (.proceed number)
        (some (number, ⟨caller.call, .error .cancelled⟩), s.enter number caller .answered)
  | finish {number : Nat} {caller : Caller} {found : Connection}
      (there : s.callers[number]? = some caller) (stage : caller.stage = .working found) :
      Passage s (.proceed number)
        (some (number, ⟨{ caller.call with fired := false },
          (Call.perform { caller.call with fired := false } found).1⟩),
          { s.enter number caller .answered with
            connection := (Call.perform { caller.call with fired := false } found).2 })
  | lapse {number : Nat} {caller : Caller} (there : s.callers[number]? = some caller)
      (stage : caller.stage = .waiting) :
      Passage s (.lapse number) (none, s.enter number caller .arriving)
  | fire {number : Nat} {caller : Caller} (there : s.callers[number]? = some caller) :
      Passage s (.fire number) (none,
        s.enter number { caller with call := { caller.call with fired := true } } caller.stage)

theorem passage_step (s : Shared) (move : Move) : Passage s move (s.step move) := by
  cases move with
  | proceed number =>
    unfold step
    simp only
    split
    · exact .rest _
    · rename_i caller there
      unfold proceed
      cases stage : caller.stage with
      | arriving =>
        cases fired : caller.call.fired with
        | true => exact .cancel there (by rw [stage]; rfl) fired
        | false => exact .wait there stage fired
      | waiting =>
        cases free : s.busy with
        | true => exact .rest _
        | false => exact .obtainHold there stage free
      | admitted =>
        cases fired : caller.call.fired with
        | true => exact .cancel there (by rw [stage]; rfl) fired
        | false => exact .work there stage fired
      | working found => exact .finish there stage
      | answered => exact .rest _
  | lapse number =>
    unfold step
    simp only
    split
    · rename_i call there
      exact .lapse there rfl
    · exact .rest _
  | fire number =>
    unfold step
    simp only
    split
    · exact .rest _
    · rename_i caller there
      exact .fire there

theorem getElem?_enter {s : Shared} {number : Nat} {old : Caller}
    (there : s.callers[number]? = some old) (caller : Caller) (stage : Stage) (i : Nat) :
    (s.enter number caller stage).callers[i]? =
      if i = number then some { caller with stage := stage } else s.callers[i]? := by
  have within : number < s.callers.length := (List.getElem?_eq_some_iff.mp there).1
  simp only [enter, List.getElem?_set]
  split
  · rename_i same
    simp [same]
  · rename_i apart
    rw [if_neg fun same => apart same.symm]

/-! ### One at a time -/

/-- At most one caller has hold of the connection, and one who works has found it as it is. -/
structure Orderly (s : Shared) : Prop where
  alone : ∀ (i j : Nat) (one other : Caller), s.callers[i]? = some one →
    s.callers[j]? = some other → one.stage.holds = true → other.stage.holds = true → i = j
  found : ∀ (i : Nat) (caller : Caller) (found : Connection), s.callers[i]? = some caller →
    caller.stage = .working found → found = s.connection

theorem orderly_start (c : Connection) (calls : List Call) : (start c calls).Orderly := by
  have arriving : ∀ (i : Nat) (caller : Caller), (start c calls).callers[i]? = some caller →
      caller.stage = .arriving := by
    intro i caller there
    simp only [start, List.getElem?_map, Option.map_eq_some_iff] at there
    obtain ⟨call, -, rfl⟩ := there
    rfl
  refine ⟨fun i j one other there _ holds _ => ?_, fun i caller found there works => ?_⟩
  · rw [arriving i one there] at holds
    cases holds
  · rw [arriving i caller there] at works
    cases works

private theorem Orderly.release {s : Shared} (orderly : s.Orderly) {number : Nat} {old caller : Caller}
    (there : s.callers[number]? = some old) {stage : Stage} (releases : stage.holds = false) :
    (s.enter number caller stage).Orderly := by
  have others {i : Nat} {one : Caller}
      (here : (s.enter number caller stage).callers[i]? = some one)
      (holds : one.stage.holds = true) : s.callers[i]? = some one := by
    rw [getElem?_enter there] at here
    split at here
    · obtain rfl := Option.some.inj here
      rw [releases] at holds
      cases holds
    · exact here
  refine ⟨fun i j one other here also holds holds_other => ?_, fun i one found here works => ?_⟩
  · exact orderly.alone i j one other (others here holds) (others also holds_other) holds
      holds_other
  · exact orderly.found i one found (others here (by rw [works]; rfl)) works

private theorem orderly_hold {s : Shared} {number : Nat} {old caller : Caller}
    (there : s.callers[number]? = some old) {stage : Stage}
    (only : ∀ (i : Nat) (one : Caller), s.callers[i]? = some one → one.stage.holds = true → i = number)
    (known : ∀ found, stage = .working found → found = s.connection) :
    (s.enter number caller stage).Orderly := by
  have owner {i : Nat} {one : Caller}
      (here : (s.enter number caller stage).callers[i]? = some one)
      (holds : one.stage.holds = true) : i = number := by
    rw [getElem?_enter there] at here
    split at here
    · assumption
    · exact only i one here holds
  refine ⟨fun i j one other here also holds holds_other => ?_, fun i one found here works => ?_⟩
  · rw [owner here holds, owner also holds_other]
  · obtain rfl := owner here (by rw [works]; rfl)
    rw [getElem?_enter there, if_pos rfl] at here
    obtain rfl := Option.some.inj here
    exact known found works

theorem orderly_step {s : Shared} (orderly : s.Orderly) (move : Move) :
    (s.step move).2.Orderly := by
  have passage := passage_step s move
  revert passage
  generalize s.step move = stepped
  intro passage
  cases passage with
  | rest => exact orderly
  | wait there | lapse there => exact orderly.release there rfl
  | cancel there => exact orderly.release there rfl
  | obtainHold there stage free =>
    refine orderly_hold there (fun i one here holds => ?_) (fun found wrong => by cases wrong)
    have nobody := List.any_eq_false.mp free one (List.mem_of_getElem? here)
    exact absurd holds nobody
  | @work number caller there stage live =>
    refine orderly_hold there (fun i one here holds => ?_) (fun found works => ?_)
    · exact orderly.alone i number one caller here there holds (by rw [stage]; rfl)
    · exact (Stage.working.inj works).symm
  | @finish number caller found there stage =>
    have released : (s.enter number caller .answered).Orderly := orderly.release there rfl
    refine ⟨released.alone, fun i one other here works => ?_⟩
    -- Nobody else can be at work, so nobody has found the connection as it was before.
    rw [show ({ s.enter number caller .answered with
      connection := (Call.perform { caller.call with fired := false } found).2 } : Shared).callers =
        (s.enter number caller .answered).callers from rfl, getElem?_enter there] at here
    split at here
    · obtain rfl := Option.some.inj here
      cases works
    · rename_i apart
      exact absurd (orderly.alone i number one caller here there (by rw [works]; rfl)
        (by rw [stage]; rfl)) apart
  | @fire number caller there =>
    cases holds : caller.stage.holds with
    | false => exact orderly.release there holds
    | true =>
      refine orderly_hold there (fun i one here also => ?_) (fun found works => ?_)
      · exact orderly.alone i number one caller here there also holds
      · exact orderly.found number caller found there works

theorem answer_step {s : Shared} (orderly : s.Orderly) (move : Move) :
    match (s.step move).1 with
    | none => (s.step move).2.connection = s.connection
    | some (_, entry) =>
      entry.call.perform s.connection = (entry.answer, (s.step move).2.connection) := by
  have passage := passage_step s move
  revert passage
  generalize s.step move = stepped
  intro passage
  cases passage with
  | rest | wait _ | obtainHold _ | work _ | lapse _ | fire _ => rfl
  | cancel there undecided fired => exact perform_fired fired s.connection
  | finish there stage =>
    obtain rfl := orderly.found _ _ _ there stage
    rfl

/-- In whatever way callers meet, it is as if they had come one after the other. -/
theorem inTurn_run {s : Shared} (orderly : s.Orderly) (moves : List Move) :
    inTurn ((run moves s).1.map fun one => one.2.call) s.connection =
      ((run moves s).1.map fun one => one.2.answer, (run moves s).2.connection) := by
  induction moves generalizing s with
  | nil => rfl
  | cons move moves ih =>
    have rest := ih (orderly_step orderly move)
    have answer := answer_step orderly move
    simp only [run]
    cases spoken : (s.step move).1 with
    | none =>
      rw [spoken] at answer
      simp only at answer
      rw [← answer]
      exact rest
    | some one =>
      obtain ⟨number, entry⟩ := one
      rw [spoken] at answer
      simp only at answer
      simp only [Option.toList_some, List.singleton_append, List.map_cons, inTurn, answer, rest]

/-! ### Whose answer it is -/

private theorem caller_step {s : Shared} {move : Move} {i : Nat} {later : Caller}
    (there : (s.step move).2.callers[i]? = some later) :
    ∃ caller, s.callers[i]? = some caller ∧
      later.call = { caller.call with fired := later.call.fired } ∧
      (later.call.fired = true → caller.call.fired = true ∨ move = .fire i) ∧
      (caller.stage = .answered → later.stage = .answered) := by
  have passage := passage_step s move
  revert passage there
  generalize s.step move = stepped
  intro there passage
  have entered {number : Nat} {caller : Caller} {stage : Stage}
      (here : s.callers[number]? = some caller) (unanswered : caller.stage ≠ .answered)
      (there : (s.enter number caller stage).callers[i]? = some later) :
      ∃ caller, s.callers[i]? = some caller ∧
        later.call = { caller.call with fired := later.call.fired } ∧
        (later.call.fired = true → caller.call.fired = true ∨ move = .fire i) ∧
        (caller.stage = .answered → later.stage = .answered) := by
    rw [getElem?_enter here] at there
    split at there
    · rename_i same
      subst same
      obtain rfl := Option.some.inj there
      exact ⟨caller, here, rfl, .inl, fun answered => absurd answered unanswered⟩
    · exact ⟨later, there, rfl, .inl, id⟩
  cases passage with
  | rest => exact ⟨later, there, rfl, .inl, id⟩
  | wait here stage | obtainHold here stage | work here stage | lapse here stage | finish here stage =>
    exact entered here (by rw [stage]; simp) there
  | @cancel number caller here undecided =>
    refine entered here ?_ there
    intro answered
    rw [answered] at undecided
    cases undecided
  | @fire number caller here =>
    rw [getElem?_enter here] at there
    split at there
    · rename_i same
      subst same
      obtain rfl := Option.some.inj there
      exact ⟨caller, here, rfl, fun _ => .inr rfl, id⟩
    · exact ⟨later, there, rfl, .inl, id⟩

private theorem entry_step {s : Shared} {move : Move} {i : Nat} {entry : Entry}
    (spoken : (s.step move).1 = some (i, entry)) :
    ∃ caller, s.callers[i]? = some caller ∧ caller.stage ≠ .answered ∧
      (s.step move).2.callers[i]? = some { caller with stage := .answered } ∧
      entry.call = { caller.call with fired := entry.call.fired } ∧
      (entry.call.fired = true → caller.call.fired = true) ∧
      (entry.answer = .error .cancelled ↔ entry.call.fired = true) ∧
      (entry.call.fired = false → move = .proceed i ∧ ∃ found, caller.stage = .working found) := by
  have passage := passage_step s move
  revert passage spoken
  generalize s.step move = stepped
  intro spoken passage
  cases passage with
  | rest | wait _ | obtainHold _ | work _ | lapse _ | fire _ => cases spoken
  | @cancel number caller here undecided fired =>
    obtain ⟨rfl, rfl⟩ := Prod.mk.inj (Option.some.inj spoken)
    refine ⟨caller, here, ?_, ?_, rfl, id, by simp [fired], fun live => ?_⟩
    · intro answered
      rw [answered] at undecided
      cases undecided
    · rw [getElem?_enter here, if_pos rfl]
    · rw [show caller.call.fired = false from live] at fired
      cases fired
  | @finish number caller found here stage =>
    obtain ⟨rfl, rfl⟩ := Prod.mk.inj (Option.some.inj spoken)
    refine ⟨caller, here, by rw [stage]; simp, ?_, rfl, (fun wrong => by cases wrong), ?_,
      fun _ => ⟨rfl, found, stage⟩⟩
    · exact (getElem?_enter here caller .answered number).trans (if_pos rfl)
    · exact perform_cancelled_iff { caller.call with fired := false } found

private theorem entry_run {s : Shared} {moves : List Move} {i : Nat} {entry : Entry}
    (told : (i, entry) ∈ (run moves s).1) :
    ∃ caller, s.callers[i]? = some caller ∧ caller.stage ≠ .answered ∧
      entry.call = { caller.call with fired := entry.call.fired } ∧
      (entry.call.fired = true → caller.call.fired = true ∨ .fire i ∈ moves) ∧
      (entry.answer = .error .cancelled ↔ entry.call.fired = true) := by
  induction moves generalizing s with
  | nil => cases told
  | cons move moves ih =>
    rcases List.mem_append.mp told with first | later
    · obtain ⟨caller, there, unanswered, -, own, fired, cancelled, -⟩ :=
        entry_step (Option.mem_toList.mp first)
      exact ⟨caller, there, unanswered, own, fun by_then => .inl (fired by_then), cancelled⟩
    · obtain ⟨next, there_next, unanswered, own, fired, cancelled⟩ := ih later
      obtain ⟨caller, there, same, fires, done⟩ := caller_step there_next
      refine ⟨caller, there, fun answered => unanswered (done answered), ?_, ?_, cancelled⟩
      · rw [own, same]
      · intro by_then
        rcases fired by_then with next_fired | member
        · refine (fires next_fired).imp id ?_
          rintro rfl
          exact List.mem_cons_self
        · exact .inr (List.mem_cons_of_mem move member)

private theorem once_run (s : Shared) (moves : List Move) :
    ((run moves s).1.map Prod.fst).Nodup := by
  induction moves generalizing s with
  | nil => exact List.nodup_nil
  | cons move moves ih =>
    simp only [run]
    cases spoken : (s.step move).1 with
    | none => exact ih _
    | some one =>
      obtain ⟨i, entry⟩ := one
      rw [Option.toList_some, List.singleton_append, List.map_cons, List.nodup_cons]
      refine ⟨fun again => ?_, ih _⟩
      obtain ⟨⟨j, later⟩, told, rfl⟩ := List.mem_map.mp again
      obtain ⟨before, -, -, answered, -⟩ := entry_step spoken
      obtain ⟨caller, there, unanswered, -⟩ := entry_run told
      obtain rfl := Option.some.inj (there.symm.trans answered)
      exact unanswered rfl

/-! ### Fired tokens -/

/-- A caller that can only be cancelled: its token has fired and it has still to look at it. -/
def Doomed (s : Shared) (i : Nat) : Prop :=
  ∃ caller, s.callers[i]? = some caller ∧
    (caller.call.fired = true ∧ caller.stage.undecided = true ∨ caller.stage = .answered)

private theorem doomed_step {s : Shared} {i : Nat} (doomed : s.Doomed i) (move : Move) :
    (s.step move).2.Doomed i := by
  obtain ⟨caller, there, state⟩ := doomed
  have passage := passage_step s move
  revert passage
  generalize s.step move = stepped
  intro passage
  have aside {number : Nat} {other : Caller} (here : s.callers[number]? = some other) {stage : Stage}
      (stays : other = caller → stage = .answered ∨
        caller.call.fired = true ∧ stage.undecided = true) :
      (s.enter number other stage).Doomed i := by
    unfold Doomed
    rw [getElem?_enter here]
    split
    · rename_i same
      subst same
      obtain rfl := Option.some.inj (here.symm.trans there)
      exact ⟨_, rfl, (stays rfl).symm⟩
    · exact ⟨caller, there, state⟩
  cases passage with
  | rest => exact ⟨caller, there, state⟩
  | wait here stage live | work here stage live =>
    refine aside here ?_
    rintro rfl
    rcases state with ⟨fired, -⟩ | answered
    · rw [live] at fired
      cases fired
    · rw [stage] at answered
      cases answered
  | obtainHold here stage | lapse here stage =>
    refine aside here ?_
    rintro rfl
    rcases state with ⟨fired, -⟩ | answered
    · exact .inr ⟨fired, rfl⟩
    · rw [stage] at answered
      cases answered
  | cancel here => exact aside here fun _ => .inl rfl
  | finish here => exact aside here fun _ => .inl rfl
  | @fire number other here =>
    unfold Doomed
    rw [getElem?_enter here]
    split
    · rename_i same
      subst same
      obtain rfl := Option.some.inj (here.symm.trans there)
      exact ⟨_, rfl, state.imp (fun undecided => ⟨rfl, undecided.2⟩) id⟩
    · exact ⟨caller, there, state⟩

/-- A caller that can only be cancelled gives no other answer. -/
private theorem doomed_run {s : Shared} {i : Nat} (doomed : s.Doomed i) {moves : List Move}
    {entry : Entry} (told : (i, entry) ∈ (run moves s).1) : entry.call.fired = true := by
  induction moves generalizing s with
  | nil => cases told
  | cons move moves ih =>
    rcases List.mem_append.mp told with first | later
    · obtain ⟨caller, there, unanswered, -, -, -, -, live⟩ :=
        entry_step (Option.mem_toList.mp first)
      by_contra unfired
      obtain ⟨-, found, works⟩ := live (by simpa using unfired)
      obtain ⟨same, here, state⟩ := doomed
      obtain rfl := Option.some.inj (there.symm.trans here)
      rw [works] at state
      rcases state with ⟨-, undecided⟩ | answered
      · cases undecided
      · cases answered
    · exact ih (doomed_step doomed move) later

private theorem doomed_answers {s : Shared} {i : Nat} {caller : Caller}
    (there : s.callers[i]? = some caller) (fired : caller.call.fired = true)
    (undecided : caller.stage.undecided = true) :
    (run [.lapse i, .proceed i] s).1 = [(i, ⟨caller.call, .error .cancelled⟩)] ∧
      (run [.lapse i, .proceed i] s).2.connection = s.connection := by
  have looks {t : Shared} {caller : Caller} (here : t.callers[i]? = some caller)
      (fired : caller.call.fired = true)
      (stage : caller.stage = .arriving ∨ caller.stage = .admitted) :
      t.step (.proceed i) =
        (some (i, ⟨caller.call, .error .cancelled⟩), t.enter i caller .answered) := by
    rcases stage with stage | stage <;> simp [step, here, proceed, stage, fired]
  obtain ⟨call, stage⟩ := caller
  cases stage with
  | arriving =>
    have stays : s.step (.lapse i) = (none, s) := by simp only [step, there]
    simp only [run, stays, looks there fired (.inl rfl)]
    exact ⟨rfl, rfl⟩
  | admitted =>
    have stays : s.step (.lapse i) = (none, s) := by simp only [step, there]
    simp only [run, stays, looks there fired (.inr rfl)]
    exact ⟨rfl, rfl⟩
  | waiting =>
    have returns : s.step (.lapse i) = (none, s.enter i ⟨call, .waiting⟩ .arriving) := by
      simp only [step, there]
    have here := getElem?_enter there ⟨call, .waiting⟩ .arriving i
    rw [if_pos rfl] at here
    simp only [run, returns, looks here fired (.inl rfl)]
    exact ⟨rfl, rfl⟩
  | working found | answered => cases undecided

/-! ### The one who has the connection -/

private theorem holder_run {s : Shared} (orderly : s.Orderly) {j : Nat} {holder : Caller}
    (there : s.callers[j]? = some holder) {found : Connection}
    (works : holder.stage = .working found) {moves : List Move} (unfinished : .proceed j ∉ moves)
    {i : Nat} {entry : Entry} (told : (i, entry) ∈ (run moves s).1) : entry.call.fired = true := by
  induction moves generalizing s holder with
  | nil => cases told
  | cons move moves ih =>
    have others : move ≠ .proceed j := fun same => unfinished (same ▸ List.mem_cons_self)
    rcases List.mem_append.mp told with first | later
    · obtain ⟨caller, here, -, -, -, -, -, live⟩ := entry_step (Option.mem_toList.mp first)
      by_contra unfired
      obtain ⟨rfl, other, busy⟩ := live (by simpa using unfired)
      have same := orderly.alone i j caller holder here there (by rw [busy]; rfl)
        (by rw [works]; rfl)
      exact others (by rw [same])
    · obtain ⟨next, there_next, works_next⟩ : ∃ next, (s.step move).2.callers[j]? = some next ∧
          next.stage = .working found := by
        have passage := passage_step s move
        revert passage
        generalize s.step move = stepped
        intro passage
        cases passage with
        | rest => exact ⟨holder, there, works⟩
        | wait here | obtainHold here | work here | cancel here | finish here =>
          refine ⟨holder, ?_, works⟩
          refine (getElem?_enter here _ _ j).trans ?_
          rw [if_neg fun same => others (by rw [same]), there]
        | @lapse number caller here stage =>
          refine ⟨holder, ?_, works⟩
          rw [getElem?_enter here, if_neg ?_, there]
          rintro rfl
          obtain rfl := Option.some.inj (here.symm.trans there)
          rw [works] at stage
          cases stage
        | @fire number caller here =>
          rw [getElem?_enter here]
          split
          · rename_i same
            subst same
            obtain rfl := Option.some.inj (here.symm.trans there)
            exact ⟨_, rfl, works⟩
          · exact ⟨holder, there, works⟩
      exact ih (orderly_step orderly move) there_next works_next
        (fun member => unfinished (List.mem_cons_of_mem move member)) later

private theorem served_alone {s : Shared} {i : Nat} {call : Call}
    (there : s.callers[i]? = some ⟨call, .arriving⟩) (live : call.fired = false)
    (free : s.busy = false) :
    (run (List.replicate 4 (.proceed i)) s).1 = [(i, ⟨call, (call.perform s.connection).1⟩)] ∧
      (run (List.replicate 4 (.proceed i)) s).2.connection = (call.perform s.connection).2 := by
  obtain ⟨operation, fired, now⟩ := call
  obtain rfl : fired = false := live
  let call : Call := ⟨operation, false, now⟩
  have entered {t : Shared} {stage : Stage} (here : t.callers[i]? = some ⟨call, stage⟩)
      (next : Stage) : (t.enter i ⟨call, stage⟩ next).callers[i]? = some ⟨call, next⟩ :=
    (getElem?_enter here _ next i).trans (if_pos rfl)
  let queued := s.enter i ⟨call, .arriving⟩ .waiting
  let inside := queued.enter i ⟨call, .waiting⟩ .admitted
  have first : s.step (.proceed i) = (none, queued) := by simp [step, there, proceed, queued, call]
  have there_queued : queued.callers[i]? = some ⟨call, .waiting⟩ := entered there .waiting
  have still_free : queued.busy = false := by
    refine List.any_eq_false.mpr fun one member => ?_
    rcases List.mem_or_eq_of_mem_set member with old | rfl
    · exact List.any_eq_false.mp free one old
    · simp [Stage.holds]
  have second : queued.step (.proceed i) = (none, inside) := by
    simp [step, there_queued, proceed, still_free, inside]
  have there_inside : inside.callers[i]? = some ⟨call, .admitted⟩ := entered there_queued .admitted
  have third : inside.step (.proceed i) =
      (none, inside.enter i ⟨call, .admitted⟩ (.working s.connection)) := by
    simp [step, there_inside, proceed, call]
    rfl
  have there_working := entered there_inside (.working s.connection)
  have last : (inside.enter i ⟨call, .admitted⟩ (.working s.connection)).step (.proceed i) =
      (some (i, ⟨call, (call.perform s.connection).1⟩),
        { (inside.enter i ⟨call, .admitted⟩ (.working s.connection)).enter i
            ⟨call, .working s.connection⟩ .answered with
          connection := (call.perform s.connection).2 }) := by
    simp [step, there_working, proceed, call]
  simp only [List.replicate, run, first, second, third, last]
  exact ⟨rfl, rfl⟩

/-! ### All callers -/

/-- What callers at one connection can rely on, whatever calls they come with, however they get into
each other's way and whenever their tokens fire. -/
structure Exact (c : Connection) (calls : List Call) (moves : List Move) : Prop where
  /-- It is as if they had come one after the other, in the order of their answers. -/
  inTurn : let ran := run moves (start c calls)
    inTurn (ran.1.map fun one => one.2.call) c =
      (ran.1.map fun one => one.2.answer, ran.2.connection)
  /-- Nobody answers twice. -/
  once : ((run moves (start c calls)).1.map Prod.fst).Nodup
  /-- Everybody answers the call with which it came. Those are cancelled who count as callers with a
  fired token, whatever else would have become of their calls, and their own tokens have fired. -/
  own : ∀ (i : Nat) (entry : Entry), (i, entry) ∈ (run moves (start c calls)).1 →
    ∃ call, calls[i]? = some call ∧ entry.call = { call with fired := entry.call.fired } ∧
      (entry.answer = .error .cancelled ↔ entry.call.fired = true) ∧
      (entry.call.fired = true → call.fired = true ∨ .fire i ∈ moves)
  /-- When the token of a caller fires before it has come to work, nothing else than a cancellation
  can be its answer, and that comes as soon as its interval of waiting is over. -/
  doomed : let now := (run moves (start c calls)).2
    ∀ (i : Nat) (caller : Caller), now.callers[i]? = some caller → caller.call.fired = true →
      caller.stage.undecided = true →
        (∀ (more : List Move) (entry : Entry), (i, entry) ∈ (run more now).1 →
          entry.answer = .error .cancelled) ∧
        (run [.lapse i, .proceed i] now).1 = [(i, ⟨caller.call, .error .cancelled⟩)] ∧
        (run [.lapse i, .proceed i] now).2.connection = now.connection
  /-- While one of them works, the others can only be cancelled. -/
  holder : let now := (run moves (start c calls)).2
    ∀ (j : Nat) (worker : Caller) (found : Connection), now.callers[j]? = some worker →
      worker.stage = .working found → ∀ more : List Move, .proceed j ∉ more →
        ∀ (i : Nat) (entry : Entry), (i, entry) ∈ (run more now).1 →
          entry.answer = .error .cancelled
  /-- When nobody has the connection, whoever comes with a token that does not fire is served. -/
  free : let now := (run moves (start c calls)).2
    now.busy = false → ∀ (i : Nat) (call : Call), now.callers[i]? = some ⟨call, .arriving⟩ →
      call.fired = false →
        (run (List.replicate 4 (.proceed i)) now).1 =
            [(i, ⟨call, (call.perform now.connection).1⟩)] ∧
          (run (List.replicate 4 (.proceed i)) now).2.connection =
            (call.perform now.connection).2

private theorem orderly_run {s : Shared} (orderly : s.Orderly) (moves : List Move) :
    (run moves s).2.Orderly := by
  induction moves generalizing s with
  | nil => exact orderly
  | cons move moves ih => exact ih (orderly_step orderly move)

theorem exact_run (c : Connection) (calls : List Call) (moves : List Move) :
    Exact c calls moves where
  inTurn := inTurn_run (orderly_start c calls) moves
  once := once_run _ moves
  own := by
    intro i entry told
    obtain ⟨caller, there, -, own, fired, cancelled⟩ := entry_run told
    obtain ⟨call, asked, rfl⟩ : ∃ call, calls[i]? = some call ∧ ⟨call, .arriving⟩ = caller := by
      simpa [start, List.getElem?_map, Option.map_eq_some_iff] using there
    exact ⟨call, asked, own, cancelled, fired⟩
  doomed := by
    intro now i caller there fired undecided
    refine ⟨fun more entry told => ?_, doomed_answers there fired undecided⟩
    obtain ⟨-, -, -, -, -, cancelled⟩ := entry_run told
    exact cancelled.mpr (doomed_run ⟨caller, there, .inl ⟨fired, undecided⟩⟩ told)
  holder := by
    intro now j worker found there works more unfinished i entry told
    obtain ⟨-, -, -, -, -, cancelled⟩ := entry_run told
    have orderly := orderly_run (orderly_start c calls) moves
    exact cancelled.mpr (holder_run orderly there works unfinished told)
  free := by
    intro now nobody i call there live
    exact served_alone there live nobody

end Shared

theorem contend_eq_run (holder waiter : Call) (firesMeanwhile : Bool) (c : Connection) :
    let meeting : List Shared.Move :=
      [.proceed 0, .proceed 0, .proceed 0, .proceed 1] ++
        (if firesMeanwhile then [.fire 1] else []) ++
          [.proceed 1, .proceed 0, .proceed 1, .proceed 1, .proceed 1]
    let ran := Shared.run meeting (.start c [holder, waiter])
    let met := contend holder waiter firesMeanwhile c
    (ran.1.lookup 0).map Entry.answer = some met.1.1 ∧
      (ran.1.lookup 1).map Entry.answer = some met.1.2 ∧ ran.2.connection = met.2 := by
  obtain ⟨operation, fired, now⟩ := holder
  obtain ⟨operation', fired', now'⟩ := waiter
  cases fired <;> cases fired' <;> cases firesMeanwhile <;>
    simp [Shared.run, Shared.step, Shared.start, Shared.proceed, Shared.enter, Shared.busy,
      Stage.holds, contend, Call.perform, List.lookup_cons]

end ChainStore.Cache
