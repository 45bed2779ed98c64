import ChainStore.Proofs.Range.Front
import ChainStore.Proofs.Session.Streams

set_option autoImplicit false
set_option relaxedAutoImplicit false

/-!
What an open stream can depend on. Two sessions in which the same range is opened, asked, and told
of its token alike give the same answers, whatever else happens in them, as long as the rows of the
range are alike at the heights that it has not passed.
-/

namespace ChainStore.Session

open Range (Pipeline Poll passed passed_append)

namespace State

def questioned (name : String) (ahead : Nat) : List (List (Int × Act)) → State → List Reply × State
  | [], s => ([], s)
  | acts :: rest, s =>
    match (s.play acts).2.act 0 (.ask name ahead) with
    | (reply, s) =>
      match questioned name ahead rest s with
      | (replies, s) => (reply :: replies, s)

/-- Two states that look the same to a stream with this handle and this token in one and one with
that handle and that token in the other: the tokens have fired or not, the store can be read or not,
and the rows of the range are the same at the heights that have not been passed. -/
structure LookAlike (past : List Nat) (first last : Height) (handle : Handle)
    (token : Option String) (s : State) (handle' : Handle) (token' : Option String) (t : State) :
    Prop where
  fired : t.hasFired token' = s.hasFired token
  readable : (t.connection handle').readFault? = (s.connection handle).readFault?
  rows : ∀ height : Height, first.toNat ≤ height.toNat → height.toNat ≤ last.toNat →
    (∀ n ∈ past, n < height.toNat) →
      (t.database handle').rowAt height = (s.database handle).rowAt height

/-- A stream in one state and one in another that are as far as each other, apart from the room of
their channels. -/
structure AsFar (past : List Nat) (first last : Height) (name : String) (room room' : Nat)
    (handle : Handle) (token : Option String) (s : State) (handle' : Handle)
    (token' : Option String) (t : State) : Prop where
  streams : ∃ p : Pipeline, s.streams.lookup name = some ⟨handle, token, p⟩ ∧
    t.streams.lookup name = some ⟨handle', token', p.withRoom room'⟩ ∧
    p.Ahead past first ∧ p.frame = (last, room)

section Questions

variable {past : List Nat} {first last : Height} {name : String} {room room' ahead : Nat}
  {handle handle' : Handle} {token token' : Option String} {s t : State}

private theorem AsFar.play (asFar : AsFar past first last name room room' handle token s handle'
    token' t) {acts acts' : List (Int × Act)}
    (foreign : ∀ entry ∈ acts, entry.2.concerns name = false)
    (foreign' : ∀ entry ∈ acts', entry.2.concerns name = false) :
    AsFar past first last name room room' handle token (s.play acts).2 handle' token'
      (t.play acts').2 := by
  obtain ⟨p, here, there, beyond, frame⟩ := asFar.streams
  exact ⟨p, (stream_play foreign).trans here, (stream_play foreign').trans there, beyond, frame⟩

private theorem agreeBeyond_of_lookAlike
    (alike : LookAlike past first last handle token s handle' token' t) (p q : Pipeline) :
    Range.AgreeBeyond past first last (s.reader ⟨handle, token, p⟩)
      (t.reader ⟨handle', token', q⟩) :=
  fun height low high beyond =>
    (Cache.rangeRead_congr alike.readable (alike.rows height low high beyond)).symm

/-- A question is answered alike, and leaves the streams as far as each other. -/
private theorem AsFar.ask (asFar : AsFar past first last name room room' handle token s handle'
    token' t) (alike : LookAlike past first last handle token s handle' token' t)
    (roomy : min (ahead + 1) room' = min (ahead + 1) room) :
    (t.act 0 (.ask name ahead)).1 = (s.act 0 (.ask name ahead)).1 ∧
      AsFar (past ++ passed (heard [(s.act 0 (.ask name ahead)).1])) first last name room room'
        handle token (s.act 0 (.ask name ahead)).2 handle' token'
        (t.act 0 (.ask name ahead)).2 := by
  obtain ⟨p, here, there, beyond, frame⟩ := asFar.streams
  obtain ⟨rfl, rfl⟩ := Prod.mk.inj frame
  obtain ⟨same, beyond', frame'⟩ := beyond.next
    (agreeBeyond_of_lookAlike alike p (p.withRoom room')) roomy (s.hasFired token)
  rw [act_ask here, act_ask there]
  simp only [alike.fired, same]
  exact ⟨trivial, _, Named.lookup_give_self _ _ _, Named.lookup_give_self _ _ _, beyond', frame'⟩

private theorem AsFar.questioned {rounds : List (List (Int × Act) × List (Int × Act))}
    (asFar : AsFar past first last name room room' handle token s handle' token' t)
    (roomy : min (ahead + 1) room' = min (ahead + 1) room)
    (foreign : ∀ round ∈ rounds, ∀ entry ∈ round.1 ++ round.2, entry.2.concerns name = false)
    (alike : ∀ seen round, seen ++ [round] <+: rounds →
      let earlier := s.questioned name ahead (seen.map Prod.fst)
      let earlier' := t.questioned name ahead (seen.map Prod.snd)
      LookAlike (past ++ passed (heard earlier.1)) first last handle token
        (earlier.2.play round.1).2 handle' token' (earlier'.2.play round.2).2) :
    (t.questioned name ahead (rounds.map Prod.snd)).1 =
      (s.questioned name ahead (rounds.map Prod.fst)).1 := by
  induction rounds generalizing s t past with
  | nil => rfl
  | cons round rounds ih =>
    have quiet := foreign round List.mem_cons_self
    have here := asFar.play (fun entry member => quiet entry (List.mem_append_left _ member))
      (fun entry member => quiet entry (List.mem_append_right _ member))
    have now : LookAlike past first last handle token (s.play round.1).2 handle' token'
        (t.play round.2).2 := by
      have begins := alike [] round (List.cons_prefix_cons.mpr ⟨rfl, List.nil_prefix⟩)
      simpa [State.questioned, heard, passed, Range.yielded] using begins
    obtain ⟨same, next⟩ := here.ask now roomy
    have rest := ih next (fun other member => foreign other (List.mem_cons_of_mem round member)) (by
      intro seen other earlier
      have later := alike (round :: seen) other (List.cons_prefix_cons.mpr ⟨rfl, earlier⟩)
      have told (reply : Reply) (replies : List Reply) :
          heard (reply :: replies) = heard [reply] ++ heard replies := by
        simp [heard]
      simp only [List.map_cons, State.questioned, told _ (State.questioned ..).1, passed_append,
        ← List.append_assoc] at later
      exact later)
    simp only [List.map_cons, State.questioned]
    rw [same, rest]

end Questions

/-- Where a stream is opened in two sessions for the same range, which both accept, and is asked
with the same number of events kept waiting, it answers the same in both: whatever else happens in
either between the questions, through other handles and other streams, to other rows, to the tip and
to the handle it was opened on, as long as at every question its token has fired in both or in
neither, its store can be read in both or in neither, and the rows of the range are the same at the
heights above all blocks that it has handed over. -/
theorem stream_sees_its_rows {s t : State} {opener opener' name : String} {handle handle' : Handle}
    {token token' : Option String} {first last : Height} {p p' : Pipeline}
    (there : s.handles.lookup opener = some handle)
    (there' : t.handles.lookup opener' = some handle')
    (accepted : Range.accept handle.limits first last = .ok p)
    (accepted' : Range.accept handle'.limits first last = .ok p') {ahead : Nat}
    (roomy : min (ahead + 1) p'.capacity = min (ahead + 1) p.capacity) (now now' : Int)
    {rounds : List (List (Int × Act) × List (Int × Act))}
    (foreign : ∀ round ∈ rounds, ∀ entry ∈ round.1 ++ round.2, entry.2.concerns name = false) :
    let opened := (s.step now (.streamOpen opener name token first last)).2
    let opened' := (t.step now' (.streamOpen opener' name token' first last)).2
    (∀ seen round, seen ++ [round] <+: rounds →
      let earlier := opened.questioned name ahead (seen.map Prod.fst)
      let earlier' := opened'.questioned name ahead (seen.map Prod.snd)
      LookAlike (passed (heard earlier.1)) first last handle token (earlier.2.play round.1).2
        handle' token' (earlier'.2.play round.2).2) →
    (opened'.questioned name ahead (rounds.map Prod.snd)).1 =
      (opened.questioned name ahead (rounds.map Prod.fst)).1 := by
  intro opened opened' alike
  have started {limits : Limits} {p : Pipeline}
      (accepted : Range.accept limits first last = .ok p) :
      p = .start first last limits.streamBuffer.toNat := by
    unfold Range.accept at accepted
    split at accepted
    · cases accepted
    · split at accepted
      · cases accepted
      · exact (Except.ok.inj accepted).symm
  have named {s : State} {now : Int} {opener : String} {handle : Handle} {token : Option String}
      {p : Pipeline} (there : s.handles.lookup opener = some handle)
      (accepted : Range.accept handle.limits first last = .ok p) :
      (s.step now (.streamOpen opener name token first last)).2.streams.lookup name =
        some ⟨handle, token, p⟩ := by
    simp only [step, carryOut, withHandle, there, streamOpen, accepted]
    exact Named.lookup_give_self _ _ _
  have same : p' = p.withRoom p'.capacity := by
    rw [started accepted, started accepted']
    rfl
  have asFar : AsFar [] first last name p.capacity p'.capacity handle token opened handle' token'
      opened' := by
    refine ⟨p, named there accepted, ?_, ?_, ?_⟩
    · rw [← same]
      exact named there' accepted'
    · rw [started accepted]
      exact Pipeline.ahead_start first last _
    · rw [started accepted]
      rfl
  exact asFar.questioned roomy foreign alike

private theorem lookAlike_of_heights {past : List Nat} {first last : Height}
    {handle handle' : Handle} {token token' : Option String} {s t : State}
    (alike : t.hasFired token' = s.hasFired token ∧
      (t.connection handle').readFault? = (s.connection handle).readFault? ∧
      (Range.heights first last).all (fun height => decide ((∀ n ∈ past, n < height.toNat) →
        (t.database handle').rowAt height = (s.database handle).rowAt height)) = true) :
    LookAlike past first last handle token s handle' token' t := by
  refine ⟨alike.1, alike.2.1, fun height low high => ?_⟩
  exact of_decide_eq_true
    (List.all_eq_true.mp alike.2.2 height (Range.mem_heights.mpr ⟨low, high⟩))

private def stored (handle : String) (height : Height) (payload : Payload) : Command :=
  .call handle none (.putBlock ⟨height, "", "", false, payload⟩)

private def filedState : State :=
  ((start .empty).run [(1, .openFile "main" { file := { path := "c" } }), (2, stored "main" 1 [7]),
    (3, stored "main" 2 [8])]).2

private def heldState : State :=
  ((start .empty).run [(1, .openMemory "held" { limits := { streamBuffer := 3 } }),
    (2, stored "held" 2 [8]), (3, .call "held" none (.setTip 90)), (4, stored "held" 1 [7]),
    (5, stored "held" 6 [])]).2

/-- In the file nothing happens but that its only handle is closed. In memory a block that has been
handed over is removed, the handle is moved to another cache, and somebody else's token fires. -/
private def apart : List (List (Int × Act) × List (Int × Act)) :=
  let remove : Command := .call "held" none (.removeBlock 1)
  [([], [(6, .command (stored "held" 9 [1]))]),
    ([(7, .command (.close "main"))],
      [(7, .command remove), (8, .command (.openMemory "held" {}))]),
    ([], [(9, .command (.fire "other"))])]

theorem apart_stream_sees_its_rows :
    let opened := (filedState.step 5 (.streamOpen "main" "s" (some "t") 1 2)).2
    let opened' := (heldState.step 5 (.streamOpen "held" "s" none 1 2)).2
    (opened'.questioned "s" 1 (apart.map Prod.snd)).1 =
        (opened.questioned "s" 1 (apart.map Prod.fst)).1 ∧
      heard (opened.questioned "s" 1 (apart.map Prod.fst)).1 =
        [.item ⟨1, [7]⟩, .item ⟨2, [8]⟩, .ended] := by
  refine ⟨?_, by decide +kernel⟩
  have there : filedState.handles.lookup "main" = some ⟨0, 0, {}⟩ := by decide +kernel
  have there' : heldState.handles.lookup "held" = some ⟨0, 0, { streamBuffer := 3 }⟩ := by
    decide +kernel
  have accepted : Range.accept {} 1 2 = .ok (.start 1 2 32) := by decide +kernel
  have accepted' : Range.accept { streamBuffer := 3 } 1 2 = .ok (.start 1 2 3) := by decide +kernel
  refine stream_sees_its_rows there there' accepted accepted' (by decide) 5 5 (by decide +kernel) ?_
  intro seen round earlier
  refine lookAlike_of_heights ?_
  obtain ⟨rest, split⟩ := earlier
  cases seen with
  | nil =>
    obtain ⟨rfl, -⟩ := List.cons.inj split
    decide +kernel
  | cons before seen =>
    obtain ⟨rfl, later⟩ := List.cons.inj split
    cases seen with
    | nil =>
      obtain ⟨rfl, -⟩ := List.cons.inj later
      decide +kernel
    | cons before seen =>
      obtain ⟨rfl, last⟩ := List.cons.inj later
      cases seen with
      | nil =>
        obtain ⟨rfl, -⟩ := List.cons.inj last
        decide +kernel
      | cons before seen =>
        obtain ⟨rfl, none_left⟩ := List.cons.inj last
        simp at none_left

end State

end ChainStore.Session
