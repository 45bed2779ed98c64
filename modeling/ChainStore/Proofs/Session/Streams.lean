import ChainStore.Proofs.Cache.Lookup
import ChainStore.Proofs.Session.Unchanged
import ChainStore.Session.History

set_option autoImplicit false
set_option relaxedAutoImplicit false

/-!
Streams in a session: what a question makes of the stream that is asked, and that a stream stays
what it is while nobody uses its name.
-/

namespace ChainStore.Session

namespace Named

variable {α : Type} {name other : String}

@[simp] theorem lookup_give_self (name : String) (a : α) (named : Named α) :
    List.lookup name (named.give name a) = some a := by
  simp [give]

@[simp] theorem lookup_forget_self (name : String) (named : Named α) :
    List.lookup name (named.forget name) = none := by
  rw [List.lookup_eq_none_iff]
  intro entry member
  exact bne_iff_ne.mpr (bne_iff_ne.mp (List.mem_filter.mp member).2).symm

theorem lookup_forget (apart : other ≠ name) (named : Named α) :
    List.lookup other (named.forget name) = List.lookup other named := by
  induction named with
  | nil => rfl
  | cons entry named ih =>
    obtain ⟨key, a⟩ := entry
    by_cases here : key = name
    · subst here
      have gone : forget key ((key, a) :: named) = forget key named := by simp [forget]
      rw [gone, ih, List.lookup_cons, beq_false_of_ne apart]
    · have stays : forget name ((key, a) :: named) = (key, a) :: forget name named := by
        simp [forget, here]
      rw [stays, List.lookup_cons, List.lookup_cons, ih]

theorem lookup_give (apart : other ≠ name) (a : α) (named : Named α) :
    List.lookup other (named.give name a) = List.lookup other named := by
  rw [give, List.lookup_cons, beq_false_of_ne apart]
  exact lookup_forget apart named

end Named

def heard (replies : List Reply) : List Range.Poll :=
  replies.flatMap fun
    | .polls polls => polls
    | _ => []

/-- Whether something happens to the stream of a name, or to the name. -/
def Act.concerns (name : String) : Act → Bool
  | .ask stream _ => stream == name
  | .command (.streamOpen _ stream _ _ _) => stream == name
  | .command (.streamNext stream _) => stream == name
  | .command (.streamCollect stream) => stream == name
  | .command (.streamDrop stream) => stream == name
  | .command (.streamKill stream) => stream == name
  | .command _ => false

namespace State

def connection (s : State) (handle : Handle) : Storage.Connection :=
  (s.link handle).connection s.disk

theorem lookedThrough_eq (s : State) (stream : Stream) :
    ∃ links, s.lookedThrough stream = { s with links := links } := by
  unfold lookedThrough
  simp only
  split
  · exact ⟨_, rfl⟩
  · exact ⟨s.links, rfl⟩

theorem streams_lookedThrough (s : State) (stream : Stream) :
    (s.lookedThrough stream).streams = s.streams := by
  obtain ⟨links, looked⟩ := s.lookedThrough_eq stream
  rw [looked]

theorem handles_lookedThrough (s : State) (stream : Stream) :
    (s.lookedThrough stream).handles = s.handles := by
  obtain ⟨links, looked⟩ := s.lookedThrough_eq stream
  rw [looked]

theorem disk_lookedThrough (s : State) (stream : Stream) :
    (s.lookedThrough stream).disk = s.disk := by
  obtain ⟨links, looked⟩ := s.lookedThrough_eq stream
  rw [looked]

theorem fired_lookedThrough (s : State) (stream : Stream) :
    (s.lookedThrough stream).fired = s.fired := by
  obtain ⟨links, looked⟩ := s.lookedThrough_eq stream
  rw [looked]

theorem streams_openCache (s : State) (name : String) (settings : Settings) :
    (s.openCache name settings).2.streams = s.streams := by
  unfold openCache
  split <;> rfl

theorem streams_openInMemory (s : State) (name : String) (settings : Settings) :
    (s.openInMemory name settings).2.streams = s.streams := by
  unfold openInMemory
  split <;> rfl

theorem act_ask {s : State} {name : String} {stream : Stream}
    (there : s.streams.lookup name = some stream) (now : Int) (ahead : Nat) :
    let asked :=
      stream.pipeline.next ahead (s.reader stream) (s.hasFired stream.token)
    s.act now (.ask name ahead) =
      (.polls [asked.1],
        State.settle { s.lookedThrough stream with
          streams := s.streams.give name { stream with pipeline := asked.2 } }) := by
  intro asked
  simp only [act, ask, withStream, there, streams_lookedThrough]
  rfl

/-- Whatever does not concern a stream leaves it as it is. -/
theorem stream_act {s : State} {name : String} {act : Act} (foreign : act.concerns name = false)
    (now : Int) : (s.act now act).2.streams.lookup name = s.streams.lookup name := by
  have given {stream : String} {named : Stream} (apart : (stream == name) = false) {s' : State}
      (same : s'.streams = s.streams) :
      (s'.streams.give stream named).lookup name = s.streams.lookup name := by
    rw [Named.lookup_give (ne_of_beq_false apart).symm, same]
  have forgotten {stream : String} (apart : (stream == name) = false) {s' : State}
      (same : s'.streams = s.streams) :
      (s'.streams.forget stream).lookup name = s.streams.lookup name := by
    rw [Named.lookup_forget (ne_of_beq_false apart).symm, same]
  cases act with
  | ask stream ahead =>
    show (s.ask stream ahead).2.streams.lookup name = _
    simp only [ask, withStream]
    split
    · rfl
    · exact given foreign (streams_lookedThrough s _)
  | command command =>
    show (s.carryOut now command).2.streams.lookup name = _
    cases command with
    | openMemory handle settings =>
      exact congrArg (List.lookup name) (streams_openInMemory s handle settings)
    | openFile handle settings =>
      exact congrArg (List.lookup name) (streams_openCache s handle settings)
    | openConfigured handle file =>
      simp only [carryOut, openConfigured]
      split
      · rfl
      · exact congrArg (List.lookup name) (streams_openCache s handle _)
    | copy handle newName | limits handle | describe handle | call handle token operation =>
      simp only [carryOut, withHandle]
      split <;> rfl
    | streamOpen handle stream token first last =>
      simp only [carryOut, withHandle]
      split
      · rfl
      · simp only [streamOpen]
        split
        · exact given foreign rfl
        · rfl
        · rfl
    | streamNext stream count =>
      simp only [carryOut, withStream]
      split
      · rfl
      · split
        · exact given foreign rfl
        · exact given foreign (streams_lookedThrough s _)
    | streamCollect stream =>
      simp only [carryOut, withStream]
      split
      · rfl
      · exact forgotten foreign rfl
    | streamDrop stream => exact forgotten foreign rfl
    | streamKill stream =>
      simp only [carryOut, withStream]
      split
      · rfl
      · exact given foreign rfl
    | interfere path interference | unlock path =>
      simp only [carryOut, interfere]
      split <;> rfl
    | dump path =>
      simp only [carryOut, visit]
      split <;> rfl
    | close _ | fire _ | writeFile _ _ | makeDirectory _ | pathKind _ | commandLine _ => rfl

theorem stream_play {s : State} {name : String} {acts : List (Int × Act)}
    (foreign : ∀ entry ∈ acts, entry.2.concerns name = false) :
    (s.play acts).2.streams.lookup name = s.streams.lookup name := by
  induction acts generalizing s with
  | nil => rfl
  | cons entry acts ih =>
    have rest := @ih (s.act entry.1 entry.2).2
      fun other member => foreign other (List.mem_cons_of_mem entry member)
    exact rest.trans (stream_act (foreign entry List.mem_cons_self) entry.1)

end State

end ChainStore.Session
