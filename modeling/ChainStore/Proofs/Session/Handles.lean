import ChainStore.Proofs.Cache.Timeless
import ChainStore.Proofs.Session.Hosting

set_option autoImplicit false
set_option relaxedAutoImplicit false

/-!
It does not matter through which handle a cache in a file is used. A session that opens, copies and
closes handles on the cache as it likes, beside private caches in memory, replies to the steps on
the cache like one that takes all of them through the handle that was opened first, and leaves the
same rows behind.
-/

namespace ChainStore.Session

open Storage (Database)

/-- Whether something that happens is a step on a cache: a call through a handle on it, anything
done with its streams, or the firing of a token. To open, copy and close handles is none. -/
def Act.isStep (cache : Shared) : Act → Bool
  | .ask stream _ => cache.isOn stream
  | .command (.call name _ _) | .command (.limits name) | .command (.describe name)
  | .command (.streamOpen name _ _ _ _) => cache.isOn name
  | .command (.streamNext stream _) | .command (.streamCollect stream)
  | .command (.streamDrop stream) | .command (.streamKill stream) => cache.isOn stream
  | .command (.fire _) => true
  | .command _ => false

/-- The same step, taken through the handle of another name where it is taken through a handle. -/
def Act.through (name : String) : Act → Act
  | .command (.call _ token operation) => .command (.call name token operation)
  | .command (.limits _) => .command (.limits name)
  | .command (.describe _) => .command (.describe name)
  | .command (.streamOpen _ stream token first last) =>
    .command (.streamOpen name stream token first last)
  | act => act

def Reply.missed : Reply → Bool
  | .noHandle => true
  | _ => false

def Reply.timeless : Reply → Reply
  | .answer told => .answer told.timeless
  | reply => reply

/-- The steps on a cache among what has happened, as far as there was something under their
names. -/
def steps (cache : Shared) (entries : List (Act × Reply)) : List (Act × Reply) :=
  entries.filter fun entry => entry.1.isStep cache && !entry.2.missed

def Stream.progress (stream : Stream) : Option String × Range.Pipeline :=
  (stream.token, stream.pipeline)

/-- What a session shows of a cache: the tokens that have fired, the database without the second of
its tip, and how far the streams of its names have come. -/
structure View where
  fired : List String
  database : Database
  streams : String → Option (Option String × Range.Pipeline)

def View.put (view : View) (name : String) (progress : Option (Option String × Range.Pipeline)) :
    View :=
  { view with streams := Function.update view.streams name progress }

namespace State

def view (cache : Shared) (s : State) : View where
  fired := s.fired
  database := (s.disk.databaseAt cache.place).timeless
  streams name := if cache.isOn name then (s.streams.lookup name).map Stream.progress else none

variable {cache : Shared} {found : Files.Disk} {s t : State} {name : String} {now : Int}

/-! ### What is shown -/

private theorem view_congr {after : State} (fired : after.fired = s.fired)
    (rows : after.disk.databaseAt cache.place = s.disk.databaseAt cache.place)
    (streams : ∀ name, cache.isOn name = true →
      after.streams.lookup name = s.streams.lookup name) : after.view cache = s.view cache := by
  unfold view
  rw [fired, rows]
  congr 1
  funext name
  by_cases on : cache.isOn name = true
  · rw [if_pos on, if_pos on, streams name on]
  · rw [if_neg on, if_neg on]

private theorem view_settle (s : State) : s.settle.view cache = s.view cache :=
  view_congr rfl (databaseAt_settle s _) fun _ _ => rfl

private theorem view_giveStream (on : cache.isOn name = true) {stream : Stream} {after : State}
    (fired : after.fired = s.fired) (disk : after.disk = s.disk)
    (streams : after.streams = s.streams.give name stream) :
    after.view cache = (s.view cache).put name (some stream.progress) := by
  unfold view View.put
  rw [fired, disk, streams]
  congr 1
  funext other
  by_cases here : other = name
  · subst here
    rw [if_pos on, Named.lookup_give_self, Function.update_self]
    rfl
  · rw [Named.lookup_give here, Function.update_of_ne here]

private theorem view_forgetStream (on : cache.isOn name = true) {after : State}
    (fired : after.fired = s.fired) (disk : after.disk = s.disk)
    (streams : after.streams = s.streams.forget name) :
    after.view cache = (s.view cache).put name none := by
  unfold view View.put
  rw [fired, disk, streams]
  congr 1
  funext other
  by_cases here : other = name
  · subst here
    rw [if_pos on, Named.lookup_forget_self, Function.update_self]
    rfl
  · rw [Named.lookup_forget here, Function.update_of_ne here]

private theorem view_perform (serving : s.Serving cache found) {handle : Handle}
    (leads : s.ways[handle.link]? = some cache.way) (call : Cache.Call) :
    (s.perform handle call).2.view cache = { s.view cache with
      database := (call.perform (s.connection handle)).2.database.timeless } := by
  unfold view
  rw [serving.databaseAt_perform leads]
  rfl

/-! ### What is not a step -/

private theorem aside_carryOut (hosts : s.Hosts cache found) (known : cache.Found found)
    {command : Command} (keeps : (Act.command command).keepsTo cache = true)
    (aside : (Act.command command).isStep cache = false) :
    (s.carryOut now command).2.fired = s.fired ∧ (s.carryOut now command).2.disk = s.disk := by
  cases command with
  | openFile name settings =>
    obtain ⟨-, opened, -, answered⟩ := hosts.openCache known keeps
    simp only [carryOut, answered]
    exact ⟨rfl, rfl⟩
  | openMemory name settings =>
    simp only [carryOut, openInMemory]
    split <;> exact ⟨rfl, rfl⟩
  | copy name newName =>
    simp only [carryOut, withHandle]
    split <;> exact ⟨rfl, rfl⟩
  | close name => exact ⟨rfl, rfl⟩
  | limits name | describe name =>
    simp only [carryOut, withHandle]
    split <;> exact ⟨rfl, rfl⟩
  | fire token => cases aside
  | call name token operation =>
    simp only [carryOut, withHandle]
    split
    · exact ⟨rfl, rfl⟩
    · rename_i handle named
      obtain ⟨leads, -⟩ := hosts.arranged.handle_leads named
      rw [Shared.wayOf_off aside] at leads
      exact ⟨rfl, disk_perform_of_private leads _⟩
  | streamOpen name stream token first last =>
    simp only [carryOut, withHandle]
    split
    · exact ⟨rfl, rfl⟩
    · unfold streamOpen
      split <;> exact ⟨rfl, rfl⟩
  | streamNext name count =>
    simp only [carryOut, withStream]
    split
    · exact ⟨rfl, rfl⟩
    · split
      · exact ⟨rfl, rfl⟩
      · exact ⟨fired_lookedThrough s _, disk_lookedThrough s _⟩
  | streamCollect name =>
    simp only [carryOut, withStream]
    split
    · exact ⟨rfl, rfl⟩
    · exact ⟨fired_lookedThrough s _, disk_lookedThrough s _⟩
  | streamDrop name => exact ⟨rfl, rfl⟩
  | streamKill name =>
    simp only [carryOut, withStream]
    split <;> exact ⟨rfl, rfl⟩
  | openConfigured _ _ | writeFile _ _ | makeDirectory _ | pathKind _ | commandLine _
  | interfere _ _ | unlock _ | dump _ => cases keeps

private theorem aside_ask (s : State) (name : String) (ahead : Nat) :
    (s.ask name ahead).2.fired = s.fired ∧ (s.ask name ahead).2.disk = s.disk := by
  unfold ask withStream
  split
  · exact ⟨rfl, rfl⟩
  · exact ⟨fired_lookedThrough s _, disk_lookedThrough s _⟩

private theorem foreign_of_aside {act : Act} (keeps : act.keepsTo cache = true)
    (aside : act.isStep cache = false) (on : cache.isOn name = true) :
    act.concerns name = false := by
  have apart {stream : String} (off : cache.isOn stream = false) : (stream == name) = false := by
    refine beq_false_of_ne fun here => ?_
    rw [here, on] at off
    cases off
  cases act with
  | ask stream ahead => exact apart aside
  | command command =>
    cases command with
    | streamOpen handle stream token first last =>
      have alike : cache.isOn handle = cache.isOn stream := by simpa [Act.keepsTo] using keeps
      exact apart (alike.symm.trans aside)
    | streamNext stream _ | streamCollect stream | streamDrop stream | streamKill stream =>
      exact apart aside
    | _ => rfl

/-- What is no step on the cache is not seen through it. -/
private theorem view_of_aside (hosts : s.Hosts cache found) (known : cache.Found found) {act : Act}
    (keeps : act.keepsTo cache = true) (aside : act.isStep cache = false) :
    (s.act now act).2.view cache = s.view cache := by
  have unseen : (s.act now act).2.fired = s.fired ∧
      (s.act now act).2.disk.databaseAt cache.place = s.disk.databaseAt cache.place := by
    cases act with
    | ask name ahead =>
      obtain ⟨fired, disk⟩ := aside_ask s name ahead
      exact ⟨fired, (databaseAt_settle _ _).trans (congrArg (·.databaseAt cache.place) disk)⟩
    | command command =>
      obtain ⟨fired, disk⟩ := @aside_carryOut _ _ _ now hosts known _ keeps aside
      exact ⟨fired, (databaseAt_settle _ _).trans (congrArg (·.databaseAt cache.place) disk)⟩
  exact view_congr unseen.1 unseen.2 fun name on => stream_act (foreign_of_aside keeps aside on) now

/-! ### Steps -/

/-- The same step has been taken in one session and in another, from a state with given handles:
something was there under its name, the replies are the same apart from the second of a tip, the
same is shown afterwards, and the other session has kept its handles. -/
structure InStep (cache : Shared) (handles : Named Handle) (mine other : Reply × State) : Prop where
  met : mine.1.missed = false
  replies : other.1.timeless = mine.1.timeless
  views : other.2.view cache = mine.2.view cache
  handles : other.2.handles = handles

section Steps

variable (hosts : s.Hosts cache found) (hosts' : t.Hosts cache found)
  (same : t.view cache = s.view cache)

include same in
private theorem hasFired_of_view (token : Option String) : t.hasFired token = s.hasFired token := by
  have fired : t.fired = s.fired := congrArg View.fired same
  cases token with
  | none => rfl
  | some token => exact congrArg (List.contains · token) fired

include same in
private theorem stream_of_view (on : cache.isOn name = true) :
    (t.streams.lookup name).map Stream.progress = (s.streams.lookup name).map Stream.progress := by
  have shown := congrFun (congrArg View.streams same) name
  simpa only [view, on, ↓reduceIte] using shown

include same in
private theorem connection_of_view {handle handle' : Handle}
    (leads : s.ways[handle.link]? = some cache.way)
    (leads' : t.ways[handle'.link]? = some cache.way) :
    (s.connection handle).toRights = {} ∧ (t.connection handle').toRights = {} ∧
      (t.connection handle').database.timeless = (s.connection handle).database.timeless := by
  obtain ⟨rights, here⟩ := connection_of_way leads
  obtain ⟨rights', here'⟩ := connection_of_way leads'
  refine ⟨rights, rights', ?_⟩
  rw [here, here']
  exact congrArg View.database same

include same in
private theorem reader_of_view {stream stream' : Stream}
    (leads : s.ways[stream.handle.link]? = some cache.way)
    (leads' : t.ways[stream'.handle.link]? = some cache.way) :
    t.reader stream' = s.reader stream := by
  obtain ⟨rights, rights', rows⟩ := connection_of_view same leads leads'
  funext height
  refine Cache.rangeRead_congr ?_ ?_
  · exact Storage.readFault?_congr (rights'.trans rights.symm)
      (Database.sameAccess_of_timeless rows)
  · exact congrArg (Option.map fun table => table.row? height.toNat)
      (Database.blocks_of_timeless rows)

include same in
private theorem nextMany_of_view {stream stream' : Stream}
    (leads : s.ways[stream.handle.link]? = some cache.way)
    (leads' : t.ways[stream'.handle.link]? = some cache.way)
    (progress : stream'.progress = stream.progress) (count : Nat) :
    (t.nextMany count stream').1 = (s.nextMany count stream).1 ∧
      (t.nextMany count stream').2.progress = (s.nextMany count stream).2.progress := by
  induction count generalizing stream stream' with
  | zero => exact ⟨rfl, progress⟩
  | succ count ih =>
    obtain ⟨token, pipeline⟩ := Prod.mk.inj progress
    have once : t.next stream' = ((s.next stream).1, { stream' with
        pipeline := (s.next stream).2.pipeline }) := by
      simp only [next, token, pipeline, reader_of_view same leads leads', hasFired_of_view same]
    have further : ({ stream' with pipeline := (s.next stream).2.pipeline } : Stream).progress =
        (s.next stream).2.progress := by
      rw [Stream.progress, Stream.progress, token]
      rfl
    obtain ⟨polls, rest⟩ := @ih (s.next stream).2 { stream' with
      pipeline := (s.next stream).2.pipeline } leads leads' further
    simp only [nextMany, once]
    exact ⟨congrArg _ polls, rest⟩

private theorem views_of_give (same : t.view cache = s.view cache) (on : cache.isOn name = true)
    {next next' : Stream} {after after' : State} (fired : after.fired = s.fired)
    (disk : after.disk = s.disk) (streams : after.streams = s.streams.give name next)
    (fired' : after'.fired = t.fired) (disk' : after'.disk = t.disk)
    (streams' : after'.streams = t.streams.give name next')
    (progress : next'.progress = next.progress) : after'.view cache = after.view cache :=
  calc after'.view cache = (t.view cache).put name (some next'.progress) :=
        view_giveStream on fired' disk' streams'
    _ = (s.view cache).put name (some next.progress) := by rw [same, progress]
    _ = after.view cache := (view_giveStream on fired disk streams).symm

private theorem views_of_forget (same : t.view cache = s.view cache) (on : cache.isOn name = true)
    {after after' : State} (fired : after.fired = s.fired) (disk : after.disk = s.disk)
    (streams : after.streams = s.streams.forget name) (fired' : after'.fired = t.fired)
    (disk' : after'.disk = t.disk) (streams' : after'.streams = t.streams.forget name) :
    after'.view cache = after.view cache :=
  calc after'.view cache = (t.view cache).put name none :=
        view_forgetStream on fired' disk' streams'
    _ = (s.view cache).put name none := by rw [same]
    _ = after.view cache := (view_forgetStream on fired disk streams).symm

private theorem withHandle_inStep {original : String} {handle' : Handle}
    (there : t.handles.lookup original = some handle') {act act' : Handle → Reply × State}
    (each : ∀ handle, s.handles.lookup name = some handle →
      InStep cache t.handles (act handle) (act' handle')) :
    s.withHandle name act = (.noHandle, s) ∨
      InStep cache t.handles (s.withHandle name act) (t.withHandle original act') := by
  simp only [withHandle, there]
  cases named : s.handles.lookup name with
  | none => exact .inl rfl
  | some handle => exact .inr (each handle named)

include same in
private theorem withStream_inStep (on : cache.isOn name = true) {act act' : Stream → Reply × State}
    (each : ∀ stream stream', s.streams.lookup name = some stream →
      t.streams.lookup name = some stream' → stream'.progress = stream.progress →
      InStep cache t.handles (act stream) (act' stream')) :
    s.withStream name act = (.noHandle, s) ∨
      InStep cache t.handles (s.withStream name act) (t.withStream name act') := by
  have shown := stream_of_view same on
  simp only [withStream]
  cases named : s.streams.lookup name with
  | none => exact .inl rfl
  | some stream =>
    rw [named, Option.map_some] at shown
    obtain ⟨stream', named', progress⟩ := Option.map_eq_some_iff.mp shown
    rw [named']
    exact .inr (each stream stream' named named' progress)

include hosts hosts' same in
private theorem call_inStep {original : String} {handle handle' : Handle}
    (on : cache.isOn name = true) (on' : cache.isOn original = true)
    (named : s.handles.lookup name = some handle)
    (named' : t.handles.lookup original = some handle') (token : Option String)
    (operation : Cache.Operation) (now now' : Int) :
    let mine := s.perform handle ⟨operation, s.hasFired token, now⟩
    let other := t.perform handle' ⟨operation, t.hasFired token, now'⟩
    InStep cache t.handles (Reply.ofResult Reply.answer mine.1, mine.2)
      (Reply.ofResult Reply.answer other.1, other.2) := by
  obtain ⟨leads, -⟩ := hosts.arranged.handle_leads named
  obtain ⟨leads', -⟩ := hosts'.arranged.handle_leads named'
  rw [Shared.wayOf_on on] at leads
  rw [Shared.wayOf_on on'] at leads'
  obtain ⟨rights, rights', rows⟩ := connection_of_view same leads leads'
  have sound : (s.connection handle).database.Sound := by
    rw [(connection_of_way leads).2]
    exact hosts.serving.sound
  have sound' : (t.connection handle').database.Sound := by
    rw [(connection_of_way leads').2]
    exact hosts'.serving.sound
  have answers := Cache.answer_timeless sound sound' rights rights' rows operation
    (s.hasFired token) now now'
  have left := Cache.database_timeless rows answers
  have told (result : Except Error Cache.Answer) : (Reply.ofResult Reply.answer result).timeless =
      Reply.ofResult Reply.answer (Cache.timelessly result) := by
    cases result <;> rfl
  intro mine other
  refine ⟨?_, ?_, ?_, rfl⟩
  · show (Reply.ofResult Reply.answer mine.1).missed = false
    cases mine.1 <;> rfl
  · show (Reply.ofResult Reply.answer other.1).timeless =
      (Reply.ofResult Reply.answer mine.1).timeless
    rw [told, told]
    refine congrArg _ (Eq.trans ?_ answers)
    simp only [other, hasFired_of_view same]
    rfl
  · show other.2.view cache = mine.2.view cache
    simp only [mine, other, view_perform hosts.serving leads, view_perform hosts'.serving leads',
      hasFired_of_view same, same, left]

include hosts hosts' in
private theorem limits_of_hosts {original : String} {handle handle' : Handle}
    (on : cache.isOn name = true) (on' : cache.isOn original = true)
    (named : s.handles.lookup name = some handle)
    (named' : t.handles.lookup original = some handle') : handle'.limits = handle.limits :=
  ((hosts'.arranged.handle_leads named').2 on').trans
    ((hosts.arranged.handle_leads named).2 on).symm

include hosts hosts' same in
private theorem streamOpen_inStep {original stream : String} {handle handle' : Handle}
    (on : cache.isOn name = true) (on' : cache.isOn original = true)
    (aimed : cache.isOn stream = true) (named : s.handles.lookup name = some handle)
    (named' : t.handles.lookup original = some handle') (token : Option String)
    (first last : Height) :
    InStep cache t.handles (s.streamOpen stream token first last handle)
      (t.streamOpen stream token first last handle') := by
  unfold streamOpen
  rw [limits_of_hosts hosts hosts' on on' named named']
  cases Range.accept handle.limits first last with
  | ok pipeline =>
    exact ⟨rfl, rfl, views_of_give same aimed rfl rfl rfl rfl rfl rfl rfl, rfl⟩
  | error failure =>
    cases failure with
    | error e => exact ⟨rfl, rfl, same, rfl⟩
    | crash => exact ⟨rfl, rfl, same, rfl⟩

include same in
private theorem give_inStep (on : cache.isOn name = true) {stream stream' next next' : Stream}
    {reply reply' : Reply} (met : reply.missed = false) (replies : reply' = reply)
    (progress : next'.progress = next.progress) :
    InStep cache t.handles
      (reply, { s.lookedThrough stream with streams := s.streams.give name next })
      (reply', { t.lookedThrough stream' with streams := t.streams.give name next' }) := by
  refine ⟨met, congrArg Reply.timeless replies, ?_, handles_lookedThrough t stream'⟩
  exact views_of_give same on (fired_lookedThrough s stream) (disk_lookedThrough s stream) rfl
    (fired_lookedThrough t stream') (disk_lookedThrough t stream') rfl progress

include hosts hosts' same in
private theorem ask_inStep (on : cache.isOn name = true) (ahead : Nat) :
    s.ask name ahead = (.noHandle, s) ∨
      InStep cache t.handles (s.ask name ahead) (t.ask name ahead) := by
  refine withStream_inStep same on fun stream stream' named named' progress => ?_
  have leads := hosts.arranged.stream_leads named
  have leads' := hosts'.arranged.stream_leads named'
  rw [Shared.wayOf_on on] at leads leads'
  obtain ⟨token, pipeline⟩ := Prod.mk.inj progress
  simp only [streams_lookedThrough, token, pipeline, reader_of_view same leads leads',
    hasFired_of_view same]
  exact give_inStep same on rfl rfl (by simp only [Stream.progress])

include hosts hosts' same in
private theorem streamNext_inStep (on : cache.isOn name = true) (count : Nat) (now now' : Int) :
    s.carryOut now (.streamNext name count) = (.noHandle, s) ∨
      InStep cache t.handles (s.carryOut now (.streamNext name count))
        (t.carryOut now' (.streamNext name count)) := by
  refine withStream_inStep same on fun stream stream' named named' progress => ?_
  have leads := hosts.arranged.stream_leads named
  have leads' := hosts'.arranged.stream_leads named'
  rw [Shared.wayOf_on on] at leads leads'
  obtain ⟨polls, further⟩ := nextMany_of_view same leads leads' progress count
  by_cases none_asked : count = 0
  · simp only [if_pos none_asked]
    exact ⟨rfl, congrArg (fun told => (Reply.polls told).timeless) polls,
      views_of_give same on rfl rfl rfl rfl rfl rfl further, rfl⟩
  · simp only [if_neg none_asked, streams_lookedThrough]
    exact give_inStep same on rfl (congrArg Reply.polls polls) further

include hosts hosts' same in
private theorem streamCollect_inStep (on : cache.isOn name = true) (now now' : Int) :
    s.carryOut now (.streamCollect name) = (.noHandle, s) ∨
      InStep cache t.handles (s.carryOut now (.streamCollect name))
        (t.carryOut now' (.streamCollect name)) := by
  refine withStream_inStep same on fun stream stream' named named' progress => ?_
  have leads := hosts.arranged.stream_leads named
  have leads' := hosts'.arranged.stream_leads named'
  rw [Shared.wayOf_on on] at leads leads'
  obtain ⟨token, pipeline⟩ := Prod.mk.inj progress
  simp only [token, pipeline, reader_of_view same leads leads', hasFired_of_view same]
  refine ⟨?_, rfl, ?_, handles_lookedThrough t stream'⟩
  · cases stream.pipeline.collect 0 (s.reader stream) (s.hasFired stream.token) <;> rfl
  · exact views_of_forget same on (fired_lookedThrough s stream) (disk_lookedThrough s stream) rfl
      (fired_lookedThrough t stream') (disk_lookedThrough t stream') rfl

include same in
private theorem streamKill_inStep (on : cache.isOn name = true) (now now' : Int) :
    s.carryOut now (.streamKill name) = (.noHandle, s) ∨
      InStep cache t.handles (s.carryOut now (.streamKill name))
        (t.carryOut now' (.streamKill name)) := by
  refine withStream_inStep same on fun stream stream' named named' progress => ?_
  obtain ⟨token, pipeline⟩ := Prod.mk.inj progress
  refine ⟨rfl, rfl, views_of_give same on rfl rfl rfl rfl rfl rfl ?_, rfl⟩
  simp only [Stream.progress, token, pipeline]

include same in
private theorem streamDrop_inStep (on : cache.isOn name = true) (now now' : Int) :
    InStep cache t.handles (s.carryOut now (.streamDrop name))
      (t.carryOut now' (.streamDrop name)) := by
  have shown := congrArg Option.isSome (stream_of_view same on)
  rw [Option.isSome_map, Option.isSome_map] at shown
  exact ⟨rfl, congrArg Reply.existed shown, views_of_forget same on rfl rfl rfl rfl rfl rfl, rfl⟩

include same in
private theorem fire_inStep (token : String) (now now' : Int) :
    InStep cache t.handles (s.carryOut now (.fire token)) (t.carryOut now' (.fire token)) := by
  refine ⟨rfl, rfl, ?_, rfl⟩
  show ({ t.view cache with fired := token :: (t.view cache).fired } : View) =
    { s.view cache with fired := token :: (s.view cache).fired }
  rw [same]

include hosts hosts' same in
private theorem carryOut_inStep {original : String} {handle' : Handle}
    (on' : cache.isOn original = true) (named' : t.handles.lookup original = some handle')
    {command : Command} (keeps : (Act.command command).keepsTo cache = true)
    (step : (Act.command command).isStep cache = true) (now now' : Int) :
    s.carryOut now command = (.noHandle, s) ∨
      ∃ command', (Act.command command).through original = .command command' ∧
        InStep cache t.handles (s.carryOut now command) (t.carryOut now' command') := by
  cases command with
  | call name token operation =>
    exact (withHandle_inStep named' fun handle named => call_inStep hosts hosts' same step on' named
      named' token operation now now').imp_right fun inStep => ⟨_, rfl, inStep⟩
  | limits name =>
    refine (withHandle_inStep named' fun handle named => ?_).imp_right
      fun inStep => ⟨_, rfl, inStep⟩
    have alike := limits_of_hosts hosts hosts' step on' named named'
    exact ⟨rfl, congrArg Reply.limits alike, same, rfl⟩
  | describe name =>
    refine (withHandle_inStep named' fun handle named => ?_).imp_right
      fun inStep => ⟨_, rfl, inStep⟩
    have alike := limits_of_hosts hosts hosts' step on' named named'
    exact ⟨rfl, congrArg (fun limits => Reply.text (handleText limits)) alike, same, rfl⟩
  | streamOpen name stream token first last =>
    have alike : cache.isOn name = cache.isOn stream := by simpa [Act.keepsTo] using keeps
    exact (withHandle_inStep named' fun handle named => streamOpen_inStep hosts hosts' same step on'
      (alike.symm.trans step) named named' token first last).imp_right
        fun inStep => ⟨_, rfl, inStep⟩
  | streamNext name count =>
    exact (streamNext_inStep hosts hosts' same step count now now').imp_right
      fun inStep => ⟨_, rfl, inStep⟩
  | streamCollect name =>
    exact (streamCollect_inStep hosts hosts' same step now now').imp_right
      fun inStep => ⟨_, rfl, inStep⟩
  | streamKill name =>
    exact (streamKill_inStep same step now now').imp_right fun inStep => ⟨_, rfl, inStep⟩
  | streamDrop name => exact .inr ⟨_, rfl, streamDrop_inStep same step now now'⟩
  | fire token => exact .inr ⟨_, rfl, fire_inStep same token now now'⟩
  | _ => cases step

private theorem InStep.settle {handles : Named Handle} {reply reply' : Reply} {after after' : State}
    (inStep : InStep cache handles (reply, after) (reply', after')) :
    InStep cache handles (reply, after.settle) (reply', after'.settle) := by
  refine ⟨inStep.met, inStep.replies, ?_, inStep.handles⟩
  rw [view_settle, view_settle]
  exact inStep.views

include hosts hosts' same in
private theorem act_inStep {original : String} {handle' : Handle}
    (on' : cache.isOn original = true) (named' : t.handles.lookup original = some handle')
    {act : Act} (keeps : act.keepsTo cache = true) (step : act.isStep cache = true)
    (now now' : Int) :
    (s.act now act).1.missed = true ∧ (s.act now act).2.view cache = s.view cache ∨
      InStep cache t.handles (s.act now act) (t.act now' (act.through original)) := by
  cases act with
  | ask name ahead =>
    rcases ask_inStep hosts hosts' same step ahead with nothing | inStep
    · left
      simp only [State.act, nothing]
      exact ⟨rfl, view_settle s⟩
    · exact .inr inStep.settle
  | command command =>
    rcases carryOut_inStep hosts hosts' same on' named' keeps step now now' with
      nothing | ⟨command', through, inStep⟩
    · left
      simp only [State.act, State.step, nothing]
      exact ⟨rfl, view_settle s⟩
    · right
      rw [through]
      exact inStep.settle

include hosts hosts' same in
private theorem inStep_of_taken {original : String} {handle' : Handle}
    (on' : cache.isOn original = true) (named' : t.handles.lookup original = some handle')
    {act : Act} (keeps : act.keepsTo cache = true)
    (taken : (act.isStep cache && !(s.act now act).1.missed) = true) (now' : Int) :
    InStep cache t.handles (s.act now act) (t.act now' (act.through original)) := by
  simp only [Bool.and_eq_true, Bool.not_eq_true'] at taken
  obtain ⟨step, met⟩ := taken
  refine (act_inStep hosts hosts' same on' named' keeps step now now').resolve_left ?_
  rintro ⟨missed, -⟩
  rw [met] at missed
  cases missed

include hosts hosts' same in
private theorem view_of_untaken (known : cache.Found found) {original : String} {handle' : Handle}
    (on' : cache.isOn original = true) (named' : t.handles.lookup original = some handle')
    {act : Act} (keeps : act.keepsTo cache = true)
    (untaken : ¬ (act.isStep cache && !(s.act now act).1.missed) = true) :
    (s.act now act).2.view cache = s.view cache := by
  cases step : act.isStep cache with
  | false => exact view_of_aside hosts known keeps step
  | true =>
    rcases act_inStep hosts hosts' same on' named' keeps step now now with ⟨-, unseen⟩ | inStep
    · exact unseen
    · rw [step, inStep.met] at untaken
      exact absurd rfl untaken

end Steps

theorem keepsTo_through {act : Act} {original : String} (on : cache.isOn original = true)
    (keeps : act.keepsTo cache = true) (step : act.isStep cache = true) :
    (act.through original).keepsTo cache = true := by
  cases act with
  | ask name ahead => rfl
  | command command =>
    cases command with
    | streamOpen name stream token first last =>
      have alike : cache.isOn name = cache.isOn stream := by simpa [Act.keepsTo] using keeps
      have aimed : cache.isOn stream = true := alike.symm.trans step
      simp [Act.through, Act.keepsTo, on, aimed]
    | _ => exact keeps

/-! ### Runs -/

/-- A run that keeps to the cache, and the run of its steps through one handle. -/
private theorem play_inStep {original : String} {handle' : Handle} {acts single : List (Int × Act)}
    (known : cache.Found found) (hosts : s.Hosts cache found) (hosts' : t.Hosts cache found)
    (same : t.view cache = s.view cache) (on : cache.isOn original = true)
    (named' : t.handles.lookup original = some handle')
    (keeps : ∀ entry ∈ acts, entry.2.keepsTo cache = true)
    (clock : ∀ entry ∈ acts, Calendar.representable entry.1 = true)
    (clock' : ∀ entry ∈ single, Calendar.representable entry.1 = true)
    (script : single.map Prod.snd =
      (steps cache (s.play acts).1).map fun entry => entry.1.through original) :
    (t.play single).1.map (fun entry => entry.2.timeless) =
        (steps cache (s.play acts).1).map (fun entry => entry.2.timeless) ∧
      (t.play single).2.view cache = (s.play acts).2.view cache := by
  -- On what happens in the first session; both host the cache and show the same all along.
  induction acts generalizing s t single with
  | nil =>
    obtain rfl : single = [] := List.map_eq_nil_iff.mp script
    exact ⟨rfl, same⟩
  | cons entry acts ih =>
    obtain ⟨now, act⟩ := entry
    have keeps_now := keeps (now, act) List.mem_cons_self
    have hosts_next := hosts.act known (clock (now, act) List.mem_cons_self) keeps_now
    have keeps_next : ∀ entry ∈ acts, entry.2.keepsTo cache = true :=
      fun entry member => keeps entry (List.mem_cons_of_mem _ member)
    have clock_next : ∀ entry ∈ acts, Calendar.representable entry.1 = true :=
      fun entry member => clock entry (List.mem_cons_of_mem _ member)
    have played : steps cache (s.play ((now, act) :: acts)).1 =
        if act.isStep cache && !(s.act now act).1.missed then
          (act, (s.act now act).1) :: steps cache ((s.act now act).2.play acts).1
        else steps cache ((s.act now act).2.play acts).1 := List.filter_cons
    have after : (s.play ((now, act) :: acts)).2 = ((s.act now act).2.play acts).2 := rfl
    rw [played] at script ⊢
    rw [after]
    by_cases taken : (act.isStep cache && !(s.act now act).1.missed) = true
    · -- A step: the other session takes it through its handle.
      rw [if_pos taken] at script ⊢
      obtain ⟨⟨now', act'⟩, single, rfl, through, rest⟩ := List.map_eq_cons_iff.mp script
      obtain rfl : act' = act.through original := through
      have inStep := inStep_of_taken hosts hosts' same on named' keeps_now taken now'
      have keeps_now' := keepsTo_through on keeps_now (Bool.and_eq_true_iff.mp taken).1
      have hosts_next' := hosts'.act known (clock' _ List.mem_cons_self) keeps_now'
      obtain ⟨replies, views⟩ := ih hosts_next hosts_next' inStep.views
        (inStep.handles ▸ named') keeps_next clock_next
        (fun entry member => clock' entry (List.mem_cons_of_mem _ member)) rest
      exact ⟨List.cons_eq_cons.mpr ⟨inStep.replies, replies⟩, views⟩
    · -- Anything else is not seen, and the other session has nothing to do.
      rw [if_neg taken] at script ⊢
      have unseen := view_of_untaken hosts hosts' same known on named' keeps_now taken
      exact ih hosts_next hosts' (same.trans unseen.symm) named' keeps_next clock_next clock' script

/-! ### The first handle -/

/-- A session that has nothing but private caches, and no handle or stream under a name of the
cache. -/
structure Aloof (cache : Shared) (s : State) : Prop where
  links : ∀ link ∈ s.links, link.way = privateWay
  handles : ∀ entry ∈ s.handles, cache.isOn entry.1 = false ∧ entry.2.link < s.links.length
  streams : ∀ entry ∈ s.streams, cache.isOn entry.1 = false ∧ entry.2.handle.link < s.links.length

private theorem Aloof.arranged (aloof : s.Aloof cache) : s.Arranged cache := by
  have apart {number : Nat} (within : number < s.links.length) {name : String}
      (off : cache.isOn name = false) : s.ways[number]? = some (cache.wayOf name) := by
    rw [ways, List.getElem?_map, List.getElem?_eq_getElem within, Option.map_some,
      aloof.links _ (List.getElem_mem within), Shared.wayOf_off off]
  refine ⟨fun way member => ?_, fun entry member => ?_, fun entry member => ?_⟩
  · obtain ⟨link, there, rfl⟩ := List.mem_map.mp member
    exact .inr (aloof.links link there)
  · obtain ⟨off, within⟩ := aloof.handles entry member
    exact ⟨apart within off, fun on => by rw [off] at on; cases on⟩
  · obtain ⟨off, within⟩ := aloof.streams entry member
    exact apart within off

/-- A cache that can be opened in a session. Its settings hold up, and its path leads to its file,
which may have to be created and holds a sound database of this version, or one that becomes sound
when it is prepared. -/
structure Openable (cache : Shared) (found : Files.Disk) (s : State) : Prop where
  valid : cache.settings.validate = .ok ()
  patient : cache.settings.file.busyTimeoutMs.toNat ≤ Files.maxTimeoutMs
  leads : ∃ address link, link.pool = cache.pool ∧
    Files.Leads cache.settings.file.path s.pools s.disk found address link cache.place
  holds : ∃ content db, found.node? cache.place = some (.file content) ∧
    content.toDatabase = .ok db ∧ Cache.Layout.verdict db = .ok () ∧
    (Cache.Layout.readied db).Sound

private theorem opened_hosts {original : String} (aloof : s.Aloof cache)
    (openable : s.Openable cache found) (on : cache.isOn original = true) (now : Int) :
    let opened := s.step now (.openFile original cache.settings)
    opened.1 = .done ∧ opened.2.Hosts cache found ∧
      ∃ handle, opened.2.handles.lookup original = some handle := by
  obtain ⟨valid, patient, ⟨address, link, pool, leads⟩, content, db, holds, read, accepted,
    sound⟩ := openable
  have free : db.locked = false := (Cache.Layout.locked_readied db).symm.trans sound.unlocked
  obtain ⟨opened, after, answered, way, tree, inUse⟩ :=
    Files.openCache_first valid patient leads holds read free accepted
  have meant : opened.way = cache.wayOf original := by
    rw [way, Files.way_of_leads leads, pool, Shared.wayOf_on on]
    rfl
  have answer : s.openCache original cache.settings = (.ok (),
      ({ s with disk := after } : State).connect original opened cache.settings.limits) := by
    simp only [openCache, answered]
  have arranged : ({ s with disk := after } : State).Arranged cache :=
    aloof.arranged.of_same rfl rfl rfl
  have serving : ({ s with disk := after } : State).Serving cache found := by
    refine ⟨tree, ?_, ?_⟩
    · rw [inUse.databaseAt]
      exact inUse
    · rw [inUse.databaseAt]
      exact Cache.sound_log sound true
  have hosts : (({ s with disk := after } : State).connect original opened
      cache.settings.limits).Hosts cache found :=
    ⟨arranged.connect meant fun _ => rfl, serving.of_disk rfl⟩
  simp only [step, carryOut, answer]
  exact ⟨rfl, hosts.settle, _, Named.lookup_give_self _ _ _⟩

private theorem openings_succeed {acts : List (Int × Act)} (known : cache.Found found)
    (hosts : s.Hosts cache found) (keeps : ∀ entry ∈ acts, entry.2.keepsTo cache = true)
    (clock : ∀ entry ∈ acts, Calendar.representable entry.1 = true) (name : String)
    (settings : Settings) (reply : Reply)
    (among : (.command (.openFile name settings), reply) ∈ (s.play acts).1) : reply = .done := by
  induction acts generalizing s with
  | nil => cases among
  | cons entry acts ih =>
    obtain ⟨now, act⟩ := entry
    have keeps_now := keeps (now, act) List.mem_cons_self
    rcases List.mem_cons.mp among with here | later
    · obtain ⟨rfl, rfl⟩ := Prod.mk.inj here
      obtain ⟨-, opened, -, answered⟩ := hosts.openCache known keeps_now
      simp only [step, carryOut, answered]
      rfl
    · exact ih (hosts.act known (clock (now, act) List.mem_cons_self) keeps_now)
        (fun entry member => keeps entry (List.mem_cons_of_mem _ member))
        (fun entry member => clock entry (List.mem_cons_of_mem _ member)) later

/-- Once a cache in a file has been opened, it can be opened again at any moment and its handles
copied, closed and replaced at will, while private caches are used beside it: every opening
succeeds, and the steps on the cache get the replies that they get when all of them are taken
through the handle that was opened first and nothing else happens, and leave the same rows behind,
apart from the second of the last change of the tip. -/
theorem one_handle_suffices {original : String} (aloof : s.Aloof cache)
    (openable : s.Openable cache found) (on : cache.isOn original = true) (start : Int)
    {acts single : List (Int × Act)} (keeps : ∀ entry ∈ acts, entry.2.keepsTo cache = true)
    (clock : ∀ entry ∈ acts ++ single, Calendar.representable entry.1 = true) :
    let opened := s.step start (.openFile original cache.settings)
    let many := opened.2.play acts
    let one := opened.2.play single
    single.map Prod.snd = (steps cache many.1).map (fun entry => entry.1.through original) →
      opened.1 = .done ∧
      (∀ name settings reply, (.command (.openFile name settings), reply) ∈ many.1 →
        reply = .done) ∧
      one.1.map (fun entry => entry.2.timeless) =
        (steps cache many.1).map (fun entry => entry.2.timeless) ∧
      (one.2.disk.databaseAt cache.place).timeless =
        (many.2.disk.databaseAt cache.place).timeless := by
  intro opened many one script
  obtain ⟨done, hosts, handle, named⟩ := opened_hosts aloof openable on start
  obtain ⟨address, link, pool, leads⟩ := openable.leads
  obtain ⟨content, -, holds, -⟩ := openable.holds
  have known : cache.Found found :=
    ⟨openable.valid, ⟨s.pools, s.disk, address, link, pool, leads⟩, content, holds⟩
  have clock_many : ∀ entry ∈ acts, Calendar.representable entry.1 = true :=
    fun entry member => clock entry (List.mem_append_left _ member)
  have clock_one : ∀ entry ∈ single, Calendar.representable entry.1 = true :=
    fun entry member => clock entry (List.mem_append_right _ member)
  obtain ⟨replies, views⟩ :=
    play_inStep known hosts hosts rfl on named keeps clock_many clock_one script
  exact ⟨done, openings_succeed known hosts keeps clock_many, replies,
    congrArg View.database views⟩

private def filed : Shared where
  settings := { file := { path := "c" }, limits := { streamBuffer := 1 } }
  place := Files.Disk.empty.home ++ [Files.Name.ofText "c"]
  pool := none
  isOn name := name != "side"

private def begun : State := ((start .empty).step 1 (.openMemory "side" {})).2

/-- Blocks are stored through the first handle, through a copy of it and through a second opening. A
range is read while each handle is closed in turn; the private cache has other blocks. At last the
cache is opened once more, and the name of the first handle leads nowhere. -/
private def scattered : List (Int × Act) :=
  let put (name : String) (height : Height) (payload : Payload) : Command :=
    .call name none (.acceptBlock ⟨height, "", "", false, payload⟩)
  let again : Settings := { filed.settings with file := { path := "c", busyTimeoutMs := 7 } }
  [(2, .command (put "main" 1 [7])), (3, .command (.copy "main" "copy")),
    (4, .command (.openFile "second" again)), (5, .command (put "copy" 2 [8])),
    (6, .command (put "side" 1 [0])), (7, .command (.streamOpen "second" "s" none 1 3)),
    (8, .ask "s" 0), (9, .command (.close "second")), (10, .command (.close "main")),
    (11, .command (put "copy" 3 [9])), (12, .command (.close "copy")), (13, .ask "s" 0),
    (14, .command (.openFile "third" again)), (15, .command (.call "main" none .tip)),
    (16, .command (.call "third" none .tip)), (17, .ask "s" 1)]

private theorem leads_filed : Files.Leads "c" begun.pools begun.disk
    (Files.Disk.empty.set filed.place (.file (.bytes []))) { name := Files.Name.ofText "c" }
    { location := .file filed.place } filed.place := by
  have parents : Files.makeParents "c" begun.disk = (.ok (), .empty) := by decide +kernel
  exact Files.leads_of_plain (by decide +kernel) (by decide +kernel) (by decide +kernel) parents
    (by decide +kernel) (by decide +kernel) (by decide +kernel) (by decide +kernel)

private theorem openable_filed : begun.Openable filed
    (Files.Disk.empty.set filed.place (.file (.bytes []))) where
  valid := by decide +kernel
  patient := by decide
  leads := ⟨_, _, rfl, leads_filed⟩
  holds := by
    refine ⟨.bytes [], .blank, by decide +kernel, rfl, rfl, ?_⟩
    exact Cache.sound_laidOut rfl rfl

private theorem aloof_begun : begun.Aloof filed :=
  ⟨by decide +kernel, by decide +kernel, by decide +kernel⟩

private def gathered : List (Int × Act) :=
  let opened := begun.step 2 (.openFile "main" filed.settings)
  (steps filed (opened.2.play scattered).1).map fun entry => (90, entry.1.through "main")

theorem scattered_one_handle_suffices :
    let opened := begun.step 2 (.openFile "main" filed.settings)
    let many := opened.2.play scattered
    let one := opened.2.play gathered
    one.1.map (fun entry => entry.2.timeless) =
        (steps filed many.1).map (fun entry => entry.2.timeless) ∧
      heard (one.1.map Prod.snd) = [.item ⟨1, [7]⟩, .item ⟨2, [8]⟩, .item ⟨3, [9]⟩] ∧
      (one.2.disk.databaseAt filed.place).timeless =
        (many.2.disk.databaseAt filed.place).timeless := by
  have script : gathered.map Prod.snd = (steps filed
      ((begun.step 2 (.openFile "main" filed.settings)).2.play scattered).1).map
        fun entry => entry.1.through "main" := by
    simp only [gathered, List.map_map, Function.comp_def]
  have clock : ∀ entry ∈ scattered ++ gathered, Calendar.representable entry.1 = true := by
    intro entry member
    rcases List.mem_append.mp member with mine | other
    · have dated : ∀ entry ∈ scattered, Calendar.representable entry.1 = true := by decide +kernel
      exact dated entry mine
    · obtain ⟨step, -, rfl⟩ := List.mem_map.mp other
      have dated : Calendar.representable 90 = true := by decide +kernel
      exact dated
  obtain ⟨-, -, replies, rows⟩ := one_handle_suffices aloof_begun openable_filed (by decide +kernel)
    2 (by decide +kernel) clock script
  exact ⟨replies, by decide +kernel, rows⟩

end State

end ChainStore.Session
