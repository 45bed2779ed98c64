import ChainStore.Proofs.Cache.Sound
import ChainStore.Proofs.Range.Provenance

set_option autoImplicit false
set_option relaxedAutoImplicit false

/-!
What a cache has written it can read. As long as nobody but its own clients touches a database that
has been laid out, with clocks that show seconds of the calendar, no operation and no range ever
meets a row that it cannot read or a change that does not go through.
-/

namespace ChainStore.Cache

open Storage

/-- The steps of a cache's own clients: they have full rights and clocks within the calendar. -/
def Step.isOwn : Step → Bool
  | .call through request =>
    decide (through.toRights = {}) && Calendar.representable request.now
  | .interfere _ => false
  | .read _ _ | .reopen _ | .log _ => true

/-- A call that fails was called off, or looked for something that is not there. -/
def Entry.Plain (entry : Entry) : Prop :=
  ∀ e, entry.answer = .error e →
    if entry.call.fired then e = .cancelled else e.isNotFound = true

/-- What the tip is and how high it is are answered alike, whenever they are asked for. -/
def TipsAgree (c : Connection) : Prop :=
  ∃ tip : Option Tip, ∀ now,
    (Call.perform ⟨.tip, false, now⟩ c).1 =
        (match tip with
          | some tip => .ok (.tip tip)
          | none => .error (.notFound .tip)) ∧
      (Call.perform ⟨.tipHeight, false, now⟩ c).1 =
        (match tip with
          | some tip => .ok (.height tip.height)
          | none => .error (.notFound .tip))

private theorem plain_perform (call : Call) {c : Connection} (sound : c.database.Sound)
    (rights : c.toRights = {}) : Entry.Plain ⟨call, (call.perform c).1⟩ := by
  obtain ⟨operation, fired, now⟩ := call
  intro e failed
  cases fired with
  | true => exact (Except.error.inj failed).symm
  | false => exact legible_action operation now sound rights e failed

private theorem sound_step {step : Step} (own : step.isOwn = true) {db : Database}
    (sound : db.Sound) : (step.apply db).2.Sound := by
  cases step with
  | call through request =>
    have clock := (Bool.and_eq_true_iff.mp own).2
    exact sound_perform (c := through.holding db) clock sound
  | read through height =>
    have same : (Step.apply db (.read through height)).2 = db :=
      still_during (still_query _) (through.holding db)
    rwa [same]
  | reopen through => exact sound_prepare (c := through.holding db) sound
  | log logged => exact sound_log sound logged
  | interfere act => cases own

private theorem plain_step {step : Step} (own : step.isOwn = true) {db : Database}
    (sound : db.Sound) : ∀ entry ∈ (step.apply db).1, entry.Plain := by
  cases step with
  | call through request =>
    have rights := of_decide_eq_true (Bool.and_eq_true_iff.mp own).1
    intro entry made
    obtain rfl := Option.some.inj made
    exact plain_perform request (c := through.holding db) sound rights
  | read _ _ | reopen _ | log _ | interfere _ => exact fun entry made => by cases made

private theorem sound_run {steps : List Step} (own : ∀ step ∈ steps, step.isOwn = true)
    {db : Database} (sound : db.Sound) :
    (run steps db).2.Sound ∧ ∀ entry ∈ (run steps db).1, entry.Plain := by
  induction steps generalizing db with
  | nil => exact ⟨sound, fun _ member => absurd member List.not_mem_nil⟩
  | cons step steps ih =>
    have first := own step List.mem_cons_self
    obtain ⟨last, plain⟩ := ih (fun other member => own other (List.mem_cons_of_mem step member))
      (sound_step first sound)
    refine ⟨last, fun entry member => ?_⟩
    rcases List.mem_append.mp member with here | later
    · exact plain_step first sound entry (Option.mem_toList.mp here)
    · exact plain entry later

private theorem tipsAgree_of_sound {c : Connection} (sound : c.database.Sound)
    (rights : c.toRights = {}) : TipsAgree c := by
  have able := readFault?_of_writeFault? (Connection.writeFault?_of_free rights sound.unlocked)
  obtain ⟨tip, -, whole, height⟩ := sound.tip_reads
  refine ⟨tip, fun now => ⟨?_, ?_⟩⟩
  · show ((Answer.tip <$> Cache.tip).run c).1 = _
    rw [answer_map, Cache.tip, answer_of_read _ _ _ able whole]
    cases tip <;> rfl
  · show ((Answer.height <$> Cache.tipHeight).run c).1 = _
    rw [answer_map, Cache.tipHeight, answer_of_read _ _ _ able height]
    cases tip <;> rfl

theorem rangeRead_of_sound {c : Connection} (sound : c.database.Sound) (rights : c.toRights = {})
    (height : Height) : ∃ found, rangeRead c height = .ok found := by
  have able := readFault?_of_writeFault? (Connection.writeFault?_of_free rights sound.unlocked)
  obtain ⟨found, read⟩ := sound.payloadAt_reads height
  refine ⟨found, ?_⟩
  rw [rangeRead, payloadForRange, answer_during, answer_query, able]
  exact congrArg (Except.mapError _) read

end ChainStore.Cache

namespace ChainStore.Range

open Storage (Connection)

/-- What happens to a range of its own accord and through the cache's own clients. A producer may
leave when it notices a fired token, but it does not die. -/
def Turn.isOwn : Turn → Bool
  | .call through request =>
    decide (through.toRights = {}) && Calendar.representable request.now
  | .interfere _ => false
  | .move made => made != .die

/-- A range is never ended by a failure but by its token. -/
def Poll.Plain (poll : Poll) : Prop := ∀ e, poll = .failed e → e = .cancelled

namespace Scene

private theorem sound_step {turn : Turn} (own : turn.isOwn = true) {scene : Scene}
    (sound : scene.connection.database.Sound) :
    (scene.step turn).2.connection.database.Sound := by
  cases turn with
  | call through call =>
    have clock := (Bool.and_eq_true_iff.mp own).2
    exact Cache.sound_perform (c := through.holding scene.connection.database) clock sound
  | interfere act => cases own
  | move move => exact sound

private theorem rights_step (turn : Turn) (scene : Scene) :
    (scene.step turn).2.connection.toRights = scene.connection.toRights := by
  cases turn <;> rfl

private theorem sound_run {turns : List Turn} (own : ∀ turn ∈ turns, turn.isOwn = true)
    (scene : Scene) (sound : scene.connection.database.Sound)
    (rights : scene.connection.toRights = {}) :
    (scene.run turns).2.connection.database.Sound ∧
      (scene.run turns).2.connection.toRights = {} := by
  induction turns generalizing scene with
  | nil => exact ⟨sound, rights⟩
  | cons turn turns ih =>
    exact ih (fun other member => own other (List.mem_cons_of_mem turn member)) _
      (sound_step (own turn List.mem_cons_self) sound) ((rights_step turn scene).trans rights)

private theorem move_of_schedule {turns : List Turn} {scene : Scene} {entry : Reader × Move}
    (member : entry ∈ schedule turns scene) : .move entry.2 ∈ turns := by
  induction turns generalizing scene with
  | nil => cases member
  | cons turn turns ih =>
    cases turn with
    | move move =>
      rcases List.mem_cons.mp member with rfl | later
      · exact List.mem_cons_self
      · exact List.mem_cons_of_mem _ (ih later)
    | call through call => exact List.mem_cons_of_mem _ (ih member)
    | interfere act => exact List.mem_cons_of_mem _ (ih member)

end Scene

private theorem sequential_total {reader : Reader}
    (total : ∀ height, ∃ found, reader height = .ok found) (heights : List Height) :
    (sequential reader heights).2 = none := by
  cases ending : (sequential reader heights).2 with
  | none => rfl
  | some e =>
    obtain ⟨height, failed⟩ := reader_of_failed ending
    obtain ⟨found, read⟩ := total height
    rw [read] at failed
    cases failed

private theorem plain_course {reader : Reader}
    (total : ∀ height, ∃ found, reader height = .ok found) {heights : List Height} {race : Race}
    {moves : List Move} {items : List Item} (alive : race.died = false) (spared : .die ∉ moves)
    (course : Race.Course reader heights race moves items) :
    ∀ poll ∈ (Race.run (Race.steady reader moves) race).1, poll.Plain := by
  rintro poll member e rfl
  have heard : Poll.failed e ∈ ready (Race.run (Race.steady reader moves) race).1 :=
    List.mem_filter.mpr ⟨member, rfl⟩
  rcases course with ⟨told, -⟩ | ⟨terminal, rest, before, earlier, -, warranted, told, -⟩
  · rw [told] at heard
    simp at heard
  · rw [told] at heard
    obtain rfl : Poll.failed e = terminal := by simpa using heard
    -- An abort would need a producer that died, any other failure one of the store.
    cases e with
    | cancelled => rfl
    | streamAborted =>
      exfalso
      rcases Race.died_run warranted.1 with early | ⟨left, other, right, split, -⟩
      · rw [alive] at early
        cases early
      · have died : (other, Move.die) ∈ Race.steady reader before := by
          rw [split]
          simp
        obtain ⟨move, moved, same⟩ := List.mem_map.mp died
        obtain rfl := (Prod.mk.inj same).2
        exact spared (earlier.subset moved)
    | _ =>
      have failed : (sequential reader heights).2 = some _ := warranted.2
      rw [sequential_total total] at failed
      cases failed

private theorem plain_scene {turns : List Turn} (own : ∀ turn ∈ turns, turn.isOwn = true)
    {c : Connection} (sound : c.database.Sound) (rights : c.toRights = {}) (first last : Height)
    (capacity : Nat) : ∀ poll ∈ ((Scene.start c first last capacity).run turns).1, poll.Plain := by
  have unfolded := Scene.run_schedule turns (Scene.start c first last capacity)
  obtain ⟨reader, same, source⟩ := Race.run_as_steady (.ok none)
    (Scene.schedule turns (Scene.start c first last capacity)) (.start first last capacity)
  have total : ∀ height, ∃ found, reader height = .ok found := by
    intro height
    rcases source height with never | ⟨entry, member, read⟩
    · exact ⟨none, never⟩
    · obtain ⟨seen, turn, earlier, moment⟩ := Scene.moment_of_schedule member
      have before : ∀ turn ∈ seen, turn.isOwn = true := fun turn member =>
        own turn (earlier.subset (List.mem_append_left _ member))
      obtain ⟨sound', rights'⟩ :=
        Scene.sound_run before (Scene.start c first last capacity) sound rights
      rw [read, moment]
      exact Cache.rangeRead_of_sound sound' rights' height
  have forthright : reader.Forthright := by
    intro height
    obtain ⟨found, read⟩ := total height
    simp [read]
  have spared : Move.die ∉
      (Scene.schedule turns (Scene.start c first last capacity)).map Prod.snd := by
    intro member
    obtain ⟨entry, scheduled, dies⟩ := List.mem_map.mp member
    have happens := own _ (Scene.move_of_schedule scheduled)
    rw [dies] at happens
    cases happens
  obtain ⟨items, -, course⟩ :=
    (Race.underway_start reader first last capacity).course forthright
      ((Scene.schedule turns (Scene.start c first last capacity)).map Prod.snd)
  have plain := plain_course total rfl spared course
  rw [← same] at plain
  have answers : (Race.run (Scene.schedule turns (Scene.start c first last capacity))
      (.start first last capacity)).1 = ((Scene.start c first last capacity).run turns).1 :=
    congrArg Prod.fst unfolded
  rwa [answers] at plain

open Cache (Layout.laidOut) in
/-- Over a database that has been laid out and that only the clients of the cache change: a call
succeeds unless it is called off or looks for something that is not there, and at every moment the
two questions for the tip are answered alike, and every range that is opened then and read amid
further calls hands over blocks and ends well or by its token. -/
theorem written_reads_back {steps : List Cache.Step} (own : ∀ step ∈ steps, step.isOwn = true)
    {seen : List Cache.Step} (moment : seen <+: steps) :
    (∀ entry ∈ (Cache.run steps (Layout.laidOut .blank)).1, entry.Plain) ∧
    let db := (Cache.run seen (Layout.laidOut .blank)).2
    ∀ through : Connection, through.toRights = {} →
      Cache.TipsAgree (through.holding db) ∧
      ∀ (first last : Height) (capacity : Nat) (turns : List Turn),
        (∀ turn ∈ turns, turn.isOwn = true) →
          ∀ poll ∈ ((Scene.start (through.holding db) first last capacity).run turns).1,
            poll.Plain := by
  have laid : (Layout.laidOut .blank).Sound := Cache.sound_laidOut rfl rfl
  refine ⟨(Cache.sound_run own laid).2, fun through rights => ?_⟩
  have now : ((Cache.run seen (Layout.laidOut .blank)).2).Sound :=
    (Cache.sound_run (fun step member => own step (moment.subset member)) laid).1
  exact ⟨Cache.tipsAgree_of_sound (c := through.holding _) now rights,
    fun first last capacity turns own' =>
      plain_scene own' (c := through.holding _) now rights first last capacity⟩

/-- The greatest height, texts without characters, with a NUL and of digits only, empty payloads, a
tip that points at no block, and the first and the last second of the calendar. -/
private def unusual : List Cache.Step :=
  let call (operation : Cache.Operation) (fired : Bool) (now : Int) : Cache.Step :=
    .call Cache.Layout.fresh ⟨operation, fired, now⟩
  [.log true, call (.acceptBlock ⟨4294967295, "", "a\x00b", true, []⟩) false Calendar.earliest,
    call (.putBlock ⟨0, "0123", "", false, [0]⟩) false 0,
    call (.addTransaction ⟨4294967295, "", 4294967295, "77", []⟩) false 1,
    call (.transaction (.inBlock "" 4294967295)) false 2, call (.setTip 9) true 3,
    call (.rollBack 4) false Calendar.latest, .reopen Cache.Layout.fresh,
    .read Cache.Layout.fresh 0, call (.blockWithHash "") false 4, call .tip false 5]

private theorem own_unusual : ∀ step ∈ unusual, step.isOwn = true := by decide +kernel

private def interrupted : List Turn :=
  [.move .produce, .call Cache.Layout.fresh ⟨.putBlock ⟨0, "1", "", false, []⟩, false, 6⟩,
    .move .produce, .move .ask, .move .take, .move .fire, .move .notice, .move .ask, .move .take]

theorem unusual_written_reads_back :
    (∀ step ∈ unusual, step.isOwn = true) ∧ unusual <+: unusual ∧
      (∀ entry ∈ (Cache.run unusual (Cache.Layout.laidOut .blank)).1, entry.Plain) ∧
      Cache.Layout.fresh.toRights = {} ∧ (∀ turn ∈ interrupted, turn.isOwn = true) ∧
      let c := Cache.Layout.fresh.holding (Cache.run unusual (Cache.Layout.laidOut .blank)).2
      Cache.TipsAgree c ∧
        ((Scene.start c 0 9 4).run interrupted).1 = [.item ⟨0, [0]⟩, .failed .cancelled] ∧
        ∀ poll ∈ ((Scene.start c 0 9 4).run interrupted).1, poll.Plain := by
  obtain ⟨plain, here⟩ := written_reads_back own_unusual (List.prefix_refl unusual)
  obtain ⟨agree, heard⟩ := here Cache.Layout.fresh rfl
  have own : ∀ turn ∈ interrupted, turn.isOwn = true := by decide +kernel
  exact ⟨own_unusual, List.prefix_refl _, plain, rfl, own, agree, by decide +kernel,
    heard 0 9 4 interrupted own⟩

end ChainStore.Range
