import ChainStore.Proofs.Range.Provenance
import ChainStore.Proofs.Session.Streams

set_option autoImplicit false
set_option relaxedAutoImplicit false

/-!
The limit on the width of a range. It is looked at before anything else when a range is opened, and
bounds what the range hands over, whatever happens to the cache meanwhile.
-/

namespace ChainStore.Session.State

open Range (Item Scene yielded)

theorem carryOut_streamOpen {s : State} {name : String} {handle : Handle}
    (named : s.handles.lookup name = some handle) (room : 0 < handle.limits.streamBuffer.toNat)
    (made : handle.limits.streamBuffer.toNat ≤ Range.maxCapacity) (now : Int) (stream : String)
    (token : Option String) (first last : Height) :
    s.carryOut now (.streamOpen name stream token first last) =
      match Range.check first last handle.limits.maxRangeSpan with
      | .error e => (.failed e, s)
      | .ok _ =>
        let pipeline := .start first last handle.limits.streamBuffer.toNat
        (.done, { s with streams := s.streams.give stream ⟨handle, token, pipeline⟩ }) := by
  simp only [carryOut, withHandle, named, streamOpen, Range.accept_of_made room made]
  cases Range.check first last handle.limits.maxRangeSpan <;> rfl

/-- A range that ends below its start is invalid whatever the limit, and of the others just those
are too large that have more heights than the limit, so that nobody reads all heights at once. A
cache opens the ranges that pass this check and fails for the others, whatever is in any database
and whichever tokens have fired, and leaves all databases alone. A range that has been opened never
hands over more blocks than the limit, each of another one of its heights, whatever clients and
other programs do to the database meanwhile. -/
theorem range_limit_holds (first last : Height) :
    (∀ limit, (Range.check first last limit = .ok () ↔
        first.toNat ≤ last.toNat ∧ last.toNat - first.toNat + 1 ≤ limit.toNat) ∧
      (Range.check first last limit = .error (.invalidRange first last) ↔
        last.toNat < first.toNat) ∧
      (Range.check first last limit = .error (.rangeTooLarge first last limit) ↔
        first.toNat ≤ last.toNat ∧ limit.toNat < last.toNat - first.toNat + 1) ∧
      Range.check 0 4294967295 limit = .error (.rangeTooLarge 0 4294967295 limit)) ∧
    ∀ (s : State) (now : Int) (name stream : String) (token : Option String) (handle : Handle),
      s.handles.lookup name = some handle → 0 < handle.limits.streamBuffer.toNat →
        handle.limits.streamBuffer.toNat ≤ Range.maxCapacity →
        let told := s.carryOut now (.streamOpen name stream token first last)
        told.1 = Reply.ofResult (fun _ => .done)
            (Range.check first last handle.limits.maxRangeSpan) ∧
          told.2.disk = s.disk ∧ told.2.links = s.links ∧
          (told.1 = .done → ∃ opened, told.2.streams.lookup stream = some opened ∧
            ∀ (c : Storage.Connection) (turns : List Range.Turn),
              let scene : Scene := ⟨c, opened.pipeline, false, false, false⟩
              let blocks := yielded (scene.run turns).1
              blocks.length ≤ handle.limits.maxRangeSpan.toNat ∧
                (blocks.map Item.height).Nodup ∧
                ∀ item ∈ blocks,
                  first.toNat ≤ item.height.toNat ∧ item.height.toNat ≤ last.toNat) := by
  constructor
  · intro limit
    have widest : limit.toNat < Range.span 0 4294967295 := limit.toNat_lt
    exact ⟨Range.check_eq_ok, Range.check_eq_invalidRange, Range.check_eq_rangeTooLarge,
      Range.check_eq_rangeTooLarge.mpr ⟨Nat.zero_le _, widest⟩⟩
  · intro s now name stream token handle named room made told
    have opening : told = _ := carryOut_streamOpen named room made now stream token first last
    cases checked : Range.check first last handle.limits.maxRangeSpan with
    | error e =>
      rw [opening, checked]
      exact ⟨rfl, rfl, rfl, fun done => by cases done⟩
    | ok _ =>
      obtain ⟨-, narrow⟩ := Range.check_eq_ok.mp checked
      rw [opening, checked]
      refine ⟨rfl, rfl, rfl, fun _ => ⟨_, Named.lookup_give_self .., fun c turns => ?_⟩⟩
      intro scene blocks
      obtain ⟨ascending, within⟩ := Scene.ascending_yielded c first last _ turns
      refine ⟨(Scene.length_yielded c first last _ turns).trans narrow, ?_, within⟩
      exact List.pairwise_map.mpr (ascending.imp fun below same => absurd below (by simp [same]))

private def narrow : State :=
  ((State.start .empty).carryOut 0 (.openMemory "main" { limits := ⟨3, 1⟩ })).2

theorem narrow_range_limit_holds :
    let handle : Handle := ⟨0, 0, ⟨3, 1⟩⟩
    let told := narrow.carryOut 1 (.streamOpen "main" "s" (some "t") 4294967293 4294967295)
    narrow.handles.lookup "main" = some handle ∧ 0 < handle.limits.streamBuffer.toNat ∧
      handle.limits.streamBuffer.toNat ≤ Range.maxCapacity ∧
      (narrow.carryOut 1 (.streamOpen "main" "s" none 4294967292 4294967295)).1 =
        .failed (.rangeTooLarge 4294967292 4294967295 3) ∧
      told.1 = .done ∧ ∃ opened, told.2.streams.lookup "s" = some opened ∧
        ∀ (c : Storage.Connection) (turns : List Range.Turn),
          let scene : Scene := ⟨c, opened.pipeline, false, false, false⟩
          (yielded (scene.run turns).1).length ≤ 3 := by
  intro handle told
  have named : narrow.handles.lookup "main" = some handle := by decide +kernel
  have wide := ((range_limit_holds 4294967292 4294967295).2 narrow 1 "main" "s" none handle named
    (by decide) (by decide)).1
  obtain ⟨reply, -, -, delivers⟩ := (range_limit_holds 4294967293 4294967295).2 narrow 1 "main" "s"
    (some "t") handle named (by decide) (by decide)
  have done : told.1 = .done := reply
  obtain ⟨opened, there, bounded⟩ := delivers done
  exact ⟨named, by decide, by decide, wide, done, opened, there,
    fun c turns => (bounded c turns).1⟩

end ChainStore.Session.State
