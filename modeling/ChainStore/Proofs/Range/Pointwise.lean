import ChainStore.Proofs.Cache.Lookup
import ChainStore.Proofs.Range.Admission
import ChainStore.Proofs.Range.Progress

set_option autoImplicit false
set_option relaxedAutoImplicit false

/-!
A range over a cache that nobody changes, against the lookups at its heights one by one. The two
read the same columns and name their faults after different activities.
-/

namespace ChainStore.Range

open Storage (Connection Interference)

def lookUp (c : Connection) (height : Height) : Except Error Payload :=
  ((Cache.payloadAt height).run c).1

/-- Whether the lookup at a height finds out what is stored there. -/
def Settled (c : Connection) (height : Height) : Prop :=
  (∃ payload, lookUp c height = .ok payload) ∨
    lookUp c height = .error (.notFound (.blockAt height))

def stored (c : Connection) (heights : List Height) : List Item :=
  heights.filterMap fun height => (lookUp c height).toOption.map (Item.mk height)

theorem stored_cons (c : Connection) (height : Height) (heights : List Height) :
    stored c (height :: heights) =
      ((lookUp c height).toOption.map (Item.mk height)).toList ++ stored c heights := by
  rw [stored, List.filterMap_cons]
  cases (lookUp c height).toOption <;> rfl

private theorem rangeRead_cases (c : Connection) (height : Height) :
    (Settled c height ∧ Cache.rangeRead c height = .ok (lookUp c height).toOption) ∨
      ∃ fault, lookUp c height = .error (.storage (.readingBlock height) fault) ∧
        Cache.rangeRead c height = .error (.storage (.readingForRange height) fault) := by
  have looked : lookUp c height = _ := Cache.answer_lookup (.readingBlock height)
    (.blockAt height) (Storage.Database.payloadAt height) c
  have read : Cache.rangeRead c height = _ := Cache.answer_during (.readingForRange height)
    (Storage.query (Storage.Database.payloadAt height)) c
  cases seen : ((Storage.query (Storage.Database.payloadAt height)).run c).1 with
  | error fault =>
    rw [seen] at looked read
    exact .inr ⟨fault, looked, read⟩
  | ok found =>
    rw [seen] at looked read
    cases found with
    | none => exact .inl ⟨.inr looked, by rw [looked, read]; rfl⟩
    | some payload => exact .inl ⟨.inl ⟨payload, looked⟩, by rw [looked, read]; rfl⟩

theorem sequential_cases (c : Connection) (heights : List Height) :
    ((∀ height ∈ heights, Settled c height) ∧
        sequential (Cache.rangeRead c) heights = (stored c heights, none)) ∨
      ∃ below bad above fault, heights = below ++ bad :: above ∧
        (∀ height ∈ below, Settled c height) ∧
        lookUp c bad = .error (.storage (.readingBlock bad) fault) ∧
        sequential (Cache.rangeRead c) heights =
          (stored c below, some (.storage (.readingForRange bad) fault)) := by
  induction heights with
  | nil => exact .inl ⟨by simp, rfl⟩
  | cons height heights ih =>
    rcases rangeRead_cases c height with ⟨settled, read⟩ | ⟨fault, looked, read⟩
    · rcases ih with ⟨rest, found⟩ | ⟨below, bad, above, fault, rfl, rest, looked, found⟩
      · refine .inl ⟨List.forall_mem_cons.mpr ⟨settled, rest⟩, ?_⟩
        simp only [sequential, read, found, stored_cons]
      · refine .inr ⟨height :: below, bad, above, fault, rfl,
          List.forall_mem_cons.mpr ⟨settled, rest⟩, looked, ?_⟩
        simp only [sequential, read, found, stored_cons]
    · refine .inr ⟨[], height, heights, fault, rfl, by simp, looked, ?_⟩
      simp only [sequential, read]
      rfl

private theorem accept_of_within {limits : Limits} {first last : Height} (ordered : first ≤ last)
    (within : last.toNat - first.toNat < limits.maxRangeSpan.toNat)
    (room : 0 < limits.streamBuffer.toNat) (made : limits.streamBuffer.toNat ≤ maxCapacity) :
    accept limits first last = .ok (.start first last limits.streamBuffer.toNat) := by
  have admitted : check first last limits.maxRangeSpan = .ok () :=
    check_eq_ok.mpr ⟨UInt32.le_iff_toNat_le.mp ordered, within⟩
  rw [accept_of_made room made, admitted]

/-- A range within the limits over a cache that nobody changes, with a producer that lives and a
token that does not fire. When the lookup at every height finds out what is there, the consumer is
told just the blocks that the lookups find, and collecting gives them. Otherwise the consumer is
told those below the first height where the lookup fails, then the fault that the lookup fails with,
and collecting gives that fault. In either case every further question is answered with the end, and
no question is left without an answer. -/
theorem range_of_lookups (c : Connection) (limits : Limits) {first last : Height}
    (ordered : first ≤ last) (within : last.toNat - first.toNat < limits.maxRangeSpan.toNat)
    (room : 0 < limits.streamBuffer.toNat) (made : limits.streamBuffer.toNat ≤ maxCapacity) :
    ∃ pipeline, accept limits first last = .ok pipeline ∧
      let reader := Cache.rangeRead c
      let Hears (found : List Item × Option Error) : Prop :=
        ∀ (moves : List Move) (ahead count : Nat), (∀ move ∈ moves, move.calm = true) →
          let ran := Race.run (Race.steady reader moves) ⟨pipeline, false, false, false⟩
          ready ran.1 ++ ran.2.pipeline.asked ahead reader count =
            (List.range ((ready ran.1).length + count)).map (told found)
      ((∀ height ∈ heights first last, Settled c height) ∧
          Hears (stored c (heights first last), none) ∧
          ∀ ahead, pipeline.collect ahead reader false = .ok (stored c (heights first last))) ∨
        ∃ below bad above fault, heights first last = below ++ bad :: above ∧
          (∀ height ∈ below, Settled c height) ∧
          lookUp c bad = .error (.storage (.readingBlock bad) fault) ∧
          Hears (stored c below, some (.storage (.readingForRange bad) fault)) ∧
          ∀ ahead, pipeline.collect ahead reader false =
            .error (.storage (.readingForRange bad) fault) := by
  refine ⟨_, accept_of_within ordered within room made, ?_⟩
  intro reader Hears
  have hears : Hears (sequential reader (heights first last)) :=
    fun moves ahead count calm =>
      answers_of_calm (forthright_rangeRead c) first last room calm ahead count
  have collects := collect_start reader first last room
  rcases sequential_cases c (heights first last) with
    ⟨settled, found⟩ | ⟨below, bad, above, fault, split, settled, looked, found⟩
  · rw [found] at hears
    refine .inl ⟨settled, hears, fun ahead => ?_⟩
    rw [collects, found]
  · rw [found] at hears
    refine .inr ⟨below, bad, above, fault, split, settled, looked, hears, fun ahead => ?_⟩
    rw [collects, found]

/-- A cache with a block and, at the last height of all, a row whose payload is a number. -/
private def damaged : Connection :=
  let block : Block := ⟨4294967293, "ab", "", false, [7]⟩
  let c := (Cache.Call.perform ⟨.putBlock block, false, 1⟩ Cache.Layout.fresh).2
  let row : Storage.BlockRow := ⟨4294967295, .text "cd", .text "ab", .int 0, .int 3⟩
  c.holding ((Interference.putBlock row).apply c.database)

theorem damaged_range_of_lookups :
    let limits : Limits := {}
    (4294967290 : Height) ≤ 4294967295 ∧ 4294967295 - 4294967290 < limits.maxRangeSpan.toNat ∧
      0 < limits.streamBuffer.toNat ∧ limits.streamBuffer.toNat ≤ maxCapacity ∧
      stored damaged (heights 4294967290 4294967295) = [⟨4294967293, [7]⟩] ∧
      ∃ pipeline, accept limits 4294967290 4294967295 = .ok pipeline ∧
        ∃ bad fault, lookUp damaged bad = .error (.storage (.readingBlock bad) fault) ∧
          pipeline.collect 0 (Cache.rangeRead damaged) false =
            .error (.storage (.readingForRange bad) fault) := by
  intro limits
  refine ⟨by decide, by decide, by decide, by decide, by decide +kernel, ?_⟩
  obtain ⟨pipeline, accepted, whole | faulty⟩ := range_of_lookups damaged limits
    (show (4294967290 : Height) ≤ 4294967295 by decide) (by decide) (by decide) (by decide)
  · have last : (4294967295 : Height) ∈ heights 4294967290 4294967295 := by decide
    have unreadable : lookUp damaged 4294967295 = .error (.storage (.readingBlock 4294967295)
        (.wrongKind 0 "payload" .integer)) := by decide +kernel
    rcases whole.1 4294967295 last with ⟨payload, found⟩ | missing
    · cases unreadable.symm.trans found
    · cases unreadable.symm.trans missing
  · obtain ⟨below, bad, above, fault, -, -, looked, -, collected⟩ := faulty
    exact ⟨pipeline, accepted, bad, fault, looked, collected 0⟩

end ChainStore.Range
