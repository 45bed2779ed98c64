import ChainStore.Proofs.Cache.Effect
import ChainStore.Proofs.Range.Admission
import ChainStore.Proofs.Range.Observation
import ChainStore.Proofs.Range.Termination
import ChainStore.Range.Race

set_option autoImplicit false
set_option relaxedAutoImplicit false

/-!
A range read while others write. Its blocks come in ascending order, each of them was stored at some
moment while the range was open, and a height that a cleanly ended range passes over was empty at
some such moment.
-/

namespace ChainStore.Storage

theorem Cell.bytes_ok {column : Nat} {name : String} {cell : Cell} {bytes : List UInt8}
    (read : cell.bytes column name = .ok bytes) : cell = .blob bytes := by
  cases cell with
  | blob b =>
    simp only [Cell.bytes, Except.ok.injEq] at read
    rw [read]
  | _ => simp [Cell.bytes] at read

namespace Database

def Holds (db : Database) (height : Height) (payload : Payload) : Prop :=
  ∃ table, db.blocks = some table ∧
    ∃ row ∈ table.rows, row.height = (height.toNat : Int) ∧ row.payload = .blob payload

def Lacks (db : Database) (height : Height) : Prop :=
  ∃ table, db.blocks = some table ∧ ∀ row ∈ table.rows, row.height ≠ (height.toNat : Int)

theorem payloadAt_ok {db : Database} {height : Height} {found : Option Payload}
    (read : db.payloadAt height = .ok found) :
    (found = none ∧ db.Lacks height) ∨
      ∃ payload, found = some payload ∧ db.Holds height payload := by
  unfold payloadAt blockTable at read
  cases blocks : db.blocks with
  | none => simp [blocks, bind, Except.bind] at read
  | some table =>
    simp only [blocks, bind, Except.bind] at read
    rcases readRow_ok read with ⟨missing, rfl⟩ | ⟨row, payload, present, cell, rfl⟩
    · refine .inl ⟨rfl, table, blocks, fun row member => ?_⟩
      simpa using List.find?_eq_none.mp missing row member
    · refine .inr ⟨payload, rfl, table, blocks, row, List.mem_of_find?_eq_some present, ?_, ?_⟩
      · simpa using List.find?_some present
      · exact Cell.bytes_ok cell

end Database

end ChainStore.Storage

namespace ChainStore.Cache

open Storage

theorem rangeRead_ok {c : Connection} {height : Height} {found : Option Payload}
    (read : rangeRead c height = .ok found) : c.database.payloadAt height = .ok found :=
  (query_ok (during_ok (Prod.ext read rfl))).1

end ChainStore.Cache

namespace ChainStore.Range

def yielded (answers : List Poll) : List Item :=
  answers.filterMap fun
    | .item item => some item
    | _ => none

private theorem yielded_ready (answers : List Poll) :
    yielded (ready answers) = yielded answers := by
  rw [yielded, ready, List.filterMap_filter, yielded]
  congr 1
  funext answer
  cases answer <;> rfl

theorem Race.Course.yielded_eq {reader : Reader} {heights : List Height} {race : Race}
    {moves : List Move} {items : List Item} (course : Race.Course reader heights race moves items) :
    yielded (Race.run (Race.steady reader moves) race).1 = items := by
  have blocks : yielded (items.map .item) = items := by
    rw [yielded, List.filterMap_map]
    exact List.filterMap_some
  rw [← yielded_ready]
  rcases course with ⟨told, -⟩ | ⟨terminal, rest, before, -, -, warranted, told, -⟩
  · rw [told, blocks]
  · have silence : yielded (terminal :: List.replicate rest .ended) = [] := by
      refine List.filterMap_eq_nil_iff.mpr fun answer member => ?_
      rcases List.mem_cons.mp member with rfl | member
      · cases answer with
        | item item => exact warranted.elim
        | pending | failed e | ended => rfl
      · rw [List.eq_of_mem_replicate member]
    rw [told, yielded, List.filterMap_append, ← yielded, ← yielded, blocks, silence,
      List.append_nil]

namespace Scene

theorem run_concat (turns : List Turn) (turn : Turn) (scene : Scene) :
    scene.run (turns ++ [turn]) =
      ((scene.run turns).1 ++ ((scene.run turns).2.step turn).1.toList,
        ((scene.run turns).2.step turn).2) := by
  induction turns generalizing scene with
  | nil => simp [run]
  | cons first turns ih => simp only [List.cons_append, run, ih, List.append_assoc]

/-- The moves of the range among what happens, each with the way the store reads then. -/
def schedule : List Turn → Scene → List (Reader × Move)
  | [], _ => []
  | .move move :: turns, scene =>
    (Cache.rangeRead scene.connection, move) :: schedule turns (scene.step (.move move)).2
  | .call through call :: turns, scene => schedule turns (scene.step (.call through call)).2
  | .interfere act :: turns, scene => schedule turns (scene.step (.interfere act)).2

theorem run_schedule (turns : List Turn) (scene : Scene) :
    Race.run (schedule turns scene) scene.race =
      ((scene.run turns).1, (scene.run turns).2.race) := by
  induction turns generalizing scene with
  | nil => rfl
  | cons turn turns ih =>
    cases turn with
    | move move =>
      have rest := ih (scene.step (.move move)).2
      simp only [step] at rest
      simp only [schedule, Race.run, run, step, rest]
    | call through call => exact ih (scene.step (.call through call)).2
    | interfere act => exact ih (scene.step (.interfere act)).2

theorem moment_of_schedule {turns : List Turn} {scene : Scene} {entry : Reader × Move}
    (member : entry ∈ schedule turns scene) :
    ∃ seen turn, seen ++ [turn] <+: turns ∧
      entry.1 = Cache.rangeRead (scene.run seen).2.connection := by
  induction turns generalizing scene with
  | nil => simp [schedule] at member
  | cons turn turns ih =>
    by_cases first : entry.1 = Cache.rangeRead scene.connection
    · exact ⟨[], turn, List.cons_prefix_cons.mpr ⟨rfl, List.nil_prefix⟩, first⟩
    · have later : entry ∈ schedule turns (scene.step turn).2 := by
        cases turn with
        | move move =>
          rcases List.mem_cons.mp member with rfl | later
          · exact absurd rfl first
          · exact later
        | call through call => exact member
        | interfere act => exact member
      obtain ⟨seen, last, earlier, read⟩ := ih later
      exact ⟨turn :: seen, last, List.cons_prefix_cons.mpr ⟨rfl, earlier⟩, read⟩

private theorem prefix_of_concat {seen turns : List Turn} {now turn : Turn}
    (earlier : seen ++ [now] <+: turns ++ [turn]) : seen <+: turns := by
  rcases List.prefix_concat_iff.mp earlier with all | earlier
  · obtain rfl := (List.append_inj' all rfl).1
    exact List.prefix_refl _
  · exact (List.prefix_append _ _).trans earlier

variable (c : Storage.Connection) (first last : Height) (capacity : Nat) (turns : List Turn)

/-- A range amid writes goes its course as one over a store that reads the same all the time, and in
which every reading that succeeds is one of the changing store at some moment. -/
private theorem exists_course :
    ∃ (reader : Reader) (moves : List Move) (items : List Item),
      (Race.run (Race.steady reader moves) (.start first last capacity)).1 =
        ((start c first last capacity).run turns).1 ∧
      items <+: (sequential reader (heights first last)).1 ∧
      Race.Course reader (heights first last) (.start first last capacity) moves items ∧
      ∀ height found, reader height = .ok found → ∃ seen turn, seen ++ [turn] <+: turns ∧
        ((start c first last capacity).run seen).2.connection.database.payloadAt height =
          .ok found := by
  have unfolded := run_schedule turns (start c first last capacity)
  obtain ⟨reader, same, source⟩ := Race.run_as_steady (.error (.notFound (.blockAt first)))
    (schedule turns (start c first last capacity)) (.start first last capacity)
  have forthright : reader.Forthright := by
    intro height
    rcases source height with never | ⟨entry, member, read⟩
    · simp [never]
    · obtain ⟨seen, turn, -, moment⟩ := moment_of_schedule member
      rw [read, moment]
      exact forthright_rangeRead _ height
  obtain ⟨items, begins, course⟩ :=
    (Race.underway_start reader first last capacity).course forthright
      ((schedule turns (start c first last capacity)).map Prod.snd)
  refine ⟨reader, _, items, ?_, begins, course, fun height found read => ?_⟩
  · rw [← same]
    exact congrArg Prod.fst unfolded
  · rcases source height with never | ⟨entry, member, now⟩
    · rw [never] at read
      cases read
    · obtain ⟨seen, turn, earlier, moment⟩ := moment_of_schedule member
      rw [now, moment] at read
      exact ⟨seen, turn, earlier, Cache.rangeRead_ok read⟩

private theorem sublist_yielded :
    ((yielded ((start c first last capacity).run turns).1).map Item.height).Sublist
      (heights first last) := by
  obtain ⟨reader, moves, items, ran, begins, course, -⟩ :=
    exists_course c first last capacity turns
  rw [← ran, course.yielded_eq]
  exact (begins.sublist.map Item.height).trans (sublist_sequential reader _)

theorem ascending_yielded :
    let heard := yielded ((start c first last capacity).run turns).1
    heard.Pairwise (fun a b => a.height.toNat < b.height.toNat) ∧
      ∀ item ∈ heard, first.toNat ≤ item.height.toNat ∧ item.height.toNat ≤ last.toNat := by
  intro heard
  have ordered := sublist_yielded c first last capacity turns
  constructor
  · have ascending := (ascending_heights first last).sublist ordered
    rwa [List.pairwise_map] at ascending
  · intro item member
    exact mem_heights.mp (ordered.subset (List.mem_map_of_mem member))

theorem length_yielded :
    (yielded ((start c first last capacity).run turns).1).length ≤ span first last := by
  have fewer := (sublist_yielded c first last capacity turns).length_le
  rw [List.length_map, heights, List.length_map, List.length_range'] at fewer
  rw [span]
  omega

variable {c first last capacity turns}

private theorem stored_of_item {turn : Turn} {item : Item}
    (answer : (((start c first last capacity).run turns).2.step turn).1 = some (.item item)) :
    ∃ seen, seen <+: turns ∧
      ((start c first last capacity).run seen).2.connection.database.Holds
        item.height item.payload := by
  obtain ⟨reader, moves, items, ran, begins, course, source⟩ :=
    exists_course c first last capacity (turns ++ [turn])
  have member : item ∈ items := by
    rw [← course.yielded_eq, ran, run_concat, answer]
    simp [yielded]
  have read := reader_of_sequential (begins.subset member)
  obtain ⟨seen, now, earlier, moment⟩ := source _ _ read
  refine ⟨seen, prefix_of_concat earlier, ?_⟩
  rcases Storage.Database.payloadAt_ok moment with ⟨none, -⟩ | ⟨payload, same, holds⟩
  · cases none
  · cases same
    exact holds

private theorem empty_of_ended {turn : Turn}
    (answer : (((start c first last capacity).run turns).2.step turn).1 = some .ended)
    (unharmed : ∀ e, Poll.failed e ∉ ((start c first last capacity).run turns).1)
    {height : Height} (within : first.toNat ≤ height.toNat ∧ height.toNat ≤ last.toNat)
    (passed : height ∉ (yielded ((start c first last capacity).run turns).1).map Item.height) :
    ∃ seen, seen <+: turns ∧
      ((start c first last capacity).run seen).2.connection.database.Lacks height := by
  obtain ⟨reader, moves, items, ran, begins, course, source⟩ :=
    exists_course c first last capacity (turns ++ [turn])
  have answers : (Race.run (Race.steady reader moves) (.start first last capacity)).1 =
      ((start c first last capacity).run turns).1 ++ [.ended] := by
    rw [ran, run_concat, answer, Option.toList_some]
  have heard : items = yielded ((start c first last capacity).run turns).1 := by
    rw [← course.yielded_eq, answers]
    simp [yielded]
  obtain ⟨all, complete⟩ : items = (sequential reader (heights first last)).1 ∧
      (sequential reader (heights first last)).2 = none := by
    rcases course with ⟨told, -⟩ | ⟨terminal, rest, before, -, -, warranted, told, -⟩
    · have ended : Poll.ended ∈ items.map Poll.item := by
        rw [← told, answers, ready_append]
        exact List.mem_append_right _ (List.mem_singleton_self _)
      simp at ended
    · cases terminal with
      | ended => exact warranted
      | failed e =>
        have failure : Poll.failed e ∈ ready (((start c first last capacity).run turns).1 ++
            [.ended]) := by
          rw [← answers, told]
          simp
        simp [ready, unharmed e] at failure
      | pending | item item => exact warranted.elim
  rcases reader_of_complete complete (mem_heights.mpr within) with missing | ⟨payload, member⟩
  · obtain ⟨seen, now, earlier, moment⟩ := source _ _ missing
    refine ⟨seen, prefix_of_concat earlier, ?_⟩
    rcases Storage.Database.payloadAt_ok moment with ⟨-, lacks⟩ | ⟨payload, wrong, -⟩
    · exact lacks
    · cases wrong
  · rw [← all, heard] at member
    exact absurd (List.mem_map_of_mem member) passed

end Scene

/-- Whatever clients and other programs do to the database while a range is read, and whatever the
order of everything: the blocks that the range hands over ascend within its bounds, each of them was
stored when or after the range was opened and before it was handed over, and when the range ends
without a failure, each of its heights for which it gave no block was empty at such a moment. -/
theorem yielded_amid_writes (c : Storage.Connection) (first last : Height) (capacity : Nat)
    (turns : List Turn) :
    let scene := Scene.start c first last capacity
    let answers := (scene.run turns).1
    let next (turn : Turn) := ((scene.run turns).2.step turn).1
    ((yielded answers).Pairwise (fun a b => a.height.toNat < b.height.toNat) ∧
      ∀ item ∈ yielded answers,
        first.toNat ≤ item.height.toNat ∧ item.height.toNat ≤ last.toNat) ∧
    (∀ turn item, next turn = some (.item item) → ∃ seen, seen <+: turns ∧
      (scene.run seen).2.connection.database.Holds item.height item.payload) ∧
    ∀ turn, next turn = some .ended → (∀ e, Poll.failed e ∉ answers) →
      ∀ height, first.toNat ≤ height.toNat ∧ height.toNat ≤ last.toNat →
        height ∉ (yielded answers).map Item.height → ∃ seen, seen <+: turns ∧
          (scene.run seen).2.connection.database.Lacks height := by
  intro scene answers next
  refine ⟨Scene.ascending_yielded c first last capacity turns, ?_, ?_⟩
  · intro turn item answer
    exact Scene.stored_of_item answer
  · intro turn answer unharmed height within passed
    exact Scene.empty_of_ended answer unharmed within passed

private def stocked : Storage.Connection :=
  (Cache.Call.perform ⟨.putBlock ⟨1, "ab", "", false, [7]⟩, false, 1⟩ Cache.Layout.fresh).2

/-- The block is read, then replaced, then handed over. -/
private def overtaken : List Turn :=
  [.move .produce, .call Cache.Layout.fresh ⟨.putBlock ⟨1, "cd", "", false, [9]⟩, false, 2⟩,
    .move .produce, .move .ask]

theorem overtaken_item_was_stored :
    let scene := Scene.start stocked 1 2 4
    ((scene.run overtaken).2.step (.move .take)).1 = some (.item ⟨1, [7]⟩) ∧
      (scene.run overtaken).2.connection.database.payloadAt 1 = .ok (some [9]) ∧
      ∃ seen, seen <+: overtaken ∧ (scene.run seen).2.connection.database.Holds 1 [7] :=
  ⟨by decide +kernel, by decide +kernel,
    (yielded_amid_writes stocked 1 2 4 overtaken).2.1 (.move .take) ⟨1, [7]⟩ (by decide +kernel)⟩

end ChainStore.Range
