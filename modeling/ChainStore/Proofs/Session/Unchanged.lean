import ChainStore.Proofs.Session.Databases

set_option autoImplicit false
set_option relaxedAutoImplicit false

/-!
Commands that leave every database of a session exactly as it was: operations that fail, operations
that only look something up, and questions to a range.
-/

namespace ChainStore.Files

open Storage (Database Connection)

namespace Disk

/-- Two disks with the same databases in the same places. -/
def SameDatabases (disk other : Disk) : Prop :=
  ∀ place, other.databaseAt place = disk.databaseAt place

theorem SameDatabases.refl (disk : Disk) : disk.SameDatabases disk := fun _ => rfl

theorem SameDatabases.trans {a b c : Disk} (first : a.SameDatabases b)
    (second : b.SameDatabases c) : a.SameDatabases c :=
  fun place => (second place).trans (first place)

private theorem databaseAt_set {disk : Disk} {place : Place} {db settled : Database}
    (same : db = disk.databaseAt place) :
    disk.SameDatabases (disk.set place (.file (.database db settled))) := by
  intro other
  by_cases here : other = place ∧ ¬ other.isPrefixOf disk.home = true
  · rw [databaseAt, node?_set, if_pos here, here.1]
    exact same
  · rw [databaseAt, node?_set, if_neg here, databaseAt]

theorem sameDatabases_setDatabase {disk : Disk} {place : Place} {db : Database}
    (same : db = disk.databaseAt place) : disk.SameDatabases (disk.setDatabase place db) :=
  databaseAt_set same

theorem sameDatabases_settle (disk : Disk) (place : Place) :
    disk.SameDatabases (disk.settle place) := by
  unfold settle
  split
  · rename_i db settled there
    exact databaseAt_set (by rw [databaseAt, there])
  · exact .refl disk

theorem sameDatabases_settleUnused (disk : Disk) (links : List Link) :
    disk.SameDatabases (disk.settleUnused links) :=
  settleUnused_induction (.refl disk)
    (fun middle place same => same.trans (sameDatabases_settle middle place)) links

end Disk

namespace Link

theorem database_congr (link : Link) {disk other : Disk} (same : disk.SameDatabases other) :
    link.database other = link.database disk := by
  unfold database
  split
  · exact same _
  · rfl

theorem sameDatabases_after {link : Link} {disk : Disk} {c : Connection}
    (same : c.database = link.database disk) : disk.SameDatabases (link.after c disk).2 := by
  unfold database at same
  unfold after
  split
  · rename_i place filed
    rw [filed] at same
    exact Disk.sameDatabases_setDatabase same
  · exact .refl disk

theorem database_after {link : Link} {disk : Disk} {c : Connection}
    (same : c.database = link.database disk) :
    (link.after c disk).1.database disk = link.database disk := by
  unfold after
  split
  · rename_i place filed
    simp only [database, filed]
  · exact same

end Link

end ChainStore.Files

namespace ChainStore.Session

def Reply.isFailure : Reply → Bool
  | .failed _ => true
  | _ => false

/-- Whether a command that is replied to in this way leaves all databases alone: an operation that
fails or only looks something up, or a question to a range. -/
def Command.leavesData (command : Command) (reply : Reply) : Bool :=
  match command with
  | .call _ _ operation => operation.reads || reply.isFailure
  | .streamNext _ _ => true
  | .streamCollect _ => true
  | _ => false

namespace State

structure SameDatabases (s after : State) : Prop where
  disk : s.disk.SameDatabases after.disk
  handles : ∀ handle, after.database handle = s.database handle

theorem SameDatabases.refl (s : State) : s.SameDatabases s := ⟨.refl _, fun _ => rfl⟩

theorem SameDatabases.trans {a b c : State} (first : a.SameDatabases b)
    (second : b.SameDatabases c) : a.SameDatabases c :=
  ⟨first.disk.trans second.disk,
    fun handle => (second.handles handle).trans (first.handles handle)⟩

private theorem sameDatabases_of_links {s after : State} (links : after.links = s.links)
    (disk : s.disk.SameDatabases after.disk) : s.SameDatabases after := by
  refine ⟨disk, fun handle => ?_⟩
  simp only [State.database, State.link, links]
  exact Files.Link.database_congr _ disk

private theorem sameDatabases_set {s : State} {handle : Handle} {link : Files.Link}
    (same : link.database s.disk = s.database handle) :
    s.SameDatabases { s with links := s.links.set handle.link link } := by
  refine ⟨.refl _, fun other => ?_⟩
  by_cases here : handle.link = other.link
  · by_cases within : handle.link < s.links.length
    · simp only [State.database, State.link, ← here, List.getElem?_set_self within,
        Option.getD_some]
      exact same
    · simp only [State.database, State.link, ← here,
        List.set_eq_of_length_le (Nat.le_of_not_lt within)]
  · simp only [State.database, State.link, List.getElem?_set_ne here]

private theorem sameDatabases_after {s : State} {handle : Handle} {c : Storage.Connection}
    (same : c.database = s.database handle) :
    s.SameDatabases
      { s with
        links := s.links.set handle.link ((s.link handle).after c s.disk).1
        disk := ((s.link handle).after c s.disk).2 } := by
  have linked := sameDatabases_set (Files.Link.database_after same)
  exact linked.trans (sameDatabases_of_links rfl (Files.Link.sameDatabases_after same))

theorem sameDatabases_settle (s : State) : s.SameDatabases s.settle :=
  sameDatabases_of_links rfl (Files.Disk.sameDatabases_settleUnused _ _)

theorem sameDatabases_lookedThrough (s : State) (stream : Stream) :
    s.SameDatabases (s.lookedThrough stream) := by
  unfold lookedThrough
  simp only
  split
  · exact sameDatabases_set (Files.Link.database_after rfl)
  · exact .refl s

theorem sameDatabases_perform {s : State} {handle : Handle} {call : Cache.Call}
    (idle : call.operation.reads = true ∨ ∃ e, (s.perform handle call).1 = .error e) :
    s.SameDatabases (s.perform handle call).2 := by
  have same : (call.perform ((s.link handle).connection s.disk)).2.database =
      s.database handle := by
    rcases idle with reads | ⟨e, failed⟩
    · exact Cache.perform_reads call _ reads
    · exact Cache.perform_error (Prod.ext failed rfl)
  exact sameDatabases_after same

/-- A command that fails as an operation, or that only looks something up or asks a range, leaves
every database of the session as it was: all rows in their order, the tip with the second of its
last change, and the recorded version. -/
theorem databases_unchanged {s : State} {now : Int} {command : Command}
    (leaves : command.leavesData (s.step now command).1 = true) :
    s.SameDatabases (s.step now command).2 := by
  suffices carried : s.SameDatabases (s.carryOut now command).2 from
    carried.trans (sameDatabases_settle _)
  have reply : (s.step now command).1 = (s.carryOut now command).1 := rfl
  rw [reply] at leaves
  cases command with
  | call name token operation =>
    simp only [carryOut, withHandle] at leaves ⊢
    split
    · exact .refl s
    · rename_i handle named
      rw [named] at leaves
      apply sameDatabases_perform
      simp only [Command.leavesData, Bool.or_eq_true] at leaves
      refine leaves.imp id fun failure => ?_
      cases outcome : (s.perform handle ⟨operation, s.hasFired token, now⟩).1 with
      | error e => exact ⟨e, rfl⟩
      | ok answer => simp [outcome, Reply.ofResult, Reply.isFailure] at failure
  | streamNext name count =>
    simp only [carryOut, withStream]
    split
    · exact .refl s
    · rename_i stream named
      by_cases none : count = 0
      · simp only [none, ↓reduceIte]
        exact sameDatabases_of_links rfl (.refl _)
      · simp only [none, ↓reduceIte]
        exact (sameDatabases_lookedThrough s stream).trans (sameDatabases_of_links rfl (.refl _))
  | streamCollect name =>
    simp only [carryOut, withStream]
    split
    · exact .refl s
    · rename_i stream named
      exact (sameDatabases_lookedThrough s stream).trans (sameDatabases_of_links rfl (.refl _))
  | _ => simp [Command.leavesData] at leaves

private def guarded : List (Int × Command) :=
  [(1, .openFile "main" { file := { path := "c" } }),
    (2, .call "main" none (.acceptBlock ⟨1, "ab", "", false, [7]⟩)),
    (3, .interfere "c" (.reject ⟨.tip, .update, "no", none⟩))]

theorem refused_block_databases_unchanged :
    let s := ((State.start .empty).run guarded).2
    let accept : Command := .call "main" none (.acceptBlock ⟨2, "cd", "ab", true, []⟩)
    (s.step 7 accept).1.isFailure = true ∧ accept.leavesData (s.step 7 accept).1 = true ∧
      s.SameDatabases (s.step 7 accept).2 :=
  ⟨by decide +kernel, by decide +kernel, databases_unchanged (by decide +kernel)⟩

end State

end ChainStore.Session
