import ChainStore.Proofs.Files.Opening
import ChainStore.Session.History

set_option autoImplicit false
set_option relaxedAutoImplicit false

/-!
The databases of a session: those in the files of its disk and those that its links hold in memory.
A property of databases that outlasts opening, and every operation and interference of a history,
holds of all of them at the end of it, whatever handles, copies and ranges there are.
-/

namespace ChainStore.Session

open Files (Disk Link Lasting)
open Storage (Database Connection Interference)

variable {P : Database → Prop}

namespace State

/-- Every database of the session has the property. -/
structure Has (P : Database → Prop) (s : State) : Prop where
  disk : s.disk.Has P
  links : ∀ link ∈ s.links, link.Has P

theorem Has.link {s : State} (has : s.Has P) (lasting : Lasting P) (handle : Handle) :
    (s.link handle).Has P := by
  unfold State.link
  cases found : s.links[handle.link]? with
  | none => exact Files.has_unshared lasting
  | some link => exact has.links link (List.mem_of_getElem? found)

def database (s : State) (handle : Handle) : Database := (s.link handle).database s.disk

theorem Has.database {s : State} (has : s.Has P) (lasting : Lasting P) (handle : Handle) :
    P (s.database handle) :=
  (has.link lasting handle).database lasting has.disk

theorem has_start {disk : Disk} (around : disk.Has P) : (start disk).Has P :=
  ⟨around, fun _ member => absurd member List.not_mem_nil⟩

theorem Has.settle {s : State} (has : s.Has P) : s.settle.Has P :=
  ⟨has.disk.settleUnused _, has.links⟩

private theorem Has.pools {s : State} (has : s.Has P) : ∀ link ∈ s.pools, link.Has P := by
  intro link member
  have used : link ∈ s.usedLinks := (List.mem_filter.mp member).1
  obtain ⟨entry, kept, rfl⟩ := List.mem_map.mp used
  exact has.links entry.1 (List.fst_mem_of_mem_zipIdx (List.mem_filter.mp kept).1)

private theorem has_set {links : List Link} (each : ∀ link ∈ links, link.Has P) (number : Nat)
    {link : Link} (has : link.Has P) : ∀ other ∈ links.set number link, other.Has P := by
  intro other member
  rcases List.mem_or_eq_of_mem_set member with old | rfl
  · exact each other old
  · exact has

theorem Has.connect {s : State} (has : s.Has P) (name : String) {link : Link} (linked : link.Has P)
    (limits : Limits) : (s.connect name link limits).Has P := by
  refine ⟨has.disk, ?_⟩
  unfold State.connect
  simp only
  split
  · exact has_set has.links _ linked
  · intro other member
    rcases List.mem_append.mp member with old | fresh
    · exact has.links other old
    · rw [List.mem_singleton.mp fresh]
      exact linked

theorem Has.openCache {s : State} (has : s.Has P) (lasting : Lasting P) (name : String)
    (settings : Settings) : (s.openCache name settings).2.Has P := by
  obtain ⟨around, linked⟩ := Files.has_openCache settings lasting has.pools has.disk
  unfold State.openCache
  split
  · rename_i failure disk outcome
    rw [outcome] at around
    exact ⟨around, has.links⟩
  · rename_i link disk outcome
    rw [outcome] at around linked
    have opened : State.Has P { s with disk := disk } := ⟨around, has.links⟩
    exact opened.connect name (linked link rfl) _

theorem Has.openInMemory {s : State} (has : s.Has P) (lasting : Lasting P) (name : String)
    (settings : Settings) : (s.openInMemory name settings).2.Has P := by
  obtain ⟨-, linked⟩ :=
    (Files.has_unshared lasting).makeReady lasting has.disk settings
  unfold State.openInMemory
  split
  · exact has
  · rename_i link outcome
    exact has.connect name (linked link outcome) _

end State

/-- The command, if it changes a database, keeps the property. -/
def Command.Keeps (P : Database → Prop) : Command → Prop
  | .call _ _ operation =>
    ∀ (fired : Bool) (now : Int) (c : Connection), P c.database →
      P ((Cache.Call.mk operation fired now).perform c).2.database
  | .interfere _ interference => ∀ db, P db → P (interference.apply db)
  | .writeFile _ content => ∀ db, Database.ofBytes? content = some db → P db
  | .commandLine _ =>
    ∀ (height : Height) (fired : Bool) (now : Int) (c : Connection), P c.database →
      P ((Cache.Call.mk (.rollBack height) fired now).perform c).2.database
  | _ => True

namespace State

theorem Has.perform {s : State} (has : s.Has P) (lasting : Lasting P) (handle : Handle)
    {call : Cache.Call} (kept : ∀ c : Connection, P c.database → P (call.perform c).2.database) :
    (s.perform handle call).2.Has P := by
  have good := kept ((s.link handle).connection s.disk) (has.database lasting handle)
  unfold State.perform
  obtain ⟨linked, filed⟩ := (s.link handle).has_after lasting has.disk good
  exact ⟨filed, has_set has.links _ linked⟩

theorem Has.interfere {s : State} (has : s.Has P) (lasting : Lasting P) (path : String)
    {change : Database → Database} (kept : ∀ db, P db → P (change db)) :
    (s.interfere path change).Has P := by
  unfold State.interfere
  split
  · exact has
  · rename_i place found
    exact ⟨has.disk.setDatabase lasting.blank place
      (kept _ (has.disk.databaseAt lasting.blank place)), has.links⟩

theorem Has.visit {s : State} (has : s.Has P) (path : String) : (s.visit path).Has P := by
  unfold State.visit
  split
  · rename_i disk opened
    obtain ⟨place, found, same⟩ := Option.map_eq_some_iff.mp opened
    exact ⟨has.disk.openFile same, has.links⟩
  · exact has

theorem Has.lookedThrough {s : State} (has : s.Has P) (lasting : Lasting P) (stream : Stream) :
    (s.lookedThrough stream).Has P := by
  unfold State.lookedThrough
  simp only
  split
  · refine ⟨has.disk, has_set has.links _ ?_⟩
    exact ((s.link stream.handle).has_after lasting has.disk
      (has.database lasting stream.handle)).1
  · exact has

end State

/-! ### The command line -/

private theorem carryOut_reads {operation : Cache.Operation} (reads : operation.reads = true)
    (log : CommandLine.Log) (payload : Bool) (now : Int) {c : Connection} (good : P c.database) :
    P (CommandLine.carryOut operation log payload now c).2.database := by
  have same : (CommandLine.carryOut operation log payload now c).2.database = c.database :=
    Cache.perform_reads ⟨operation, false, now⟩ c reads
  rw [same]
  exact good

private theorem execute_keeps (command : CommandLine.Command) (log : CommandLine.Log)
    (limits : Limits) (now : Int) {c : Connection} (good : P c.database)
    (kept : ∀ (height : Height) (fired : Bool) (now : Int) (c : Connection), P c.database →
      P ((Cache.Call.mk (.rollBack height) fired now).perform c).2.database) :
    P (command.execute log limits now c).2.database := by
  cases command with
  | tip => exact carryOut_reads rfl log _ now good
  | block height payload => exact carryOut_reads rfl log _ now good
  | blockByHash hash => exact carryOut_reads rfl log _ now good
  | transaction query =>
    unfold CommandLine.Command.execute
    simp only
    split
    · exact carryOut_reads rfl log _ now good
    · exact good
  | range first last =>
    unfold CommandLine.Command.execute
    simp only
    split <;> exact good
  | rollback height => exact kept height false now c good

theorem has_commandLine {disk : Disk} (around : disk.Has P) (lasting : Lasting P)
    (arguments : List String) (log : CommandLine.Log) (now : Int)
    (kept : (Command.commandLine arguments).Keeps P) :
    (CommandLine.run arguments log now disk).2.Has P := by
  unfold CommandLine.run
  split
  · exact around
  · exact around
  · rename_i invocation understood
    unfold CommandLine.Invocation.run
    split
    · exact around
    · rename_i loaded read
      obtain ⟨opened, linked⟩ :=
        Files.has_openCache (invocation.settings loaded) lasting
          (fun _ member => absurd member List.not_mem_nil) around
      simp only
      split
      · rename_i e after outcome
        rw [outcome] at opened
        exact opened
      · rename_i after outcome
        rw [outcome] at opened
        exact opened
      · rename_i link after outcome
        rw [outcome] at opened linked
        have good := (linked link rfl).database lasting opened
        exact (link.has_after lasting opened
          (execute_keeps invocation.command log _ now good kept)).2

namespace State

/-! ### Steps and runs -/

private theorem Has.carryOut {s : State} (has : s.Has P) (lasting : Lasting P) (now : Int)
    {command : Command} (kept : command.Keeps P) : (s.carryOut now command).2.Has P := by
  cases command with
  | openMemory name settings => exact has.openInMemory lasting name settings
  | openFile name settings => exact has.openCache lasting name settings
  | openConfigured name file =>
    simp only [State.carryOut, State.openConfigured]
    split
    · exact has
    · exact has.openCache lasting name _
  | copy name newName =>
    simp only [State.carryOut, State.withHandle]
    split
    · exact has
    · exact ⟨has.disk, has.links⟩
  | close name => exact ⟨has.disk, has.links⟩
  | limits name =>
    simp only [State.carryOut, State.withHandle]
    split <;> exact has
  | describe name =>
    simp only [State.carryOut, State.withHandle]
    split <;> exact has
  | fire token => exact ⟨has.disk, has.links⟩
  | call name token operation =>
    simp only [State.carryOut, State.withHandle]
    split
    · exact has
    · exact has.perform lasting _ (kept _ now)
  | streamOpen name stream token first last =>
    simp only [State.carryOut, State.withHandle]
    split
    · exact has
    · unfold State.streamOpen
      split
      · exact ⟨has.disk, has.links⟩
      · exact has
      · exact has
  | streamNext name count =>
    simp only [State.carryOut, State.withStream]
    split
    · exact has
    · split
      · exact ⟨has.disk, has.links⟩
      · exact ⟨(has.lookedThrough lasting _).disk, (has.lookedThrough lasting _).links⟩
  | streamCollect name =>
    simp only [State.carryOut, State.withStream]
    split
    · exact has
    · exact ⟨(has.lookedThrough lasting _).disk, (has.lookedThrough lasting _).links⟩
  | streamDrop name => exact ⟨has.disk, has.links⟩
  | streamKill name =>
    simp only [State.carryOut, State.withStream]
    split
    · exact has
    · exact ⟨has.disk, has.links⟩
  | writeFile path content => exact ⟨has.disk.write path kept, has.links⟩
  | makeDirectory path => exact ⟨has.disk.makeAll _, has.links⟩
  | pathKind path => exact has
  | commandLine arguments =>
    exact ⟨has_commandLine has.disk lasting arguments .silent now kept, has.links⟩
  | interfere path interference => exact has.interfere lasting path kept
  | unlock path => exact has.interfere lasting path lasting.unlocked
  | dump path => exact has.visit path

theorem Has.step {s : State} (has : s.Has P) (lasting : Lasting P) (now : Int)
    {command : Command} (kept : command.Keeps P) : (s.step now command).2.Has P :=
  (has.carryOut lasting now kept).settle

theorem Has.run {s : State} (has : s.Has P) (lasting : Lasting P) {script : List (Int × Command)}
    (kept : ∀ entry ∈ script, entry.2.Keeps P) : (s.run script).2.Has P := by
  induction script generalizing s with
  | nil => exact has
  | cons entry script ih =>
    have step := has.step lasting entry.1 (kept entry List.mem_cons_self)
    exact ih step fun other member => kept other (List.mem_cons_of_mem entry member)

end State

end ChainStore.Session
