import ChainStore.Proofs.Files.Reopening

set_option autoImplicit false
set_option relaxedAutoImplicit false

/-!
What becomes of a database with a recorded version while some cache is opened, be it this one or
another, and whether or not the opening succeeds: nothing, except that its log may be switched on.
-/

namespace ChainStore.Storage

/-- A cache has been laid out in the database: a version is recorded, whatever has become of the
tables since. -/
def Database.Initialised (db : Database) : Prop := ∃ text, db.metadata = some (some text)

/-- Another state of a database: the same, or the same with its log switched on. -/
def Database.Logs (db other : Database) : Prop := other = db ∨ other = { db with logged := true }

namespace Database

variable {db other : Database}

theorem Logs.metadata (logs : db.Logs other) : other.metadata = db.metadata := by
  rcases logs with rfl | rfl <;> rfl

theorem Logs.start (logs : db.Logs other) : db.Logs { other with logged := true } := by
  rcases logs with rfl | rfl <;> exact .inr rfl

end Database

end ChainStore.Storage

namespace ChainStore.Files

open Storage (Connection Database Fault)

variable {disk after : Disk} {place : Place} {db : Database} {link : Link} {pools : List Link}

def Disk.Stores (disk : Disk) (place : Place) (db : Database) : Prop :=
  ∃ found settled, disk.node? place = some (.file (.database found settled)) ∧ db.Logs found

/-- Every database with a recorded version is on another disk what it is on this one, except that
its log may have been switched on. -/
def Disk.Keeps (disk other : Disk) : Prop :=
  ∀ place, (disk.databaseAt place).Initialised →
    (disk.databaseAt place).Logs (other.databaseAt place)

namespace Disk

theorem Keeps.refl (disk : Disk) : disk.Keeps disk := fun _ _ => .inl rfl

theorem Stores.databaseAt (stores : disk.Stores place db) : db.Logs (disk.databaseAt place) := by
  obtain ⟨found, settled, there, logs⟩ := stores
  rw [Disk.databaseAt, there]
  exact logs

theorem stores_of_initialised (initialised : (disk.databaseAt place).Initialised) :
    disk.Stores place (disk.databaseAt place) := by
  obtain ⟨text, recorded⟩ := initialised
  unfold Disk.databaseAt at recorded ⊢
  split at recorded
  · rename_i found settled there
    exact ⟨found, settled, there, .inl rfl⟩
  · cases recorded

theorem Stores.set_elsewhere (stores : disk.Stores place db) {other : Place}
    (elsewhere : place ≠ other) (node : Node) : (disk.set other node).Stores place db := by
  obtain ⟨found, settled, there, logs⟩ := stores
  refine ⟨found, settled, ?_, logs⟩
  rw [node?_set, if_neg fun here => elsewhere here.1]
  exact there

theorem Stores.set_free (stores : disk.Stores place db) {other : Place}
    (free : disk.node? other = none) (node : Node) : (disk.set other node).Stores place db := by
  refine stores.set_elsewhere ?_ node
  rintro rfl
  obtain ⟨found, settled, there, -⟩ := stores
  rw [free] at there
  cases there

theorem Stores.setDatabase (stores : disk.Stores place db) {other : Place} {replaced : Database}
    (same : other = place → db.Logs replaced) : (disk.setDatabase other replaced).Stores place db := by
  by_cases here : place = other
  · obtain ⟨found, settled, there, -⟩ := stores
    subst here
    exact ⟨replaced, _, node?_set_of_file there _, same rfl⟩
  · exact stores.set_elsewhere here _

theorem Stores.openFile (stores : disk.Stores place db) {path : String} {access : Access}
    {other : Place} (opened : disk.openFile path access other = .ok after) :
    after.Stores place db := by
  rcases openFile_ok opened with rfl | ⟨free, rfl⟩
  · exact stores
  · exact stores.set_free free _

end Disk

theorem stores_makeParents (stores : disk.Stores place db) (path : String) :
    (makeParents path disk).2.Stores place db := by
  have made : (disk.makeAll (parentElements path)).2.Stores place db :=
    Disk.makeAllUp_induction (Q := fun made => made.Stores place db) stores
      (fun _ _ free held => Disk.Stores.set_free held free _) _
  unfold makeParents
  split
  · exact stores
  · split
    · exact stores
    · split <;> simp_all

theorem stores_openLink (stores : disk.Stores place db) {path : String} {address : Address}
    (opened : openLink path pools disk = .ok (address, link, after)) : after.Stores place db := by
  obtain ⟨-, -, linked⟩ := openLink_ok opened
  rcases Address.link_ok linked with ⟨-, rfl⟩ | ⟨rfl, -⟩ | ⟨-, other, -, -, file, -⟩
  · exact stores
  · exact stores
  · exact stores.openFile file

theorem stores_finds (stores : disk.Stores place db) {path : String} {address : Address}
    (finds : Finds path pools disk address link after) : after.Stores place db := by
  obtain ⟨made, parents, linked⟩ := finds
  have above := stores_makeParents stores path
  rw [parents] at above
  exact stores_openLink above linked

theorem stores_startLog (stores : disk.Stores place db) {address : Address} {begun : Link}
    (started : startLog address link pools disk = .ok (begun, after)) : after.Stores place db := by
  unfold startLog at started
  split at started
  · cases started
    exact stores
  · rcases Link.start_ok started with ⟨rfl, -⟩ | ⟨other, content, found, -, there, read, -, rfl⟩
    · exact stores
    · refine stores.setDatabase ?_
      rintro rfl
      have same := databaseAt_of_content there read
      exact (same ▸ stores.databaseAt).start

theorem stores_after (stores : disk.Stores place db) {c : Connection}
    (same : link.location = .file place → db.Logs c.database) :
    (link.after c disk).2.Stores place db := by
  unfold Link.after
  split
  · rename_i other filed
    exact stores.setDatabase fun here => same (here ▸ filed)
  · exact stores

theorem logs_of_link (stores : disk.Stores place db) (filed : link.location = .file place) :
    db.Logs (link.connection disk).database := by
  have here : (link.connection disk).database = disk.databaseAt place := by
    simp only [Link.connection, Link.database, filed]
  rw [here]
  exact stores.databaseAt

theorem stores_makeReady (stores : disk.Stores place db) (initialised : db.Initialised)
    (settings : Settings) : (link.makeReady settings disk).2.Stores place db := by
  have same : link.location = .file place →
      db.Logs (makeReady settings (link.connection disk)).2.database := by
    intro filed
    have logs := logs_of_link stores filed
    obtain ⟨text, recorded⟩ := initialised
    unfold makeReady
    split
    · exact logs
    · rw [Cache.Layout.prepare_of_recorded (logs.metadata.trans recorded)]
      exact logs
  have kept := stores_after stores same
  unfold Link.makeReady
  split
  · rename_i u c ready
    rw [ready] at kept
    exact kept
  · rename_i e c ready
    rw [ready] at kept
    exact kept

/-- Opening a cache, this one or another, leaves a database with a recorded version as it is but for
its log, whether the opening succeeds or fails. -/
theorem stores_openCache (stores : disk.Stores place db) (initialised : db.Initialised)
    (settings : Settings) (pools : List Link) :
    (openCache settings pools disk).2.Stores place db := by
  have parents := stores_makeParents stores settings.file.path
  have ready {address : Address} {link begun : Link} {found logged : Disk}
      (finds : Finds settings.file.path pools disk address link found)
      (started : startLog address link pools found = .ok (begun, logged)) :
      (begun.makeReady settings logged).2.Stores place db :=
    stores_makeReady (stores_startLog (stores_finds stores finds) started) initialised settings
  have outcome := outcome_openCache settings pools disk
  generalize openCache settings pools disk = result at outcome ⊢
  cases outcome with
  | unparented blocked =>
    rw [blocked] at parents
    exact parents
  | unlinked made failed =>
    rw [made] at parents
    exact parents
  | impatient finds long => exact stores_finds stores finds
  | unlogged finds short failed => exact stores_finds stores finds
  | unready finds short started refused =>
    have final := ready finds started
    rw [refused] at final
    exact final
  | opened finds short started made =>
    have final := ready finds started
    rw [made] at final
    exact final

theorem keeps_openCache (settings : Settings) (pools : List Link) (disk : Disk) :
    disk.Keeps (openCache settings pools disk).2 := fun _ initialised =>
  (stores_openCache (Disk.stores_of_initialised initialised) initialised settings pools).databaseAt

end ChainStore.Files
