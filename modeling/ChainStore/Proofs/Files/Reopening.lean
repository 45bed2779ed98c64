import ChainStore.Proofs.Cache.Preparation
import ChainStore.Proofs.Files.Opening
import ChainStore.Proofs.Files.Paths

set_option autoImplicit false
set_option relaxedAutoImplicit false

/-!
What opening a cache does to the database that its path leads to, whatever that database holds, and
what opening it a second time does.
-/

namespace ChainStore.Files

open Storage (BlockTable Connection Database readFault?_of_writeFault?)
open Cache.Layout

/-- A path leads to the file at a place, on the disk where the file has been found or created. The
link that it gives is one of its own, through which the file can be written and locks are heeded.
That the file is there by then does not change where the address leads. -/
structure Leads (path : String) (pools : List Link) (disk found : Disk) (address : Address)
    (link : Link) (place : Place) : Prop where
  opened : ∃ made, makeParents path disk = (.ok (), made) ∧
    openLink path pools made = .ok (address, link, found)
  filed : link.location = .file place
  alone : ∀ other ∈ pools, other.pool ≠ link.pool
  writable : link.readOnly = false
  heeding : link.heedsLocks = true
  steady : address.place? found = some place

variable {path : String} {pools : List Link} {disk found : Disk} {address : Address} {link : Link}
  {place : Place} {content : Content} {db : Database}

private theorem link_of_path {made : Disk}
    (opened : openLink path pools made = .ok (address, link, found))
    (filed : link.location = .file place) (alone : ∀ other ∈ pools, other.pool ≠ link.pool) :
    hasNul path = false ∧ Address.ofText path = .ok address ∧ address.inMemory = false ∧
      address.place? made = some place ∧ address.permissionsOf.map made.nodeAt? ≠ some none ∧
      made.openFile path address.access place = .ok found ∧
      link = ⟨⟨address.readOnly, address.heedsLocks⟩, .file place, [], address.pool? made⟩ := by
  obtain ⟨clean, parsed, linked⟩ := openLink_ok opened
  rcases Address.link_ok linked with
    ⟨joined, -⟩ | ⟨-, rfl⟩ | ⟨filing, place', placed, permitted, file, rfl⟩
  · exact absurd rfl (alone link joined)
  · cases filed
  · cases filed
    exact ⟨clean, parsed, filing, placed, permitted, file, rfl⟩

private theorem within_openFile {access : Access}
    (opened : disk.openFile path access place = .ok found) : disk.Within found := by
  rcases Disk.openFile_ok opened with rfl | ⟨free, rfl⟩
  · exact Disk.Within.refl _
  · exact Disk.within_set free _

/-- Where a path leads to a file, it is linked to it once more after the contents of files have
changed, by the link of a pool that was joined before if there is one. -/
theorem Leads.linked_again {after : Disk}
    (leads : Leads path pools disk found address link place)
    (holds : found.node? place = some (.file content)) (same : found.SameTree after)
    (pools' : List Link) :
    makeParents path after = (.ok (), after) ∧ address.place? after = some place ∧
      openLink path pools' after =
        .ok (address,
          (pools'.find? fun other => link.pool.isSome && other.pool == link.pool).getD link,
          after) := by
  obtain ⟨made, parents, opened⟩ := leads.opened
  obtain ⟨clean, parsed, filing, placed, permitted, file, linked⟩ :=
    link_of_path opened leads.filed leads.alone
  -- What a path leads to is decided by the tree alone, and the file is in the tree by now.
  have grown := (within_openFile file).trans same.within
  have steady : address.place? after = some place := by
    rw [← leads.steady, Address.place?, Address.place?, same.databasePlace?]
  have pooled : address.pool? after = link.pool := by
    rw [linked, Address.pool?, Address.pool?, steady, placed]
  refine ⟨makeParents_again parents grown, steady, ?_⟩
  have permitted' : address.permissionsOf.map after.nodeAt? ≠ some none := by
    cases asked : address.permissionsOf with
    | none => simp
    | some model =>
      rw [asked] at permitted
      exact fun gone => grown.nodeAt? (fun none => permitted (congrArg some none))
        (Option.some.inj gone)
  obtain ⟨content', there⟩ := Disk.isFile?_eq_true.mp
    ((same.kept place).trans (Disk.isFile?_eq_true.mpr ⟨content, holds⟩))
  have opened' : after.openFile path address.access place = .ok after := by
    rw [Disk.openFile, there]
  rw [openLink, if_neg (by simp [clean]), parsed]
  simp only [Address.link]
  rw [if_neg (by simp [filing]), steady, pooled]
  simp only
  cases pools'.find? fun other => link.pool.isSome && other.pool == link.pool with
  | some joined => rfl
  | none =>
    simp only
    rw [if_neg permitted', opened', linked]
    rfl

theorem Leads.again {pools' : List Link} {after : Disk}
    (leads : Leads path pools disk found address link place)
    (holds : found.node? place = some (.file content)) (same : found.SameTree after)
    (alone : ∀ other ∈ pools', other.pool ≠ link.pool) :
    Leads path pools' after after address link place := by
  obtain ⟨parents, steady, opened⟩ := leads.linked_again holds same pools'
  have unshared :
      (pools'.find? fun other => link.pool.isSome && other.pool == link.pool) = none := by
    rw [List.find?_eq_none]
    intro other member
    simp [alone other member]
  rw [unshared] at opened
  exact ⟨⟨after, parents, opened⟩, leads.filed, alone, leads.writable, leads.heeding, steady⟩

theorem leads_of_plain {made : Disk} (clean : hasNul path = false)
    (plain : (Name.ofText "file:").isPrefixOf (Name.ofText path) = false)
    (named : Name.ofText path ≠ [] ∧ Name.ofText path ≠ Name.ofText ":memory:")
    (parents : makeParents path disk = (.ok (), made))
    (placed : made.databasePlace? (Name.ofText path) = some place)
    (opened : made.openFile path .create place = .ok found)
    (steady : found.databasePlace? (Name.ofText path) = some place)
    (shared : ∀ other ∈ pools, other.pool.isSome = true) :
    Leads path pools disk found { name := Name.ofText path } { location := .file place } place := by
  have filing : ({ name := Name.ofText path } : Address).inMemory = false := by
    simp [Address.inMemory, Address.fileless, named]
  have placed_on {tree : Disk} (here : tree.databasePlace? (Name.ofText path) = some place) :
      ({ name := Name.ofText path } : Address).place? tree = some place := by
    rw [Address.place?, filing]
    exact here
  have alone : ({ name := Name.ofText path } : Address).pool? made = none := by
    simp [Address.pool?]
  refine ⟨⟨made, parents, ?_⟩, rfl, ?_, rfl, rfl, placed_on steady⟩
  · have nobody : pools.find? (fun link => (none : Option Pool).isSome && link.pool == none) =
        none := by
      simp [List.find?_eq_none]
    rw [openLink, if_neg (by simp [clean]), Address.ofText]
    simp only [plain]
    rw [if_neg Bool.false_ne_true]
    simp only [Address.link, filing, placed_on placed, alone, nobody, opened]
    rfl
  · intro other member same
    have pooled := shared other member
    rw [same] at pooled
    cases pooled

/-! ### What opening comes down to -/

theorem database_of_leads (leads : Leads path pools disk found address link place)
    (begun : Disk) : link.database begun = begun.databaseAt place := by
  simp only [Link.database, leads.filed]

private theorem able_of_free (leads : Leads path pools disk found address link place) {begun : Disk}
    (free : (begun.databaseAt place).locked = false) :
    (link.connection begun).writeFault? = none := by
  simp [Connection.writeFault?, Link.connection, database_of_leads leads, free, leads.writable,
    leads.heeding]

/-- The disk once the log of the database at a place has been switched on. -/
def Disk.withLog (disk : Disk) (place : Place) (db : Database) : Disk :=
  if db.logged then disk else disk.setDatabase place { db with logged := true }

theorem databaseAt_of_content (holds : disk.node? place = some (.file content))
    (read : content.toDatabase = .ok db) : disk.databaseAt place = db := by
  rw [Disk.databaseAt, holds]
  unfold Content.toDatabase at read
  split at read
  · cases read
    rfl
  · cases read
    rfl
  · cases read
  · cases read
    rfl

theorem node?_withLog (holds : disk.node? place = some (.file content))
    (read : content.toDatabase = .ok db) :
    ∃ settled, (disk.withLog place db).node? place =
      some (.file (.database { db with logged := true } settled)) := by
  unfold Disk.withLog
  split
  · rename_i logged
    unfold Content.toDatabase at read
    split at read
    · cases read
      cases logged
    · cases read
      cases logged
    · cases read
    · rename_i db' settled
      cases read
      exact ⟨settled, by rw [holds, ← logged]⟩
  · exact ⟨_, Disk.node?_set_of_file holds _⟩

theorem sameTree_withLog (holds : disk.node? place = some (.file content)) (db : Database) :
    disk.SameTree (disk.withLog place db) := by
  unfold Disk.withLog
  split
  · exact ⟨rfl, fun _ => rfl⟩
  · exact Disk.sameTree_set holds _

theorem Leads.thawed (leads : Leads path pools disk found address link place) :
    address.frozen = false := by
  obtain ⟨made, -, opened⟩ := leads.opened
  obtain ⟨-, -, filing, -, -, -, linked⟩ := link_of_path opened leads.filed leads.alone
  have writable : address.readOnly = false := by rw [← leads.writable, linked]
  simp only [Address.readOnly, Address.inMemory, Bool.or_eq_false_iff] at writable filing
  simpa [filing.1] using writable.2

private theorem startLog_of_content (leads : Leads path pools disk found address link place)
    (holds : found.node? place = some (.file content)) (read : content.toDatabase = .ok db)
    (free : db.locked = false) :
    startLog address link pools found = .ok (link, found.withLog place db) := by
  have apart : pools.contains link = false := by
    rw [← Bool.not_eq_true, List.contains_iff_mem]
    exact fun member => leads.alone link member rfl
  have able : (link.connection found).writeFault? = none := by
    refine able_of_free leads ?_
    rw [databaseAt_of_content holds read, free]
  rw [startLog, apart, if_neg Bool.false_ne_true, Link.start, leads.filed]
  simp only [holds, read, leads.thawed, Disk.withLog, able, readFault?_of_writeFault? able,
    leads.heeding]
  cases db.logged <;> rfl

private theorem makeReady_of_free {settings : Settings} (valid : settings.validate = .ok ())
    (leads : Leads path pools disk found address link place) {begun : Disk}
    (free : (begun.databaseAt place).locked = false) :
    ∃ known, link.makeReady settings begun =
      (match verdict (begun.databaseAt place) with
        | .ok _ => .ok { link with known := known }
        | .error e => .error e,
        begun.setDatabase place (readied (begun.databaseAt place))) := by
  have here : (link.connection begun).database = begun.databaseAt place :=
    database_of_leads leads begun
  obtain ⟨answer, left⟩ := Cache.Layout.run_prepare (able_of_free leads free)
  rw [here] at answer left
  unfold Link.makeReady Files.makeReady
  rw [valid]
  simp only
  cases ran : Cache.Layout.prepare.run (link.connection begun) with
  | mk result after =>
    rw [ran] at answer left
    refine ⟨after.known, ?_⟩
    simp only at answer left
    rw [← answer, ← left]
    cases result with
    | ok u =>
      simp only [Link.after, leads.filed]
    | error e =>
      simp only [Link.after, leads.filed]

/-- Opening a cache whose path leads to a database answers what the verdict on the database is,
through the link that the path gives, and leaves the database behind prepared. -/
theorem openCache_of_leads {settings : Settings} (valid : settings.validate = .ok ())
    (patient : settings.file.busyTimeoutMs.toNat ≤ maxTimeoutMs)
    (leads : Leads settings.file.path pools disk found address link place)
    (holds : found.node? place = some (.file content)) (read : content.toDatabase = .ok db)
    (free : db.locked = false) :
    ∃ known, openCache settings pools disk =
      (match verdict db with
        | .ok _ => .ok { link with known := known }
        | .error e => .error (.error e),
        (found.withLog place db).setDatabase place (readied { db with logged := true })) := by
  obtain ⟨made, parents, opened⟩ := leads.opened
  obtain ⟨settled, there⟩ := node?_withLog holds read
  have here : (found.withLog place db).databaseAt place = { db with logged := true } :=
    databaseAt_of_content there rfl
  have unlocked : ((found.withLog place db).databaseAt place).locked = false := by
    rw [here]
    exact free
  obtain ⟨known, ready⟩ := makeReady_of_free valid leads unlocked
  rw [here] at ready
  refine ⟨known, ?_⟩
  unfold openCache
  simp only [parents, opened]
  rw [if_neg (Nat.not_lt.mpr patient), startLog_of_content leads holds read free]
  simp only [ready]
  have same : verdict { db with logged := true } = verdict db := rfl
  rw [same]
  cases verdict db <;> rfl

theorem databaseAt_setDatabase (holds : disk.node? place = some (.file content))
    (db : Database) : (disk.setDatabase place db).databaseAt place = db := by
  rw [Disk.databaseAt, Disk.setDatabase, Disk.node?_set_of_file holds]

theorem setDatabase_of_logged {beside settled : Database}
    (there : disk.node? place = some (.file (.database beside settled)))
    (logged : db.logged = true) :
    disk.setDatabase place db = disk.set place (.file (.database db settled)) := by
  rw [Disk.setDatabase, if_pos logged, Disk.settledAt, there]

private theorem openCache_of_version {settings : Settings} (valid : settings.validate = .ok ())
    (patient : settings.file.busyTimeoutMs.toNat ≤ maxTimeoutMs)
    (leads : Leads settings.file.path pools disk found address link place) {settled : Database}
    (there : found.node? place = some (.file (.database db settled))) (free : db.locked = false)
    (logged : db.logged = true) (recorded : db.metadata.join = some versionText) :
    ∃ opened, openCache settings pools disk = (.ok opened, found) := by
  obtain ⟨known, opening⟩ := openCache_of_leads valid patient leads there rfl free
  have same : ({ db with logged := true } : Database) = db := by rw [← logged]
  refine ⟨{ link with known := known }, ?_⟩
  rw [opening, verdict_of_version recorded, same, readied_of_recorded recorded, Disk.withLog,
    if_pos logged, setDatabase_of_logged there logged, Disk.set_node there]

private theorem openCache_after_layout {settings : Settings} (valid : settings.validate = .ok ())
    (patient : settings.file.busyTimeoutMs.toNat ≤ maxTimeoutMs)
    (leads : Leads settings.file.path pools disk found address link place)
    (holds : found.node? place = some (.file content)) (read : content.toDatabase = .ok db)
    (free : db.locked = false) {pools' : List Link}
    (alone : ∀ other ∈ pools', other.pool ≠ link.pool) :
    ∃ opened, openCache settings pools'
        ((found.withLog place db).setDatabase place (laidOut { db with logged := true })) =
      (.ok opened,
        (found.withLog place db).setDatabase place (laidOut { db with logged := true })) := by
  obtain ⟨settled, there⟩ := node?_withLog holds read
  have same := (sameTree_withLog holds db).trans
    (Disk.sameTree_set there (.database (laidOut { db with logged := true }) settled))
  rw [setDatabase_of_logged there rfl]
  exact openCache_of_version valid patient (leads.again holds same alone)
    (Disk.node?_set_of_file there _) free rfl rfl

private theorem answer_of_reads (leads : Leads path pools disk found address link place)
    {after : Disk} {known : List Storage.Table}
    (left : after.databaseAt place = { db with logged := true }) {call : Cache.Call}
    (reads : call.operation.reads = true) :
    (call.perform (({ link with known := known } : Link).connection after)).1 =
      (call.perform (.ofDatabase db)).1 := by
  have here := (database_of_leads leads after).trans left
  refine Cache.perform_congr_of_reads ?_ ?_ ?_ ?_ reads
  · simp [Connection.readFault?, Link.connection, Connection.ofDatabase, leads.heeding]
  · exact (congrArg Database.tip here).trans rfl
  · exact (congrArg Database.blocks here).trans rfl
  · exact (congrArg Database.transactions here).trans rfl

/-- Opening a cache with settings that hold up, where nobody holds the lock, is decided by the
recorded version and the tables of the database that the path leads to. With this version the rows
stay and are read; a database without a version and without a table of a cache is laid out unless
the record of the version is refused, after which opening changes nothing; any other stays what it
was, and the error names the version or the first table that is in the way. -/
theorem openCache_decided {settings : Settings} (valid : settings.validate = .ok ())
    (patient : settings.file.busyTimeoutMs.toNat ≤ maxTimeoutMs)
    (leads : Leads settings.file.path pools disk found address link place)
    (holds : found.node? place = some (.file content)) (read : content.toDatabase = .ok db)
    (free : db.locked = false) {result : Except Failure Link × Disk}
    (opening : openCache settings pools disk = result) :
    (db.refusal .metadata .insert (.text versionText) = none →
      ((∃ opened, result.1 = .ok opened) ↔
        db.metadata.join = some versionText ∨
          db.metadata.join = none ∧ ∀ table ∈ created, db.has table = false)) ∧
    (db.metadata.join = some versionText →
      result.2.databaseAt place = { db with logged := true } ∧
      ∃ opened, result.1 = .ok opened ∧
        ∀ call : Cache.Call, call.operation.reads = true →
          (call.perform (opened.connection result.2)).1 = (call.perform (.ofDatabase db)).1) ∧
    (db.metadata.join = none → (∀ table ∈ created, db.has table = false) →
      db.refusal .metadata .insert (.text versionText) = none →
      result.2.databaseAt place = laidOut { db with logged := true } ∧
      (∃ opened, result.1 = .ok opened) ∧
      ∀ pools' : List Link, (∀ other ∈ pools', other.pool ≠ link.pool) →
        ∃ opened, openCache settings pools' result.2 = (.ok opened, result.2)) ∧
    ∀ failure, result.1 = .error failure →
      result.2.databaseAt place = { db with metadata := some db.metadata.join, logged := true } ∧
      ∃ e, failure = .error e ∧
        match db.metadata.join, created.find? db.has with
        | some text, _ => text ≠ versionText ∧ e = .layoutMismatch text version
        | none, some table => e = .storage (.creatingLayout version) (.tableExists table)
        | none, none => ∃ message, db.refusal .metadata .insert (.text versionText) = some message ∧
            e = .storage .recordingVersion (.rejected message) := by
  obtain ⟨known, answered⟩ := openCache_of_leads valid patient leads holds read free
  obtain ⟨settled, there⟩ := node?_withLog holds read
  have left := databaseAt_setDatabase there (readied { db with logged := true })
  rw [answered] at opening
  subst opening
  refine ⟨?_, ?_, ?_, ?_⟩
  · intro unrefused
    rw [← verdict_eq_ok unrefused]
    cases verdict db <;> simp
  · intro recorded
    have kept : readied { db with logged := true } = { db with logged := true } :=
      readied_of_recorded recorded
    rw [kept] at left ⊢
    rw [verdict_of_version recorded]
    exact ⟨left, _, rfl, fun call reads => answer_of_reads leads left reads⟩
  · intro blank missing unrefused
    have laid : readied { db with logged := true } = laidOut { db with logged := true } :=
      readied_of_free blank (obstacle?_eq_none.mpr ⟨missing, unrefused⟩)
    rw [laid] at left ⊢
    rw [(verdict_eq_ok unrefused).mpr (.inr ⟨blank, missing⟩)]
    exact ⟨left, ⟨_, rfl⟩, fun pools' alone => openCache_after_layout valid patient leads holds read
      free alone⟩
  · intro failure failed
    cases judged : verdict db with
    | ok u =>
      rw [judged] at failed
      cases failed
    | error e =>
      rw [judged] at failed
      cases failed
      -- The verdict is on the database as it was found; what is left behind has its log on.
      obtain ⟨-, named⟩ := verdict_eq_error judged
      have judged' : verdict { db with logged := true } = .error e := judged
      obtain ⟨kept, -⟩ := verdict_eq_error judged'
      exact ⟨left.trans kept, e, rfl, named⟩

/-- A cache of which somebody has dropped the version and the tip. -/
private def damaged : Database :=
  { Database.blank with
    blocks := some (BlockTable.empty.put (.ofBlock ⟨7, "7a", "6a", false, [1, 2]⟩))
    transactions := some [] }

private def damagedPlace : Place := Disk.empty.home ++ [Name.ofText "c"]

private def damagedDisk : Disk := Disk.empty.set damagedPlace (.file (.database damaged damaged))

private def plainSettings : Settings := { file := { path := "c" } }

private theorem leads_damaged : Leads "c" [] damagedDisk damagedDisk { name := Name.ofText "c" }
    { location := .file damagedPlace } damagedPlace := by
  have parents : makeParents "c" damagedDisk = (.ok (), damagedDisk) := by decide +kernel
  exact leads_of_plain (by decide +kernel) (by decide +kernel) (by decide +kernel) parents
    (by decide +kernel) (by decide +kernel) (by decide +kernel) (by decide)

/-- The tip would be created first, but the blocks are in its way, and it is not there afterwards.
-/
theorem damaged_openCache_decided :
    (openCache plainSettings [] damagedDisk).1 =
        .error (.error (.storage (.creatingLayout version) (.tableExists .blocks))) ∧
      (openCache plainSettings [] damagedDisk).2.databaseAt damagedPlace =
        { damaged with metadata := some none, logged := true } := by
  have valid : plainSettings.validate = .ok () := by decide +kernel
  have patient : plainSettings.file.busyTimeoutMs.toNat ≤ maxTimeoutMs := by decide
  have holds : damagedDisk.node? damagedPlace = some (.file (.database damaged damaged)) := by
    decide +kernel
  obtain ⟨accepted, -, -, refused⟩ :=
    openCache_decided valid patient leads_damaged holds rfl rfl rfl
  cases opened : (openCache plainSettings [] damagedDisk).1 with
  | ok link =>
    rcases (accepted (by decide)).mp ⟨link, opened⟩ with recorded | ⟨-, missing⟩
    · cases recorded
    · exact absurd (missing .blocks (by decide)) (by decide)
  | error failure =>
    obtain ⟨left, e, rfl, rfl⟩ := refused failure opened
    exact ⟨rfl, left⟩

end ChainStore.Files
