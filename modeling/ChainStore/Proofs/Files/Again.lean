import ChainStore.Proofs.Files.Reopening

set_option autoImplicit false
set_option relaxedAutoImplicit false

/-!
Opening a cache while it is in use. The first opening leaves a database of this version behind that
has its log on; every later one finds it, changes nothing, and gives a link to it of the same kind.
-/

namespace ChainStore.Files

open Storage (Connection Database Rights readFault?_of_writeFault?)
open Cache.Layout

namespace Link

/-- How a link leads to its database: with which rights, to which file if to any, in which pool. -/
structure Way where
  rights : Rights
  place : Option Place
  pool : Option Pool
deriving DecidableEq

def way (link : Link) : Way where
  rights := link.toRights
  place := match link.location with
    | .file place => some place
    | .held _ => none
  pool := link.pool

theorem way_after (link : Link) (c : Connection) (disk : Disk) :
    (link.after c disk).1.way = link.way := by
  unfold after way
  split <;> simp only [*]

variable {link : Link} {place : Place}

theorem location_of_way (filed : link.way.place = some place) : link.location = .file place := by
  unfold way at filed
  cases location : link.location with
  | file other => rw [location] at filed; exact congrArg _ (Option.some.inj filed)
  | held db => rw [location] at filed; cases filed

theorem held_of_way (unfiled : link.way.place = none) : ∃ db, link.location = .held db := by
  unfold way at unfiled
  cases location : link.location with
  | file other => rw [location] at unfiled; cases unfiled
  | held db => exact ⟨db, rfl⟩

end Link

variable {path : String} {pools : List Link} {disk found : Disk} {address : Address} {link : Link}
  {place : Place} {content : Content} {db : Database}

theorem way_of_leads (leads : Leads path pools disk found address link place) :
    link.way = ⟨{}, some place, link.pool⟩ := by
  have rights : link.toRights = {} := by
    rw [show link.toRights = ⟨link.readOnly, link.heedsLocks⟩ from rfl, leads.writable,
      leads.heeding]
  simp only [Link.way, rights, leads.filed]

/-- A file with a database of this version whose log is on. -/
structure Disk.InUse (disk : Disk) (place : Place) (db : Database) : Prop where
  there : ∃ settled, disk.node? place = some (.file (.database db settled))
  free : db.locked = false
  logged : db.logged = true
  recorded : db.metadata.join = some versionText

namespace Disk.InUse

theorem databaseAt (inUse : disk.InUse place db) : disk.databaseAt place = db := by
  obtain ⟨settled, there⟩ := inUse.there
  exact databaseAt_of_content there rfl

theorem setDatabase (inUse : disk.InUse place db) : disk.setDatabase place db = disk := by
  obtain ⟨settled, there⟩ := inUse.there
  rw [setDatabase_of_logged there inUse.logged, Disk.set_node there]

end Disk.InUse

theorem openCache_first {settings : Settings} (valid : settings.validate = .ok ())
    (patient : settings.file.busyTimeoutMs.toNat ≤ maxTimeoutMs)
    (leads : Leads settings.file.path pools disk found address link place)
    (holds : found.node? place = some (.file content)) (read : content.toDatabase = .ok db)
    (free : db.locked = false) (accepted : verdict db = .ok ()) :
    ∃ opened after, openCache settings pools disk = (.ok opened, after) ∧ opened.way = link.way ∧
      found.SameTree after ∧ after.InUse place { readied db with logged := true } := by
  obtain ⟨known, answered⟩ := openCache_of_leads valid patient leads holds read free
  obtain ⟨settled, there⟩ := node?_withLog holds read
  rw [accepted] at answered
  refine ⟨_, _, answered, rfl, ?_, ?_, ?_, rfl, recorded_of_verdict accepted⟩
  · exact (sameTree_withLog holds db).trans (Disk.sameTree_set there _)
  · rw [readied_log]
    exact ⟨_, Disk.node?_set_of_file there _⟩
  · exact (locked_readied db).trans free

private theorem makeReady_inUse {settings : Settings} (valid : settings.validate = .ok ())
    (way : link.way.rights = {} ∧ link.way.place = some place) (inUse : disk.InUse place db) :
    ∃ opened, link.makeReady settings disk = (.ok opened, disk) ∧ opened.way = link.way := by
  have filed := Link.location_of_way way.2
  have here : (link.connection disk).database = db := by
    simp only [Link.connection, Link.database, filed, inUse.databaseAt]
  have able : (link.connection disk).writeFault? = none := by
    have rights : (link.connection disk).toRights = {} := way.1
    simp [Connection.writeFault?, rights, here, inUse.free]
  obtain ⟨answer, left⟩ := run_prepare able
  rw [here, verdict_of_version inUse.recorded] at answer
  rw [here, readied_of_recorded inUse.recorded] at left
  cases ran : prepare.run (link.connection disk) with
  | mk result after =>
    rw [ran] at answer left
    obtain rfl : result = .ok () := answer
    have kept : (link.after after disk).2 = disk := by
      simp only [Link.after, filed]
      rw [show after.database = db from left, inUse.setDatabase]
    refine ⟨(link.after after disk).1, ?_, link.way_after after disk⟩
    simp only [Link.makeReady, makeReady, valid, ran]
    rw [kept]

/-- Opening a cache that is in use changes nothing, and leads to its database like the links that
others use. -/
theorem openCache_inUse {settings : Settings} (valid : settings.validate = .ok ())
    (patient : settings.file.busyTimeoutMs.toNat ≤ maxTimeoutMs)
    (leads : Leads settings.file.path pools disk found address link place)
    (holds : found.node? place = some (.file content)) {after : Disk} (same : found.SameTree after)
    (inUse : after.InUse place db) {pools' : List Link}
    (shared : ∀ other ∈ pools', link.pool.isSome = true → other.pool = link.pool →
      other.way = link.way) :
    ∃ opened, openCache settings pools' after = (.ok opened, after) ∧ opened.way = link.way := by
  obtain ⟨parents, -, linked⟩ := leads.linked_again holds same pools'
  obtain ⟨joined, joins⟩ : ∃ joined,
      (pools'.find? fun other => link.pool.isSome && other.pool == link.pool).getD link = joined :=
    ⟨_, rfl⟩
  rw [joins] at linked
  have way : joined.way = link.way := by
    cases search : pools'.find? fun other => link.pool.isSome && other.pool == link.pool with
    | none => rw [← joins, search, Option.getD_none]
    | some other =>
      have chosen := List.find?_some search
      simp only [Bool.and_eq_true, beq_iff_eq] at chosen
      rw [← joins, search, Option.getD_some]
      exact shared other (List.mem_of_find?_eq_some search) chosen.1 chosen.2
  have kind := way.trans (way_of_leads leads)
  have rights : joined.way.rights = {} := congrArg Link.Way.rights kind
  have filed : joined.way.place = some place := congrArg Link.Way.place kind
  have leading : joined.way.rights = {} ∧ joined.way.place = some place := ⟨rights, filed⟩
  have started : startLog address joined pools' after = .ok (joined, after) := by
    obtain ⟨settled, there⟩ := inUse.there
    have able : (joined.connection after).readFault? = none := by
      have heeding : (joined.connection after).toRights = {} := rights
      simp [Connection.readFault?, heeding]
    unfold startLog
    split
    · rfl
    · simp only [Link.start, Link.location_of_way filed, there, Content.toDatabase, leads.thawed,
        Bool.false_eq_true, ↓reduceIte, inUse.logged, Bool.true_or, able]
  obtain ⟨opened, ready, same_way⟩ := makeReady_inUse valid leading inUse
  refine ⟨opened, ?_, same_way.trans way⟩
  simp only [openCache, parents, linked, started, ready]
  rw [if_neg (Nat.not_lt.mpr patient)]

end ChainStore.Files
