import ChainStore.Proofs.Cache.Sound
import ChainStore.Proofs.Files.Again
import ChainStore.Proofs.Session.Streams

set_option autoImplicit false
set_option relaxedAutoImplicit false

/-!
A cache in a file that a session uses through any number of handles, beside private caches in
memory. Handles are opened, copied and closed at will, and so are streams; through all of it every
name leads where it is meant to, and the file holds a sound database that is in use.
-/

namespace ChainStore.Session

open Files (Disk Link)
open Storage (Connection Database)

namespace Named

variable {α : Type} {name : String} {a : α} {named : Named α} {entry : String × α}

theorem mem_of_lookup (there : List.lookup name named = some a) : (name, a) ∈ named := by
  obtain ⟨before, after, rfl, -⟩ := List.lookup_eq_some_iff.mp there
  exact List.mem_append_right _ List.mem_cons_self

theorem mem_forget (member : entry ∈ named.forget name) : entry ∈ named :=
  (List.mem_filter.mp member).1

theorem mem_give (member : entry ∈ named.give name a) : entry = (name, a) ∨ entry ∈ named :=
  (List.mem_cons.mp member).imp id mem_forget

end Named

/-- A cache in a file: the settings it is opened with, its file, the pool of its links if they share
pages, and which names are for handles on it and for streams of it. -/
structure Shared where
  settings : Settings
  place : Files.Place
  pool : Option Files.Pool
  isOn : String → Bool

def privateWay : Link.Way := ⟨{}, none, none⟩

namespace Shared

def way (cache : Shared) : Link.Way := ⟨{}, some cache.place, cache.pool⟩

/-- The way that a name is meant to lead. -/
def wayOf (cache : Shared) (name : String) : Link.Way :=
  if cache.isOn name then cache.way else privateWay

theorem wayOf_on {cache : Shared} {name : String} (on : cache.isOn name = true) :
    cache.wayOf name = cache.way :=
  if_pos on

theorem wayOf_off {cache : Shared} {name : String} (off : cache.isOn name = false) :
    cache.wayOf name = privateWay :=
  if_neg (ne_true_of_eq_false off)

end Shared

/-- Whether something that happens keeps to the cache and to private caches: names of the cache are
given to handles on it alone, opened with the same settings but for the time to wait, and to streams
of it alone. -/
def Act.keepsTo (cache : Shared) : Act → Bool
  | .ask _ _ => true
  | .command (.openFile name settings) =>
    cache.isOn name && settings.file.path == cache.settings.file.path &&
      decide (settings.limits = cache.settings.limits) &&
      decide (settings.file.busyTimeoutMs.toNat ≤ Files.maxTimeoutMs)
  | .command (.openMemory name _) => !cache.isOn name
  | .command (.copy name newName) => cache.isOn name == cache.isOn newName
  | .command (.streamOpen name stream _ _ _) => cache.isOn name == cache.isOn stream
  | .command (.close _) | .command (.limits _) | .command (.describe _) | .command (.fire _)
  | .command (.call _ _ _) | .command (.streamNext _ _) | .command (.streamCollect _)
  | .command (.streamDrop _) | .command (.streamKill _) => true
  | .command _ => false

namespace State

def ways (s : State) : List Link.Way := s.links.map Link.way

/-- Every link leads to the file of the cache or to a private cache, and every handle and stream
there where its name is meant to lead. -/
structure Arranged (cache : Shared) (s : State) : Prop where
  links : ∀ way ∈ s.ways, way = cache.way ∨ way = privateWay
  handles : ∀ entry ∈ s.handles, s.ways[entry.2.link]? = some (cache.wayOf entry.1) ∧
    (cache.isOn entry.1 = true → entry.2.limits = cache.settings.limits)
  streams : ∀ entry ∈ s.streams, s.ways[entry.2.handle.link]? = some (cache.wayOf entry.1)

variable {cache : Shared} {s : State} {handle : Handle} {way : Link.Way}

/-! ### Links -/

private theorem ways_set {s : State} {number : Nat} {link : Link}
    (same : link.way = (s.links[number]?.getD .unshared).way) :
    (s.links.set number link).map Link.way = s.ways := by
  refine List.ext_getElem? fun i => ?_
  rw [ways, List.map_set, List.getElem?_set, List.getElem?_map]
  split
  · rename_i here
    subst here
    split
    · rename_i within
      have within : number < s.links.length := by simpa using within
      rw [List.getElem?_eq_getElem within, Option.getD_some] at same
      rw [same, List.getElem?_eq_getElem within]
      rfl
    · rename_i beyond
      have beyond : s.links.length ≤ number := by simpa using beyond
      rw [List.getElem?_eq_none beyond]
      rfl
  · rfl

theorem ways_perform (s : State) (handle : Handle) (call : Cache.Call) :
    (s.perform handle call).2.ways = s.ways :=
  ways_set (Link.way_after _ _ _)

theorem ways_lookedThrough (s : State) (stream : Stream) :
    (s.lookedThrough stream).ways = s.ways := by
  unfold lookedThrough
  simp only
  split
  · exact ways_set (Link.way_after _ _ _)
  · rfl

theorem way_of_link (leads : s.ways[handle.link]? = some way) : (s.link handle).way = way := by
  rw [ways, List.getElem?_map] at leads
  obtain ⟨link, there, rfl⟩ := Option.map_eq_some_iff.mp leads
  rw [State.link, there, Option.getD_some]

theorem connection_of_way (leads : s.ways[handle.link]? = some cache.way) :
    (s.connection handle).toRights = {} ∧
      (s.connection handle).database = s.disk.databaseAt cache.place := by
  have there := way_of_link leads
  refine ⟨congrArg Link.Way.rights there, ?_⟩
  have filed := Link.location_of_way (congrArg Link.Way.place there)
  simp only [State.connection, Link.connection, Link.database, filed]

theorem disk_perform_of_way (leads : s.ways[handle.link]? = some cache.way) (call : Cache.Call) :
    (s.perform handle call).2.disk =
      s.disk.setDatabase cache.place (call.perform (s.connection handle)).2.database := by
  have filed := Link.location_of_way (congrArg Link.Way.place (way_of_link leads))
  show ((s.link handle).after _ s.disk).2 = _
  rw [Link.after, filed]
  rfl

theorem disk_perform_of_private (leads : s.ways[handle.link]? = some privateWay)
    (call : Cache.Call) : (s.perform handle call).2.disk = s.disk := by
  obtain ⟨db, held⟩ := Link.held_of_way (congrArg Link.Way.place (way_of_link leads))
  show ((s.link handle).after _ s.disk).2 = _
  rw [Link.after, held]

theorem connect_ways {link : Link} (name : String) (limits : Limits)
    (shared : ∀ other ∈ s.links, link.pool.isSome = true → other.pool = link.pool →
      other.way = link.way) :
    ∃ number, (s.connect name link limits).handles =
        s.handles.give name ⟨s.connections, number, limits⟩ ∧
      (s.connect name link limits).ways[number]? = some link.way ∧
      s.ways <+: (s.connect name link limits).ways ∧
      ∀ way ∈ (s.connect name link limits).ways, way ∈ s.ways ∨ way = link.way := by
  refine ⟨s.numberFor link, rfl, ?_⟩
  unfold connect
  simp only [ways]
  by_cases within : s.numberFor link < s.links.length
  · -- The link has joined a pool, and takes the place of the link that it has joined.
    rw [if_pos within]
    have joins : link.way = (s.links[s.numberFor link]?.getD .unshared).way := by
      unfold numberFor at within ⊢
      simp only at within ⊢
      cases search : (s.links.zipIdx.filter fun entry => s.inUse entry.2).find?
          (fun entry => link.pool.isSome && entry.1.pool == link.pool) with
      | none =>
        rw [search] at within
        exact absurd within (Nat.lt_irrefl _)
      | some joined =>
        have chosen := List.find?_some search
        simp only [Bool.and_eq_true, beq_iff_eq] at chosen
        have member := (List.mem_filter.mp (List.mem_of_find?_eq_some search)).1
        have there := List.mem_zipIdx_iff_getElem?.mp member
        rw [Option.map_some, Option.getD_some, there, Option.getD_some]
        exact (shared joined.1 (List.mem_of_getElem? there) chosen.1 chosen.2).symm
    rw [ways_set joins, ways, List.getElem?_map, List.getElem?_eq_getElem within]
    rw [List.getElem?_eq_getElem within, Option.getD_some] at joins
    exact ⟨congrArg some joins.symm, List.prefix_refl _, fun _ member => .inl member⟩
  · rw [if_neg within]
    have last : s.numberFor link = s.links.length := by
      refine Nat.le_antisymm ?_ (Nat.le_of_not_lt within)
      unfold numberFor
      simp only
      cases search : (s.links.zipIdx.filter fun entry => s.inUse entry.2).find?
          (fun entry => link.pool.isSome && entry.1.pool == link.pool) with
      | none => exact Nat.le_refl _
      | some joined =>
        have member := (List.mem_filter.mp (List.mem_of_find?_eq_some search)).1
        exact Nat.le_of_lt (List.snd_lt_of_mem_zipIdx member)
    rw [List.map_append, last]
    refine ⟨by simp, List.prefix_append _ _, fun way member => ?_⟩
    exact (List.mem_append.mp member).imp id fun new => List.mem_singleton.mp new

/-! ### Names -/

namespace Arranged

theorem of_same (arranged : s.Arranged cache) {after : State} (ways : after.ways = s.ways)
    (handles : after.handles = s.handles) (streams : after.streams = s.streams) :
    after.Arranged cache :=
  ⟨ways ▸ arranged.links, ways ▸ handles ▸ arranged.handles, ways ▸ streams ▸ arranged.streams⟩

theorem handle_leads (arranged : s.Arranged cache) {name : String} {handle : Handle}
    (named : s.handles.lookup name = some handle) :
    s.ways[handle.link]? = some (cache.wayOf name) ∧
      (cache.isOn name = true → handle.limits = cache.settings.limits) :=
  arranged.handles _ (Named.mem_of_lookup named)

theorem stream_leads (arranged : s.Arranged cache) {name : String} {stream : Stream}
    (named : s.streams.lookup name = some stream) :
    s.ways[stream.handle.link]? = some (cache.wayOf name) :=
  arranged.streams _ (Named.mem_of_lookup named)

theorem giveHandle (arranged : s.Arranged cache) {name : String} {handle : Handle}
    (leads : s.ways[handle.link]? = some (cache.wayOf name))
    (limits : cache.isOn name = true → handle.limits = cache.settings.limits) :
    ({ s with handles := s.handles.give name handle } : State).Arranged cache :=
  ⟨arranged.links, fun entry member => by
    rcases Named.mem_give member with rfl | old
    · exact ⟨leads, limits⟩
    · exact arranged.handles entry old, arranged.streams⟩

theorem forgetHandle (arranged : s.Arranged cache) (name : String) :
    ({ s with handles := s.handles.forget name } : State).Arranged cache :=
  ⟨arranged.links, fun entry member => arranged.handles entry (Named.mem_forget member),
    arranged.streams⟩

theorem giveStream (arranged : s.Arranged cache) {name : String} {stream : Stream}
    (leads : s.ways[stream.handle.link]? = some (cache.wayOf name)) :
    ({ s with streams := s.streams.give name stream } : State).Arranged cache :=
  ⟨arranged.links, arranged.handles, fun entry member => by
    rcases Named.mem_give member with rfl | old
    · exact leads
    · exact arranged.streams entry old⟩

theorem forgetStream (arranged : s.Arranged cache) (name : String) :
    ({ s with streams := s.streams.forget name } : State).Arranged cache :=
  ⟨arranged.links, arranged.handles,
    fun entry member => arranged.streams entry (Named.mem_forget member)⟩

theorem lookedThrough (arranged : s.Arranged cache) (stream : Stream) :
    (s.lookedThrough stream).Arranged cache :=
  arranged.of_same (ways_lookedThrough s stream) (handles_lookedThrough s stream)
    (streams_lookedThrough s stream)

theorem pooled (arranged : s.Arranged cache) {other : Link} (member : other ∈ s.links)
    (pooled : cache.pool.isSome = true) (same : other.pool = cache.pool) :
    other.way = cache.way := by
  rcases arranged.links other.way (List.mem_map_of_mem member) with on | apart
  · exact on
  · have none : other.pool = none := congrArg Link.Way.pool apart
    rw [← same, none] at pooled
    cases pooled

theorem connect (arranged : s.Arranged cache) {name : String} {link : Link} {limits : Limits}
    (leads : link.way = cache.wayOf name)
    (same : cache.isOn name = true → limits = cache.settings.limits) :
    (s.connect name link limits).Arranged cache := by
  have shared : ∀ other ∈ s.links, link.pool.isSome = true → other.pool = link.pool →
      other.way = link.way := by
    intro other member isPool here
    have pool : link.pool = (cache.wayOf name).pool := congrArg Link.Way.pool leads
    unfold Shared.wayOf at pool leads
    split at pool
    · rename_i on
      rw [if_pos on] at leads
      rw [leads]
      have joined : link.pool = cache.pool := pool
      exact arranged.pooled member (joined ▸ isPool) (here.trans joined)
    · rw [pool] at isPool
      cases isPool
  obtain ⟨number, handles, there, begins, known⟩ := connect_ways name limits shared
  have kept {i : Nat} {way : Link.Way} (old : s.ways[i]? = some way) :
      (s.connect name link limits).ways[i]? = some way := by
    obtain ⟨rest, all⟩ := begins
    obtain ⟨within, -⟩ := List.getElem?_eq_some_iff.mp old
    rw [← all, List.getElem?_append_left within, old]
  refine ⟨fun way member => ?_, fun entry member => ?_, fun entry member => ?_⟩
  · rcases known way member with old | rfl
    · exact arranged.links way old
    · rw [leads, Shared.wayOf]
      split
      · exact .inl rfl
      · exact .inr rfl
  · rw [handles] at member
    rcases Named.mem_give member with rfl | old
    · exact ⟨there.trans (congrArg some leads), same⟩
    · exact ⟨kept (arranged.handles entry old).1, (arranged.handles entry old).2⟩
  · exact kept (arranged.streams entry member)

end Arranged

/-! ### The file -/

/-- The file of the cache is where it was found on a disk, and holds a sound database in use. -/
structure Serving (cache : Shared) (found : Disk) (s : State) : Prop where
  tree : found.SameTree s.disk
  inUse : s.disk.InUse cache.place (s.disk.databaseAt cache.place)
  sound : (s.disk.databaseAt cache.place).Sound

variable {found : Disk}

theorem Serving.of_disk (serving : s.Serving cache found) {after : State}
    (same : after.disk = s.disk) : after.Serving cache found := by
  obtain ⟨tree, inUse, sound⟩ := serving
  rw [← same] at tree inUse sound
  exact ⟨tree, inUse, sound⟩

private theorem inUse_settleUnused {disk : Disk} {place : Files.Place} {db : Database}
    (inUse : disk.InUse place db) (links : List Link) :
    (disk.settleUnused links).InUse place db := by
  refine ⟨?_, inUse.free, inUse.logged, inUse.recorded⟩
  refine Disk.settleUnused_induction
    (Q := fun disk => ∃ settled, disk.node? place = some (.file (.database db settled)))
    inUse.there (fun disk other there => ?_) links
  obtain ⟨settled, there⟩ := there
  unfold Disk.settle
  split
  · rename_i db' settled' other_there
    rw [Disk.node?_set]
    split
    · rename_i here
      rw [← here.1, there] at other_there
      cases other_there
      exact ⟨_, rfl⟩
    · exact ⟨settled, there⟩
  · exact ⟨settled, there⟩

private theorem sameTree_settleUnused (disk : Disk) (links : List Link) :
    disk.SameTree (disk.settleUnused links) := by
  refine Disk.settleUnused_induction (Q := disk.SameTree) ⟨rfl, fun _ => rfl⟩
    (fun middle place same => ?_) links
  unfold Disk.settle
  split
  · rename_i there
    exact same.trans (Disk.sameTree_set there _)
  · exact same

theorem databaseAt_settle (s : State) (place : Files.Place) :
    s.settle.disk.databaseAt place = s.disk.databaseAt place :=
  Disk.sameDatabases_settleUnused s.disk s.usedLinks place

theorem Serving.settle (serving : s.Serving cache found) : s.settle.Serving cache found := by
  obtain ⟨tree, inUse, sound⟩ := serving
  refine ⟨tree.trans (sameTree_settleUnused _ _), ?_, ?_⟩
  · rw [databaseAt_settle]
    exact inUse_settleUnused inUse _
  · rw [databaseAt_settle]
    exact sound

private theorem metadata_perform (call : Cache.Call) (c : Connection) :
    (call.perform c).2.database.metadata = c.database.metadata := by
  rw [Cache.perform_effect]
  unfold Cache.Entry.effect
  split
  · cases call.operation <;> rfl
  · rfl

theorem Serving.databaseAt_perform (serving : s.Serving cache found)
    (leads : s.ways[handle.link]? = some cache.way) (call : Cache.Call) :
    (s.perform handle call).2.disk.databaseAt cache.place =
      (call.perform (s.connection handle)).2.database := by
  obtain ⟨settled, there⟩ := serving.inUse.there
  rw [disk_perform_of_way leads, Files.databaseAt_setDatabase there]

theorem Serving.perform (serving : s.Serving cache found) {call : Cache.Call}
    (clock : Calendar.representable call.now = true)
    (leads : s.ways[handle.link]? = some cache.way) :
    (s.perform handle call).2.Serving cache found := by
  have kept := serving.databaseAt_perform leads call
  obtain ⟨tree, inUse, sound⟩ := serving
  obtain ⟨settled, there⟩ := inUse.there
  obtain ⟨-, here⟩ := connection_of_way leads
  have disk := disk_perform_of_way leads call
  have sound' : (call.perform (s.connection handle)).2.database.Sound :=
    Cache.sound_perform clock (by rw [here]; exact sound)
  refine ⟨?_, ?_, kept ▸ sound'⟩
  · rw [disk]
    exact tree.trans (Disk.sameTree_set there _)
  · rw [kept]
    refine ⟨?_, sound'.unlocked, ?_, ?_⟩
    · rw [disk]
      exact ⟨_, Disk.node?_set_of_file there _⟩
    · rw [(Cache.access_perform call (s.connection handle)).logged, here, inUse.logged]
    · rw [metadata_perform, here, inUse.recorded]

end State

end ChainStore.Session
