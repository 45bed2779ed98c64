import ChainStore.Proofs.Session.Sharing

set_option autoImplicit false
set_option relaxedAutoImplicit false

/-!
A session that hosts a cache in a file goes on hosting it, whatever is done with the handles on it
and with private caches. Every opening of the cache succeeds and changes nothing in the file.
-/

namespace ChainStore.Session

open Files (Disk Link)

structure Shared.Found (cache : Shared) (found : Disk) : Prop where
  valid : cache.settings.validate = .ok ()
  leads : ∃ pools disk address link, link.pool = cache.pool ∧
    Files.Leads cache.settings.file.path pools disk found address link cache.place
  holds : ∃ content, found.node? cache.place = some (.file content)

theorem validate_congr {settings other : Settings} (path : other.file.path = settings.file.path)
    (limits : other.limits = settings.limits) : other.validate = settings.validate := by
  simp only [Settings.validate, path, limits]

namespace State

/-- All names lead where they are meant to, and the file of the cache is as it has to be. -/
structure Hosts (cache : Shared) (found : Disk) (s : State) : Prop where
  arranged : s.Arranged cache
  serving : s.Serving cache found

variable {cache : Shared} {found : Disk} {s : State}

theorem mem_links_of_mem_pools {link : Link} (member : link ∈ s.pools) : link ∈ s.links := by
  obtain ⟨entry, used, rfl⟩ := List.mem_map.mp (List.mem_filter.mp member).1
  exact List.fst_mem_of_mem_zipIdx (List.mem_filter.mp used).1

theorem nextMany_handle (s : State) (count : Nat) (stream : Stream) :
    (s.nextMany count stream).2.handle = stream.handle := by
  induction count generalizing stream with
  | zero => rfl
  | succ count ih => exact ih (s.next stream).2

namespace Hosts

theorem openCache (hosts : s.Hosts cache found) (known : cache.Found found) {name : String}
    {settings : Settings} (keeps : (Act.command (.openFile name settings)).keepsTo cache = true) :
    cache.isOn name = true ∧ ∃ opened : Link, opened.way = cache.way ∧
      s.openCache name settings = (.ok (), s.connect name opened cache.settings.limits) := by
  simp only [Act.keepsTo, Bool.and_eq_true, beq_iff_eq, decide_eq_true_eq] at keeps
  obtain ⟨⟨⟨on, path⟩, limits⟩, patient⟩ := keeps
  obtain ⟨pools, disk, address, link, pool, leads⟩ := known.leads
  obtain ⟨content, holds⟩ := known.holds
  have leading : link.way = cache.way := by
    rw [Files.way_of_leads leads, pool]
    rfl
  have shared : ∀ other ∈ s.pools, link.pool.isSome = true → other.pool = link.pool →
      other.way = link.way := by
    intro other member isPool joins
    rw [leading]
    exact hosts.arranged.pooled (mem_links_of_mem_pools member) (pool ▸ isPool) (joins.trans pool)
  obtain ⟨opened, answered, way⟩ := Files.openCache_inUse
    ((validate_congr path limits).trans known.valid) patient (path ▸ leads) holds
    hosts.serving.tree hosts.serving.inUse shared
  refine ⟨on, opened, way.trans leading, ?_⟩
  simp only [State.openCache, answered, limits]

theorem settle (hosts : s.Hosts cache found) : s.settle.Hosts cache found :=
  ⟨hosts.arranged.of_same rfl rfl rfl, hosts.serving.settle⟩

theorem perform (hosts : s.Hosts cache found) {name : String} {handle : Handle} {call : Cache.Call}
    (clock : Calendar.representable call.now = true)
    (named : s.handles.lookup name = some handle) :
    (s.perform handle call).2.Hosts cache found := by
  obtain ⟨leads, -⟩ := hosts.arranged.handle_leads named
  refine ⟨hosts.arranged.of_same (ways_perform s handle call) rfl rfl, ?_⟩
  unfold Shared.wayOf at leads
  split at leads
  · exact hosts.serving.perform clock leads
  · exact hosts.serving.of_disk (disk_perform_of_private leads call)

private theorem lookedThrough (hosts : s.Hosts cache found) (stream : Stream) :
    (s.lookedThrough stream).Hosts cache found :=
  ⟨hosts.arranged.lookedThrough stream, hosts.serving.of_disk (disk_lookedThrough s stream)⟩

private theorem giveStream (hosts : s.Hosts cache found) {name : String} {stream : Stream}
    (leads : s.ways[stream.handle.link]? = some (cache.wayOf name)) :
    ({ s with streams := s.streams.give name stream } : State).Hosts cache found :=
  ⟨hosts.arranged.giveStream leads, hosts.serving.of_disk rfl⟩

private theorem ask (hosts : s.Hosts cache found) (name : String) (ahead : Nat) :
    (s.ask name ahead).2.Hosts cache found := by
  unfold State.ask withStream
  split
  · exact hosts
  · rename_i stream named
    have leads := hosts.arranged.stream_leads named
    rw [← ways_lookedThrough s stream] at leads
    exact (hosts.lookedThrough stream).giveStream leads

private theorem openInMemory (hosts : s.Hosts cache found) {name : String}
    (apart : cache.isOn name = false) (settings : Settings) :
    (s.openInMemory name settings).2.Hosts cache found := by
  unfold State.openInMemory
  split
  · exact hosts
  · rename_i link opened
    have way : link.way = privateWay := by
      unfold Files.openInMemory Link.makeReady at opened
      split at opened
      · rename_i c ready
        have made : (Link.unshared.after c s.disk).1 = link := Except.ok.inj opened
        rw [← made, Link.way_after]
        rfl
      · cases opened
    refine ⟨hosts.arranged.connect (way.trans (Shared.wayOf_off apart).symm) fun on => ?_,
      hosts.serving.of_disk rfl⟩
    rw [apart] at on
    cases on

private theorem carryOut (hosts : s.Hosts cache found) (known : cache.Found found) {now : Int}
    (clock : Calendar.representable now = true) {command : Command}
    (keeps : (Act.command command).keepsTo cache = true) :
    (s.carryOut now command).2.Hosts cache found := by
  cases command with
  | openFile name settings =>
    obtain ⟨on, opened, way, answered⟩ := hosts.openCache known keeps
    simp only [State.carryOut, answered]
    exact ⟨hosts.arranged.connect (way.trans (Shared.wayOf_on on).symm) fun _ => rfl,
      hosts.serving.of_disk rfl⟩
  | openMemory name settings =>
    exact hosts.openInMemory (by simpa [Act.keepsTo] using keeps) settings
  | copy name newName =>
    simp only [State.carryOut, withHandle]
    split
    · exact hosts
    · rename_i handle named
      have alike : cache.isOn name = cache.isOn newName := by simpa [Act.keepsTo] using keeps
      obtain ⟨leads, limits⟩ := hosts.arranged.handle_leads named
      rw [Shared.wayOf, alike] at leads
      rw [alike] at limits
      exact ⟨hosts.arranged.giveHandle leads limits, hosts.serving.of_disk rfl⟩
  | close name => exact ⟨hosts.arranged.forgetHandle name, hosts.serving.of_disk rfl⟩
  | limits name | describe name =>
    simp only [State.carryOut, withHandle]
    split <;> exact hosts
  | fire token => exact ⟨hosts.arranged.of_same rfl rfl rfl, hosts.serving.of_disk rfl⟩
  | call name token operation =>
    simp only [State.carryOut, withHandle]
    split
    · exact hosts
    · rename_i handle named
      exact hosts.perform clock named
  | streamOpen name stream token first last =>
    simp only [State.carryOut, withHandle]
    split
    · exact hosts
    · rename_i handle named
      have alike : cache.isOn name = cache.isOn stream := by simpa [Act.keepsTo] using keeps
      obtain ⟨leads, -⟩ := hosts.arranged.handle_leads named
      rw [Shared.wayOf, alike] at leads
      unfold State.streamOpen
      split
      · exact hosts.giveStream leads
      · exact hosts
      · exact hosts
  | streamNext name count =>
    simp only [State.carryOut, withStream]
    split
    · exact hosts
    · rename_i stream named
      have leads := hosts.arranged.stream_leads named
      rw [← nextMany_handle s count stream] at leads
      split
      · exact hosts.giveStream leads
      · rw [← ways_lookedThrough s stream] at leads
        exact (hosts.lookedThrough stream).giveStream leads
  | streamCollect name =>
    simp only [State.carryOut, withStream]
    split
    · exact hosts
    · rename_i stream named
      exact ⟨((hosts.lookedThrough stream).arranged.forgetStream name).of_same rfl rfl
        (by rw [streams_lookedThrough]), (hosts.lookedThrough stream).serving.of_disk rfl⟩
  | streamDrop name => exact ⟨hosts.arranged.forgetStream name, hosts.serving.of_disk rfl⟩
  | streamKill name =>
    simp only [State.carryOut, withStream]
    split
    · exact hosts
    · rename_i stream named
      have leads := hosts.arranged.stream_leads named
      exact hosts.giveStream leads
  | openConfigured _ _ | writeFile _ _ | makeDirectory _ | pathKind _ | commandLine _
  | interfere _ _ | unlock _ | dump _ => cases keeps

/-- Whatever happens in keeping with the cache, the session goes on hosting it. -/
theorem act (hosts : s.Hosts cache found) (known : cache.Found found) {now : Int}
    (clock : Calendar.representable now = true) {act : Act} (keeps : act.keepsTo cache = true) :
    (s.act now act).2.Hosts cache found := by
  cases act with
  | ask name ahead => exact (hosts.ask name ahead).settle
  | command command => exact (hosts.carryOut known clock keeps).settle

end Hosts

end State

end ChainStore.Session
