import ChainStore.Proofs.Files.Databases

set_option autoImplicit false
set_option relaxedAutoImplicit false

/-!
Opening caches keeps what is true of every database: the one that is opened is prepared, which the
property outlasts, and no other is touched.
-/

namespace ChainStore.Files

open Storage (Database Connection Fault)

variable {P : Database → Prop}

theorem Address.link_ok {address : Address} {path : String} {pools : List Link}
    {disk after : Disk} {link : Link} (linked : address.link path pools disk = .ok (link, after)) :
    (link ∈ pools ∧ after = disk) ∨
    (after = disk ∧ link =
      { Link.unshared with readOnly := address.readOnly, pool := address.pool? disk }) ∨
    address.inMemory = false ∧ ∃ place, address.place? disk = some place ∧
      address.permissionsOf.map disk.nodeAt? ≠ some none ∧
      disk.openFile path address.access place = .ok after ∧
      link = ⟨⟨address.readOnly, address.heedsLocks⟩, .file place, [], address.pool? disk⟩ := by
  unfold Address.link at linked
  simp only at linked
  split at linked
  · split at linked
    · rename_i joined
      cases linked
      exact .inl ⟨List.mem_of_find?_eq_some joined, rfl⟩
    · cases linked
      exact .inr (.inl ⟨rfl, rfl⟩)
  · rename_i filing
    split at linked
    · simp at linked
    · rename_i place found
      split at linked
      · rename_i joined
        cases linked
        exact .inl ⟨List.mem_of_find?_eq_some joined, rfl⟩
      · split at linked
        · simp at linked
        · rename_i permitted
          split at linked
          · simp at linked
          · rename_i opened
            cases linked
            exact .inr (.inr ⟨by simpa using filing, place, found, permitted, opened, rfl⟩)

theorem openLink_ok {path : String} {pools : List Link} {disk after : Disk} {link : Link}
    {address : Address} (opened : openLink path pools disk = .ok (address, link, after)) :
    hasNul path = false ∧ Address.ofText path = .ok address ∧
      address.link path pools disk = .ok (link, after) := by
  unfold openLink at opened
  split at opened
  · simp at opened
  · rename_i clean
    split at opened
    · simp at opened
    · rename_i parsed
      split at opened
      · simp at opened
      · rename_i linked
        cases opened
        exact ⟨by simpa using clean, parsed, linked⟩

theorem has_openLink {path : String} {pools : List Link} {disk after : Disk} {link : Link}
    {address : Address} (lasting : Lasting P) (each : ∀ link ∈ pools, link.Has P)
    (around : disk.Has P) (opened : openLink path pools disk = .ok (address, link, after)) :
    link.Has P ∧ after.Has P := by
  obtain ⟨-, -, linked⟩ := openLink_ok opened
  rcases Address.link_ok linked with ⟨joined, rfl⟩ | ⟨rfl, rfl⟩ | ⟨-, place, -, -, file, rfl⟩
  · exact ⟨each link joined, around⟩
  · exact ⟨has_unshared lasting, around⟩
  · refine ⟨?_, around.openFile file⟩
    intro db held
    simp at held

theorem has_makeParents {disk : Disk} (around : disk.Has P) (path : String) :
    (makeParents path disk).2.Has P := by
  unfold makeParents
  split
  · exact around
  · split
    · exact around
    · have made := around.makeAll (parentElements path)
      split <;> simp_all

theorem has_startLog {address : Address} {link begun : Link} {pools : List Link}
    {disk after : Disk} (lasting : Lasting P) (has : link.Has P) (around : disk.Has P)
    (started : startLog address link pools disk = .ok (begun, after)) :
    begun.Has P ∧ after.Has P := by
  unfold startLog at started
  split at started
  · cases started
    exact ⟨has, around⟩
  · exact has.start lasting around started

theorem prepared_makeReady (lasting : Lasting P) (settings : Settings) (c : Connection)
    (good : P c.database) : P (makeReady settings c).2.database := by
  unfold makeReady
  split
  · exact good
  · exact lasting.prepared c good

theorem Link.Has.makeReady {link : Link} {disk : Disk} (lasting : Lasting P) (has : link.Has P)
    (around : disk.Has P) (settings : Settings) :
    (link.makeReady settings disk).2.Has P ∧
      ∀ ready, (link.makeReady settings disk).1 = .ok ready → ready.Has P := by
  have good := prepared_makeReady lasting settings (link.connection disk)
    (has.database lasting around)
  unfold Link.makeReady
  split
  · rename_i u c prepared
    rw [prepared] at good
    obtain ⟨linked, filed⟩ := link.has_after lasting around good
    refine ⟨filed, ?_⟩
    intro ready same
    cases same
    exact linked
  · rename_i e c prepared
    rw [prepared] at good
    refine ⟨(link.has_after lasting around good).2, ?_⟩
    intro ready same
    simp at same

def Finds (path : String) (pools : List Link) (disk : Disk) (address : Address) (link : Link)
    (found : Disk) : Prop :=
  ∃ made, makeParents path disk = (.ok (), made) ∧
    openLink path pools made = .ok (address, link, found)

/-- How the opening of a cache can end, each way with what must have come before it. -/
inductive OpenOutcome (settings : Settings) (pools : List Link) (disk : Disk) :
    Except Failure Link × Disk → Prop where
  | unparented {e : Error} {made : Disk} :
    makeParents settings.file.path disk = (.error e, made) →
    OpenOutcome settings pools disk (.error (.error e), made)
  | unlinked {fault : Fault} {made : Disk} :
    makeParents settings.file.path disk = (.ok (), made) →
    openLink settings.file.path pools made = .error fault →
    OpenOutcome settings pools disk
      (.error (.error (.storage (.openingDatabase settings.file.path) fault)), made)
  | impatient {address : Address} {link : Link} {found : Disk} :
    Finds settings.file.path pools disk address link found →
    maxTimeoutMs < settings.file.busyTimeoutMs.toNat →
    OpenOutcome settings pools disk (.error .crash, found)
  | unlogged {address : Address} {link : Link} {found : Disk} {fault : Fault} :
    Finds settings.file.path pools disk address link found →
    ¬ maxTimeoutMs < settings.file.busyTimeoutMs.toNat →
    startLog address link pools found = .error fault →
    OpenOutcome settings pools disk (.error (.error (.storage .enablingJournal fault)), found)
  | unready {address : Address} {link begun : Link} {found logged after : Disk} {e : Error} :
    Finds settings.file.path pools disk address link found →
    ¬ maxTimeoutMs < settings.file.busyTimeoutMs.toNat →
    startLog address link pools found = .ok (begun, logged) →
    begun.makeReady settings logged = (.error e, after) →
    OpenOutcome settings pools disk (.error (.error e), after)
  | opened {address : Address} {link begun ready : Link} {found logged after : Disk} :
    Finds settings.file.path pools disk address link found →
    ¬ maxTimeoutMs < settings.file.busyTimeoutMs.toNat →
    startLog address link pools found = .ok (begun, logged) →
    begun.makeReady settings logged = (.ok ready, after) →
    OpenOutcome settings pools disk (.ok ready, after)

theorem outcome_openCache (settings : Settings) (pools : List Link) (disk : Disk) :
    OpenOutcome settings pools disk (openCache settings pools disk) := by
  unfold openCache
  simp only
  split
  · rename_i e made blocked
    exact .unparented blocked
  · rename_i u made parents
    split
    · rename_i fault failed
      exact .unlinked parents failed
    · rename_i address link found linked
      have finds : Finds settings.file.path pools disk address link found := ⟨made, parents, linked⟩
      split
      · rename_i long
        exact .impatient finds long
      · rename_i short
        split
        · rename_i fault failed
          exact .unlogged finds short failed
        · rename_i begun logged started
          split
          · rename_i ready after made
            exact .opened finds short started made
          · rename_i e after refused
            exact .unready finds short started refused

theorem has_finds {path : String} {pools : List Link} {disk found : Disk} {address : Address}
    {link : Link} (lasting : Lasting P) (each : ∀ link ∈ pools, link.Has P) (around : disk.Has P)
    (finds : Finds path pools disk address link found) : link.Has P ∧ found.Has P := by
  obtain ⟨made, parents, linked⟩ := finds
  have above := has_makeParents around path
  rw [parents] at above
  exact has_openLink lasting each above linked

theorem has_openCache (settings : Settings) {pools : List Link} {disk : Disk}
    (lasting : Lasting P) (each : ∀ link ∈ pools, link.Has P) (around : disk.Has P) :
    (openCache settings pools disk).2.Has P ∧
      ∀ link, (openCache settings pools disk).1 = .ok link → link.Has P := by
  have parents := has_makeParents around settings.file.path
  have outcome := outcome_openCache settings pools disk
  generalize openCache settings pools disk = result at outcome ⊢
  cases outcome with
  | unparented blocked =>
    rw [blocked] at parents
    exact ⟨parents, by simp⟩
  | unlinked made failed =>
    rw [made] at parents
    exact ⟨parents, by simp⟩
  | impatient finds long => exact ⟨(has_finds lasting each around finds).2, by simp⟩
  | unlogged finds short failed => exact ⟨(has_finds lasting each around finds).2, by simp⟩
  | unready finds short started refused =>
    obtain ⟨has, around⟩ := has_finds lasting each around finds
    obtain ⟨has, around⟩ := has_startLog lasting has around started
    have final := (has.makeReady lasting around settings).1
    rw [refused] at final
    exact ⟨final, by simp⟩
  | opened finds short started made =>
    obtain ⟨has, around⟩ := has_finds lasting each around finds
    obtain ⟨has, around⟩ := has_startLog lasting has around started
    obtain ⟨final, ready⟩ := has.makeReady lasting around settings
    rw [made] at final ready
    refine ⟨final, fun other opened => ?_⟩
    cases opened
    exact ready _ rfl

theorem valid_of_makeReady {settings : Settings} {link ready : Link} {disk after : Disk}
    (made : link.makeReady settings disk = (.ok ready, after)) : settings.validate = .ok () := by
  cases valid : settings.validate with
  | ok _ => rfl
  | error e => simp [Link.makeReady, Files.makeReady, valid] at made

theorem valid_of_openCache {settings : Settings} {pools : List Link} {disk after : Disk}
    {link : Link} (opened : openCache settings pools disk = (.ok link, after)) :
    settings.validate = .ok () := by
  have outcome := outcome_openCache settings pools disk
  rw [opened] at outcome
  cases outcome with
  | opened finds short started made => exact valid_of_makeReady made

end ChainStore.Files
