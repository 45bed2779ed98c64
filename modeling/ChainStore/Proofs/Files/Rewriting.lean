import ChainStore.Proofs.Files.Reopening

set_option autoImplicit false
set_option relaxedAutoImplicit false

/-!
Two disks that differ in what is written in some files, which hold one text on the one disk and
another on the other, neither of them a database. No cache can be opened in such a file, and what is
done to open one elsewhere is the same on both disks.
-/

namespace ChainStore.Files

open Storage (Connection Database Fault)

/-! ### Paths on one tree -/

namespace Disk

variable {disk other : Disk}

theorem SameTree.cases (same : disk.SameTree other) (place : Place) :
    (disk.node? place = none ∧ other.node? place = none) ∨
    (disk.node? place = some .directory ∧ other.node? place = some .directory) ∨
    ∃ content replaced, disk.node? place = some (.file content) ∧
      other.node? place = some (.file replaced) := by
  have kind := same.kept place
  unfold isFile? at kind
  rcases here : disk.node? place with _ | (_ | content) <;>
    rcases there : other.node? place with _ | (_ | replaced) <;>
      simp_all [Node.isFile]

theorem SameTree.walk (same : disk.SameTree other) (elements : List Name) (place : Place) :
    other.walk place elements = disk.walk place elements := by
  induction elements generalizing place with
  | nil => rfl
  | cons e rest ih =>
    rcases same.cases place with ⟨here, there⟩ | ⟨here, there⟩ | ⟨content, replaced, here, there⟩
    all_goals simp only [Disk.walk, here, there, ih]

theorem SameTree.isSome_node? (same : disk.SameTree other) (place : Place) :
    (other.node? place).isSome = (disk.node? place).isSome := by
  rcases same.cases place with ⟨here, there⟩ | ⟨here, there⟩ | ⟨content, replaced, here, there⟩
  all_goals rw [here, there]
  rfl

theorem SameTree.directory_iff (same : disk.SameTree other) (place : Place) :
    other.node? place = some .directory ↔ disk.node? place = some .directory := by
  rw [← isFile?_eq_false, ← isFile?_eq_false, same.kept place]

theorem SameTree.isDirectory (same : disk.SameTree other) (elements : List Name) :
    other.isDirectory elements = disk.isDirectory elements := by
  rw [Bool.eq_iff_iff, isDirectory_iff, isDirectory_iff, same.walk, same.home]
  simp only [same.directory_iff]

theorem SameTree.isSome_nodeAt? (same : disk.SameTree other) (path : String) :
    (other.nodeAt? path).isSome = (disk.nodeAt? path).isSome := by
  unfold Disk.nodeAt? nodeNamed? look?
  split
  · rfl
  · rw [same.walk, same.home]
    split
    · exact same.isSome_node? _
    · rfl

theorem SameTree.makeOne (same : disk.SameTree other) (parent : List Name) (name : Name) :
    (∃ place, disk.node? place = none ∧
      disk.makeOne parent name = .made (disk.set place .directory) ∧
      other.makeOne parent name = .made (other.set place .directory)) ∨
    (disk.makeOne parent name = .noParent ∧ other.makeOne parent name = .noParent) ∨
    ∃ fault, disk.makeOne parent name = .refused fault ∧
      other.makeOne parent name = .refused fault := by
  unfold Disk.makeOne
  rw [same.walk, same.home]
  split
  · exact .inr (.inr ⟨_, rfl, rfl⟩)
  · cases disk.walk disk.home parent with
    | error miss =>
      cases miss with
      | notFound => exact .inr (.inl ⟨rfl, rfl⟩)
      | notADirectory | nameTooLong => exact .inr (.inr ⟨_, rfl, rfl⟩)
    | ok place =>
      rcases same.cases place with
        ⟨here, there⟩ | ⟨here, there⟩ | ⟨content, replaced, here, there⟩
      · refine .inr (.inl ⟨?_, ?_⟩) <;> simp only [here, there]
      · simp only [here, there]
        rw [same.isSome_node?]
        split
        · exact .inr (.inr ⟨_, rfl, rfl⟩)
        · split
          · exact .inr (.inr ⟨_, rfl, rfl⟩)
          · split
            · exact .inr (.inr ⟨_, rfl, rfl⟩)
            · rename_i free
              exact .inl ⟨_, by simpa using free, rfl, rfl⟩
      · refine .inr (.inr ⟨.notADirectory, ?_, ?_⟩) <;> simp only [here, there]

/-! ### The same disk, but for what some files say -/

structure Rewriting where
  rewrites : Place → Prop
  before : List UInt8
  after : List UInt8

def Rewriting.ofTexts (rewrites : Place → Prop) (text text' : String) : Rewriting :=
  ⟨rewrites, text.toUTF8.data.toList, text'.toUTF8.data.toList⟩

/-- Neither text is that of a database. -/
structure Rewriting.Foreign (change : Rewriting) : Prop where
  before : (Content.bytes change.before).toDatabase = .error .notADatabase
  after : (Content.bytes change.after).toDatabase = .error .notADatabase

/-- Two disks that hold the same everywhere but in the files that are rewritten. -/
structure SameBut (change : Rewriting) (disk other : Disk) : Prop where
  home : other.home = disk.home
  one : ∀ place, change.rewrites place → disk.node? place = some (.file (.bytes change.before))
  another : ∀ place, change.rewrites place → other.node? place = some (.file (.bytes change.after))
  elsewhere : ∀ place, ¬ change.rewrites place → other.node? place = disk.node? place

/-- Two runs that answer the same and leave disks that differ in the rewritten files alone. -/
structure SameRun {α : Type} (change : Rewriting) (ran ran' : α × Disk) : Prop where
  answer : ran'.1 = ran.1
  left : SameBut change ran.2 ran'.2

variable {change : Rewriting}

theorem SameRun.cases {α : Type} {ran ran' : α × Disk} (same : SameRun change ran ran') :
    ∃ a disk other, ran = (a, disk) ∧ ran' = (a, other) ∧ SameBut change disk other :=
  ⟨ran.1, ran.2, ran'.2, rfl, Prod.ext same.answer rfl, same.left⟩

namespace SameBut

theorem tree (same : SameBut change disk other) : disk.SameTree other := by
  refine ⟨same.home, fun place => ?_⟩
  unfold isFile?
  by_cases here : change.rewrites place
  · rw [same.one place here, same.another place here]
    rfl
  · rw [same.elsewhere place here]

theorem of_free (same : SameBut change disk other) {place : Place}
    (free : disk.node? place = none) : ¬ change.rewrites place := by
  intro here
  rw [same.one place here] at free
  cases free

theorem set (same : SameBut change disk other) {place : Place} (apart : ¬ change.rewrites place)
    (node : Node) : SameBut change (disk.set place node) (other.set place node) where
  home := same.home
  one written here := by
    have away : written ≠ place := fun at_place => apart (at_place ▸ here)
    rw [node?_set, if_neg (away ∘ And.left)]
    exact same.one written here
  another written here := by
    have away : written ≠ place := fun at_place => apart (at_place ▸ here)
    rw [node?_set, if_neg (away ∘ And.left)]
    exact same.another written here
  elsewhere written here := by
    rw [node?_set, node?_set, same.elsewhere written here, same.home]

theorem setDatabase (same : SameBut change disk other) {place : Place}
    (apart : ¬ change.rewrites place) (db : Database) :
    SameBut change (disk.setDatabase place db) (other.setDatabase place db) := by
  have settled : other.settledAt place = disk.settledAt place := by
    rw [settledAt, settledAt, same.elsewhere place apart]
  rw [Disk.setDatabase, Disk.setDatabase, settled]
  exact same.set apart _

theorem makeAllUp (same : SameBut change disk other) (elements : List Name) :
    SameRun change (disk.makeAllUp elements) (other.makeAllUp elements) := by
  induction elements with
  | nil => exact ⟨rfl, same⟩
  | cons name above ih =>
    unfold Disk.makeAllUp
    rcases same.tree.makeOne above.reverse name with
      ⟨place, free, made, made'⟩ | ⟨lacking, lacking'⟩ | ⟨fault, refused, refused'⟩
    · rw [made, made']
      exact ⟨rfl, same.set (same.of_free free) _⟩
    · rw [lacking, lacking']
      simp only
      obtain ⟨result, middle, middle', ran, ran', upper⟩ := ih.cases
      rw [ran, ran']
      cases result with
      | error fault => exact ⟨rfl, upper⟩
      | ok u =>
        simp only
        rcases upper.tree.makeOne above.reverse name with
          ⟨place, free, made, made'⟩ | ⟨lacking, lacking'⟩ | ⟨fault, refused, refused'⟩
        · rw [made, made']
          exact ⟨rfl, upper.set (upper.of_free free) _⟩
        · rw [lacking, lacking']
          exact ⟨rfl, upper⟩
        · rw [refused, refused']
          simp only [upper.tree.isDirectory]
          split <;> exact ⟨rfl, upper⟩
    · rw [refused, refused']
      simp only [same.tree.isDirectory]
      split <;> exact ⟨rfl, same⟩

end SameBut

theorem sameBut_of_free {place : Place} (free : disk.node? place = none) (text text' : String) :
    SameBut (.ofTexts (· = place) text text')
      (disk.set place (.file (.bytes text.toUTF8.data.toList)))
      (disk.set place (.file (.bytes text'.toUTF8.data.toList))) where
  home := rfl
  one := by
    rintro _ rfl
    exact node?_set_of_free free _
  another := by
    rintro _ rfl
    exact node?_set_of_free free _
  elsewhere other away := by
    rw [node?_set, node?_set, if_neg fun here => away here.1, if_neg fun here => away here.1]

end Disk

theorem toDatabase_of_long {bytes : List UInt8} (long : 2 ≤ bytes.length) :
    (Content.bytes bytes).toDatabase = .error .notADatabase := by
  match bytes with
  | _ :: _ :: _ => rfl

/-! ### Opening on both disks -/

open Disk (Rewriting SameBut SameRun)

variable {disk other : Disk} {change : Rewriting}

/-- Two attempts that fail for the same reason, or succeed with related results. -/
def Alike {ε α : Type} (related : α → α → Prop) (one two : Except ε α) : Prop :=
  (∃ reason, one = .error reason ∧ two = .error reason) ∨
    ∃ a b, one = .ok a ∧ two = .ok b ∧ related a b

theorem alike_error {ε α : Type} {related : α → α → Prop} (reason : ε) :
    Alike related (.error reason) (.error reason) :=
  .inl ⟨reason, rfl, rfl⟩

theorem alike_ok {ε α : Type} {related : α → α → Prop} {a b : α} (both : related a b) :
    Alike (ε := ε) related (.ok a) (.ok b) :=
  .inr ⟨a, b, rfl, rfl, both⟩

theorem makeParents_same (same : SameBut change disk other) (path : String) :
    SameRun change (makeParents path disk) (makeParents path other) := by
  have made := same.makeAllUp (parentElements path).reverse
  unfold makeParents Disk.makeAll
  split
  · exact ⟨rfl, same⟩
  · split
    · exact ⟨rfl, same⟩
    · obtain ⟨result, after, after', ran, ran', left⟩ := made.cases
      rw [ran, ran']
      cases result <;> exact ⟨rfl, left⟩

theorem openFile_same (same : SameBut change disk other) (path : String) (access : Access)
    (place : Place) :
    Alike (SameBut change) (disk.openFile path access place)
      (other.openFile path access place) := by
  unfold Disk.openFile
  rcases same.tree.cases place with
    ⟨here, there⟩ | ⟨here, there⟩ | ⟨content, replaced, here, there⟩
  · simp only [here, there, same.tree.directory_iff]
    split
    · exact alike_ok (same.set (same.of_free here) _)
    · exact alike_error _
  · simp only [here, there]
    split <;> exact alike_error _
  · simp only [here, there]
    exact alike_ok same

theorem link_same (same : SameBut change disk other) (address : Address) (path : String) :
    Alike (SameRun change) (address.link path [] disk) (address.link path [] other) := by
  have placed : address.place? other = address.place? disk := by
    rw [Address.place?, Address.place?, same.tree.databasePlace?]
  have pooled : address.pool? other = address.pool? disk := by
    rw [Address.pool?, Address.pool?, placed]
  have permitted : address.permissionsOf.map other.nodeAt? = some none ↔
      address.permissionsOf.map disk.nodeAt? = some none := by
    cases address.permissionsOf with
    | none => simp
    | some model =>
      have found := same.tree.isSome_nodeAt? model
      cases one : disk.nodeAt? model <;> cases two : other.nodeAt? model <;> simp_all
  unfold Address.link
  simp only [placed, pooled, permitted, List.find?_nil]
  split
  · exact alike_ok ⟨rfl, same⟩
  · split
    · exact alike_error _
    · rename_i place found
      split
      · exact alike_error _
      · rcases openFile_same same path address.access place with
          ⟨fault, failed, failed'⟩ | ⟨found, found', opened, opened', still⟩
        · rw [failed, failed']
          exact alike_error _
        · rw [opened, opened']
          exact alike_ok ⟨rfl, still⟩

theorem openLink_same (same : SameBut change disk other) (path : String) :
    Alike (fun one two => two.1 = one.1 ∧ SameRun change one.2 two.2)
      (openLink path [] disk) (openLink path [] other) := by
  unfold openLink
  split
  · exact alike_error _
  · cases Address.ofText path with
    | error fault => exact alike_error _
    | ok address =>
      rcases link_same same address path with
        ⟨fault, failed, failed'⟩ | ⟨found, found', linked, linked', still⟩
      · simp only [failed, failed']
        exact alike_error _
      · simp only [linked, linked']
        exact alike_ok ⟨rfl, still⟩

def Link.Apart (link : Link) (change : Rewriting) : Prop :=
  ∀ place, link.location = .file place → ¬ change.rewrites place

variable {link : Link}

theorem Link.Apart.connection (apart : link.Apart change) (same : SameBut change disk other) :
    link.connection other = link.connection disk := by
  have here : link.database other = link.database disk := by
    unfold Link.database
    cases filed : link.location with
    | held db => rfl
    | file place =>
      simp only [Disk.databaseAt, same.elsewhere place (apart place filed)]
  rw [Link.connection, Link.connection, here]

theorem Link.Apart.after (apart : link.Apart change) (same : SameBut change disk other)
    (c : Storage.Connection) :
    SameRun change (link.after c disk) (link.after c other) ∧
      (link.after c disk).1.Apart change := by
  unfold Link.after
  cases filed : link.location with
  | held db => exact ⟨⟨rfl, same⟩, fun place held => nomatch held⟩
  | file place =>
    refine ⟨⟨rfl, same.setDatabase (apart place filed) _⟩, fun place' filed' => ?_⟩
    cases filed'
    exact apart place filed

theorem start_same (foreign : change.Foreign) (same : SameBut change disk other) (link : Link)
    (frozen : Bool) :
    Alike (fun one two => SameRun change one two ∧ one.1.Apart change)
      (link.start frozen disk) (link.start frozen other) := by
  unfold Link.start
  cases filed : link.location with
  | held db =>
    refine alike_ok ⟨⟨rfl, same⟩, fun place held => ?_⟩
    rw [filed] at held
    cases held
  | file place =>
    by_cases here : change.rewrites place
    · simp only [same.one place here, same.another place here, foreign.before, foreign.after]
      exact alike_error _
    · have apart : link.Apart change := by
        intro place' filed'
        cases filed.symm.trans filed'
        exact here
      simp only [same.elsewhere place here, apart.connection same]
      split
      · split
        · exact alike_error _
        · split
          · have settled : other.settledAt place = disk.settledAt place := by
              rw [Disk.settledAt, Disk.settledAt, same.elsewhere place here]
            have frozen : link.freeze other = link.freeze disk := by
              simp only [Link.freeze, filed, settled]
            rw [frozen]
            refine alike_ok ⟨⟨rfl, same⟩, fun place' filed' => ?_⟩
            simp only [Link.freeze, filed] at filed'
            cases filed'
          · split
            · split
              · exact alike_error _
              · exact alike_ok ⟨⟨rfl, same⟩, apart⟩
            · split
              · exact alike_error _
              · exact alike_ok ⟨⟨rfl, same.setDatabase here _⟩, apart⟩
      · exact alike_error _

theorem startLog_same (foreign : change.Foreign) (same : SameBut change disk other)
    (address : Address) (link : Link) :
    Alike (fun one two => SameRun change one two ∧ one.1.Apart change)
      (startLog address link [] disk) (startLog address link [] other) := by
  unfold startLog
  rw [if_neg (by simp), if_neg (by simp)]
  exact start_same foreign same link address.frozen

structure SameOpening {ε : Type} (change : Rewriting) (ran ran' : Except ε Link × Disk) : Prop
    extends SameRun change ran ran' where
  apart : ∀ link, ran.1 = .ok link → link.Apart change

theorem refused_same {ε : Type} (same : SameBut change disk other) (reason : ε) :
    SameOpening change (.error reason, disk) (.error reason, other) :=
  ⟨⟨rfl, same⟩, fun _ opened => nomatch opened⟩

theorem opened_same {ε : Type} (same : SameBut change disk other) (apart : link.Apart change) :
    SameOpening (ε := ε) change (.ok link, disk) (.ok link, other) := by
  refine ⟨⟨rfl, same⟩, fun found opened => ?_⟩
  cases opened
  exact apart

theorem Link.Apart.makeReady (apart : link.Apart change) (same : SameBut change disk other)
    (settings : Settings) :
    SameOpening change (link.makeReady settings disk) (link.makeReady settings other) := by
  unfold Link.makeReady
  rw [apart.connection same]
  split
  · rename_i u c ready
    obtain ⟨used, still⟩ := apart.after same c
    obtain ⟨begun, left, left', ran, ran', same⟩ := used.cases
    rw [ran] at still
    rw [ran, ran']
    exact opened_same same still
  · rename_i e c refused
    exact refused_same (apart.after same c).1.left e

/-- A process opens its first cache on both disks alike, and not in a file that is rewritten. -/
theorem openCache_same (foreign : change.Foreign) (same : SameBut change disk other)
    (settings : Settings) :
    SameOpening change (openCache settings [] disk) (openCache settings [] other) := by
  obtain ⟨result, made, made', ran, ran', same⟩ :=
    (makeParents_same same settings.file.path).cases
  unfold openCache
  simp only [ran, ran']
  cases result with
  | error e =>
    simp only
    exact refused_same same _
  | ok u =>
    rcases openLink_same same settings.file.path with
      ⟨fault, failed, failed'⟩ | ⟨one, two, opened, opened', named, linked⟩
    · simp only [failed, failed']
      exact refused_same same _
    · obtain ⟨_, _⟩ := one
      obtain ⟨address, _⟩ := two
      obtain rfl := named
      obtain ⟨link, found, found', rfl, rfl, same⟩ := linked.cases
      simp only [opened, opened']
      split
      · exact refused_same same _
      · rcases startLog_same foreign same address link with
          ⟨fault, failed, failed'⟩ | ⟨_, _, started, started', both, apart⟩
        · simp only [failed, failed']
          exact refused_same same _
        · obtain ⟨begun, logged, logged', rfl, rfl, same⟩ := both.cases
          simp only [started, started']
          have ready := Link.Apart.makeReady apart same settings
          obtain ⟨result, final, final', ran, ran', same⟩ := ready.toSameRun.cases
          rw [ran, ran']
          cases result with
          | error e => exact refused_same same _
          | ok link => exact opened_same same (ready.apart link (congrArg Prod.fst ran))

end ChainStore.Files
