import ChainStore.Files.Opening
import ChainStore.Proofs.Cache.Layout

set_option autoImplicit false
set_option relaxedAutoImplicit false

/-!
The databases on a disk. What is done to the files and directories around them never reaches into a
database, so a property that every database has on its own, as it is and as it would be without its
log, outlasts all of it.
-/

namespace ChainStore.Files

open Storage (Database Connection)

/-- What a node says about the databases of its disk: both sides of the one that it holds, if it
holds one, have the property. -/
def Node.Has (P : Database → Prop) : Node → Prop
  | .file (.database db settled) => P db ∧ P settled
  | _ => True

namespace Disk

/-! ### Nodes -/

private theorem lookup_setNode (place other : Place) (node : Node) (nodes : List (Place × Node)) :
    (setNode place node nodes).lookup other =
      if other = place then some node else nodes.lookup other := by
  induction nodes with
  | nil =>
    by_cases same : other = place
    · simp [setNode, same]
    · rw [if_neg same, setNode, List.lookup_cons, beq_false_of_ne same]
  | cons entry nodes ih =>
    obtain ⟨p, n⟩ := entry
    unfold setNode
    by_cases here : p = place
    · subst here
      by_cases same : other = p
      · simp [same]
      · rw [if_pos rfl, if_neg same, List.lookup_cons, List.lookup_cons, beq_false_of_ne same]
    · rw [if_neg here, List.lookup_cons, List.lookup_cons, ih]
      by_cases found : other = p
      · subst found
        simp [here]
      · rw [beq_false_of_ne found]

theorem node?_set (disk : Disk) (place other : Place) (node : Node) :
    (disk.set place node).node? other =
      if other = place ∧ ¬ other.isPrefixOf disk.home = true then some node
      else disk.node? other := by
  unfold node? set
  split
  · rename_i special
    rw [if_neg fun both => both.2 special]
  · rename_i ordinary
    rw [lookup_setNode]
    by_cases same : other = place
    · rw [if_pos same, if_pos ⟨same, ordinary⟩]
    · rw [if_neg same, if_neg fun both => same both.1]

/-! ### A property of all databases -/

/-- Every database of the disk has the property, also without its log. -/
def Has (P : Database → Prop) (disk : Disk) : Prop :=
  ∀ place node, disk.node? place = some node → node.Has P

section Has

variable {P : Database → Prop}

theorem Has.databaseAt {disk : Disk} (has : disk.Has P) (blank : P .blank) (place : Place) :
    P (disk.databaseAt place) := by
  unfold Disk.databaseAt
  split
  · rename_i db settled found
    exact (has place _ found).1
  · exact blank

theorem Has.settledAt {disk : Disk} (has : disk.Has P) (blank : P .blank) (place : Place) :
    P (disk.settledAt place) := by
  unfold Disk.settledAt
  split
  · rename_i db settled found
    exact (has place _ found).2
  · exact blank

theorem Has.set {disk : Disk} (has : disk.Has P) (place : Place) {node : Node}
    (good : node.Has P) : (disk.set place node).Has P := by
  intro other found there
  rw [node?_set] at there
  split at there
  · rw [← Option.some.inj there]
    exact good
  · exact has other found there

theorem has_bare (home : Place) : (Disk.bare home).Has P := by
  intro place node there
  unfold node? Disk.bare at there
  split at there
  · rw [← Option.some.inj there]
    trivial
  · simp at there

theorem Has.setDatabase {disk : Disk} (has : disk.Has P) (blank : P .blank) (place : Place)
    {db : Database} (good : P db) : (disk.setDatabase place db).Has P := by
  refine has.set place ⟨good, ?_⟩
  split
  · exact has.settledAt blank place
  · exact good

theorem Has.settle {disk : Disk} (has : disk.Has P) (place : Place) :
    (disk.settle place).Has P := by
  unfold Disk.settle
  split
  · rename_i db settled found
    have good := (has place _ found).1
    exact has.set place ⟨good, good⟩
  · exact has

theorem settleUnused_induction {Q : Disk → Prop} {disk : Disk} (start : Q disk)
    (step : ∀ disk place, Q disk → Q (disk.settle place)) (links : List Link) :
    Q (disk.settleUnused links) := by
  unfold settleUnused
  generalize disk.nodes = nodes
  induction nodes generalizing disk with
  | nil => exact start
  | cons entry nodes ih =>
    rw [List.foldl_cons]
    apply ih
    split
    · split
      · exact start
      · exact step _ _ start
    · exact start

theorem Has.settleUnused {disk : Disk} (has : disk.Has P) (links : List Link) :
    (disk.settleUnused links).Has P :=
  settleUnused_induction has (fun _ place has => has.settle place) links

theorem makeOne_made {disk made : Disk} {parent : List Name} {name : Name}
    (making : disk.makeOne parent name = .made made) :
    ∃ place, disk.walk disk.home parent = .ok place ∧ disk.node? place = some .directory ∧
      ¬ (name = Name.root ∨ name = Name.dot ∨ name = Name.dotDot) ∧ ¬ Name.maxLength < name.length ∧
      disk.node? (place ++ [name]) = none ∧ made = disk.set (place ++ [name]) .directory := by
  unfold Disk.makeOne at making
  split at making
  · simp at making
  · split at making
    · simp at making
    · simp at making
    · simp at making
    · rename_i place walked
      split at making
      · simp at making
      · simp at making
      · rename_i directory
        split at making
        · simp at making
        · rename_i plain
          split at making
          · simp at making
          · rename_i short
            split at making
            · simp at making
            · rename_i free
              cases making
              exact ⟨place, walked, directory, plain, short, by simpa using free, rfl⟩

/-- What outlasts the making of a directory where there is nothing outlasts the making of any
number. -/
theorem makeAllUp_induction {Q : Disk → Prop} {disk : Disk} (start : Q disk)
    (step : ∀ disk place, disk.node? place = none → Q disk → Q (disk.set place .directory))
    (elements : List Name) : Q (disk.makeAllUp elements).2 := by
  have one {disk made : Disk} {parent : List Name} {name : Name} (held : Q disk)
      (making : disk.makeOne parent name = .made made) : Q made := by
    obtain ⟨place, -, -, -, -, free, rfl⟩ := makeOne_made making
    exact step _ _ free held
  induction elements with
  | nil => exact start
  | cons name above ih =>
    unfold Disk.makeAllUp
    split
    · rename_i after making
      exact one start making
    · split <;> exact start
    · split
      · rename_i fault after failed
        rw [failed] at ih
        exact ih
      · rename_i u after succeeded
        rw [succeeded] at ih
        split
        · rename_i final making
          exact one ih making
        · split <;> exact ih
        · exact ih

theorem Has.makeAll {disk : Disk} (has : disk.Has P) (elements : List Name) :
    (disk.makeAll elements).2.Has P :=
  makeAllUp_induction has (fun _ place _ has => has.set place trivial) elements.reverse

theorem has_ofBytes {content : List UInt8}
    (good : ∀ db, Database.ofBytes? content = some db → P db) :
    (Node.file (.ofBytes content)).Has P := by
  unfold Content.ofBytes
  split
  · rename_i db read
    exact ⟨good db read, good db read⟩
  · trivial

theorem Has.write {disk : Disk} (has : disk.Has P) (path : String) {content : List UInt8}
    (good : ∀ db, Database.ofBytes? content = some db → P db) :
    (disk.write path content).Has P := by
  unfold Disk.write
  simp only
  split
  · exact (has.makeAll _).set _ (has_ofBytes good)
  · exact has.makeAll _

theorem openFile_ok {disk after : Disk} {path : String} {access : Access} {place : Place}
    (opened : disk.openFile path access place = .ok after) :
    after = disk ∨ disk.node? place = none ∧ after = disk.set place (.file (.bytes [])) := by
  unfold Disk.openFile at opened
  split at opened
  · split at opened <;> simp at opened
  · cases opened
    exact .inl rfl
  · rename_i free
    split at opened
    · cases opened
      exact .inr ⟨free, rfl⟩
    · simp at opened

theorem Has.openFile {disk after : Disk} (has : disk.Has P) {path : String} {access : Access}
    {place : Place} (opened : disk.openFile path access place = .ok after) : after.Has P := by
  rcases openFile_ok opened with rfl | ⟨-, rfl⟩
  · exact has
  · exact has.set _ trivial

end Has

end Disk

/-! ### Links -/

def Link.Has (P : Database → Prop) (link : Link) : Prop :=
  ∀ db, link.location = .held db → P db

/-- A property that outlasts whatever is done to open a database and to close it again. -/
structure Lasting (P : Database → Prop) : Prop where
  blank : P .blank
  prepared : ∀ c : Connection, P c.database → P (Cache.Layout.prepare.run c).2.database
  logged : ∀ db : Database, P db → P { db with logged := true }
  unlocked : ∀ db : Database, P db → P { db with locked := false }

section Links

variable {P : Database → Prop}

theorem Link.Has.database {link : Link} {disk : Disk} (lasting : Lasting P) (has : link.Has P)
    (around : disk.Has P) : P (link.database disk) := by
  unfold Link.database
  split
  · exact around.databaseAt lasting.blank _
  · rename_i db held
    exact has db held

theorem has_unshared (lasting : Lasting P) : Link.unshared.Has P := by
  intro db held
  cases held
  exact lasting.blank

theorem Link.has_after (link : Link) {disk : Disk} {c : Connection} (lasting : Lasting P)
    (around : disk.Has P) (good : P c.database) :
    (link.after c disk).1.Has P ∧ (link.after c disk).2.Has P := by
  unfold Link.after
  split
  · rename_i place filed
    refine ⟨?_, around.setDatabase lasting.blank place good⟩
    intro db held
    simp [filed] at held
  · refine ⟨?_, around⟩
    intro db held
    cases held
    exact good

theorem Link.Has.freeze {link : Link} {disk : Disk} (lasting : Lasting P) (has : link.Has P)
    (around : disk.Has P) : (link.freeze disk).Has P := by
  unfold Link.freeze
  split
  · intro db held
    cases held
    exact lasting.unlocked _ (around.settledAt lasting.blank _)
  · exact has

theorem Link.start_ok {link begun : Link} {frozen : Bool} {disk after : Disk}
    (started : link.start frozen disk = .ok (begun, after)) :
    (after = disk ∧ (begun = link ∨ begun = link.freeze disk)) ∨
    ∃ place content db, link.location = .file place ∧ disk.node? place = some (.file content) ∧
      content.toDatabase = .ok db ∧ begun = link ∧
      after = disk.setDatabase place { db with logged := true } := by
  unfold Link.start at started
  split at started
  · cases started
    exact .inl ⟨rfl, .inl rfl⟩
  · rename_i place filed
    split at started
    · rename_i content there
      split at started
      · cases started
      · rename_i db read
        split at started
        · cases started
          exact .inl ⟨rfl, .inr rfl⟩
        · split at started
          · split at started
            · cases started
            · cases started
              exact .inl ⟨rfl, .inl rfl⟩
          · split at started
            · cases started
            · cases started
              exact .inr ⟨place, content, db, filed, there, read, rfl, rfl⟩
    · cases started

theorem Disk.Has.read {disk : Disk} (lasting : Lasting P) (around : disk.Has P) {place : Place}
    {content : Content} {db : Database} (there : disk.node? place = some (.file content))
    (read : content.toDatabase = .ok db) : P db := by
  unfold Content.toDatabase at read
  split at read
  · cases read
    exact lasting.blank
  · cases read
    exact lasting.blank
  · cases read
  · cases read
    exact (around place _ there).1

theorem Link.Has.start {link begun : Link} {frozen : Bool} {disk after : Disk} (lasting : Lasting P)
    (has : link.Has P) (around : disk.Has P)
    (started : link.start frozen disk = .ok (begun, after)) : begun.Has P ∧ after.Has P := by
  rcases Link.start_ok started with
    ⟨rfl, rfl | rfl⟩ | ⟨place, content, db, -, there, read, rfl, rfl⟩
  · exact ⟨has, around⟩
  · exact ⟨has.freeze lasting around, around⟩
  · have good : P db := around.read lasting there read
    exact ⟨has, around.setDatabase lasting.blank place (lasting.logged db good)⟩

end Links

end ChainStore.Files
