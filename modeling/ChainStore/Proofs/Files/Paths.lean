import ChainStore.Proofs.Files.Databases

set_option autoImplicit false
set_option relaxedAutoImplicit false

/-!
Where paths lead once a disk has changed. A path that leads somewhere still does on a disk that has
grown, and where only the contents of files are others, every path leads where it led. Directories
that have been made are there afterwards, so that making them again does nothing.
-/

namespace ChainStore.Files

def Node.isFile : Node → Bool
  | .directory => false
  | .file _ => true

namespace Disk

def isFile? (disk : Disk) (place : Place) : Option Bool := (disk.node? place).map Node.isFile

theorem isFile?_eq_false {disk : Disk} {place : Place} :
    disk.isFile? place = some false ↔ disk.node? place = some .directory := by
  rw [isFile?]
  cases disk.node? place with
  | none => simp
  | some node => cases node <;> simp [Node.isFile]

theorem isFile?_eq_true {disk : Disk} {place : Place} :
    disk.isFile? place = some true ↔ ∃ content, disk.node? place = some (.file content) := by
  rw [isFile?]
  cases disk.node? place with
  | none => simp
  | some node => cases node <;> simp [Node.isFile]

/-- Every directory and every file of one disk is one of the other, whatever the files hold. -/
structure Within (disk other : Disk) : Prop where
  home : other.home = disk.home
  kept : ∀ place kind, disk.isFile? place = some kind → other.isFile? place = some kind

/-- Two disks differ in what their files hold, and in nothing else. -/
structure SameTree (disk other : Disk) : Prop where
  home : other.home = disk.home
  kept : ∀ place, other.isFile? place = disk.isFile? place

theorem Within.refl (disk : Disk) : disk.Within disk := ⟨rfl, fun _ _ there => there⟩

theorem Within.trans {disk middle other : Disk} (first : disk.Within middle)
    (second : middle.Within other) : disk.Within other :=
  ⟨second.home.trans first.home,
    fun place kind there => second.kept place kind (first.kept place kind there)⟩

theorem SameTree.within {disk other : Disk} (same : disk.SameTree other) : disk.Within other :=
  ⟨same.home, fun place _ there => (same.kept place).trans there⟩

theorem SameTree.trans {disk middle other : Disk} (first : disk.SameTree middle)
    (second : middle.SameTree other) : disk.SameTree other :=
  ⟨second.home.trans first.home, fun place => (second.kept place).trans (first.kept place)⟩

/-! ### Setting a node -/

theorem set_node {disk : Disk} {place : Place} {content : Content}
    (there : disk.node? place = some (.file content)) : disk.set place (.file content) = disk := by
  obtain ⟨home, nodes⟩ := disk
  unfold node? at there
  split at there
  · cases there
  · rename_i below
    clear below
    refine congrArg (Disk.mk home) ?_
    simp only at there
    induction nodes with
    | nil => cases there
    | cons entry nodes ih =>
      obtain ⟨p, n⟩ := entry
      rw [setNode]
      by_cases here : p = place
      · rw [List.lookup_cons, here, beq_self_eq_true] at there
        rw [if_pos here, here, Option.some.inj there]
      · rw [List.lookup_cons, beq_false_of_ne (Ne.symm here)] at there
        rw [if_neg here, ih there]

theorem sameTree_set {disk : Disk} {place : Place} {content : Content}
    (there : disk.node? place = some (.file content)) (replaced : Content) :
    disk.SameTree (disk.set place (.file replaced)) := by
  refine ⟨rfl, fun other => ?_⟩
  rw [isFile?, node?_set]
  split
  · rename_i here
    rw [here.1, isFile?_eq_true.mpr ⟨_, there⟩]
    rfl
  · rfl

theorem within_set {disk : Disk} {place : Place} (free : disk.node? place = none) (node : Node) :
    disk.Within (disk.set place node) := by
  refine ⟨rfl, fun other kind there => ?_⟩
  rw [isFile?, node?_set]
  split
  · rename_i here
    rw [isFile?, here.1, free] at there
    cases there
  · exact there

theorem node?_set_of_free {disk : Disk} {place : Place} (free : disk.node? place = none)
    (node : Node) : (disk.set place node).node? place = some node := by
  rw [node?_set, if_pos]
  refine ⟨rfl, fun special => ?_⟩
  rw [node?, if_pos special] at free
  cases free

theorem node?_set_of_file {disk : Disk} {place : Place} {content : Content}
    (there : disk.node? place = some (.file content)) (node : Node) :
    (disk.set place node).node? place = some node := by
  rw [node?_set, if_pos]
  refine ⟨rfl, fun special => ?_⟩
  rw [node?, if_pos special] at there
  cases there

theorem node?_home (disk : Disk) : disk.node? disk.home = some .directory := by
  rw [node?, if_pos (by simp)]

/-! ### Following a path -/

theorem walk_append (disk : Disk) (place : Place) (elements more : List Name) :
    disk.walk place (elements ++ more) =
      match disk.walk place elements with
      | .ok reached => disk.walk reached more
      | .error miss => .error miss := by
  induction elements generalizing place with
  | nil => rfl
  | cons e rest ih =>
    rw [List.cons_append, walk, walk]
    split
    · rfl
    · rfl
    · split
      · exact ih _
      · split
        · exact ih _
        · split
          · exact ih _
          · split
            · rfl
            · exact ih _

theorem Within.walk {disk other : Disk} (within : disk.Within other) {elements : List Name}
    {place reached : Place} (walked : disk.walk place elements = .ok reached) :
    other.walk place elements = .ok reached := by
  induction elements generalizing place with
  | nil => exact walked
  | cons e rest ih =>
    rw [Disk.walk] at walked ⊢
    split at walked
    · cases walked
    · cases walked
    · rename_i directory
      rw [isFile?_eq_false.mp (within.kept place false (isFile?_eq_false.mpr directory))]
      simp only
      by_cases rooted : e = Name.root
      · rw [if_pos rooted] at walked ⊢
        exact ih walked
      · rw [if_neg rooted] at walked ⊢
        by_cases here : e = Name.dot
        · rw [if_pos here] at walked ⊢
          exact ih walked
        · rw [if_neg here] at walked ⊢
          by_cases above : e = Name.dotDot
          · rw [if_pos above] at walked ⊢
            exact ih walked
          · rw [if_neg above] at walked ⊢
            by_cases long : Name.maxLength < e.length
            · rw [if_pos long] at walked
              cases walked
            · rw [if_neg long] at walked ⊢
              exact ih walked

theorem isDirectory_iff {disk : Disk} {elements : List Name} :
    disk.isDirectory elements = true ↔
      ∃ place, disk.walk disk.home elements = .ok place ∧
        disk.node? place = some .directory := by
  unfold isDirectory look?
  cases disk.walk disk.home elements <;> simp

theorem Within.isDirectory {disk other : Disk} (within : disk.Within other) {elements : List Name}
    (directory : disk.isDirectory elements = true) : other.isDirectory elements = true := by
  obtain ⟨place, walked, there⟩ := isDirectory_iff.mp directory
  exact isDirectory_iff.mpr ⟨place, within.home ▸ within.walk walked,
    isFile?_eq_false.mp (within.kept place false (isFile?_eq_false.mpr there))⟩

theorem Within.nodeAt? {disk other : Disk} (within : disk.Within other) {path : String}
    (there : disk.nodeAt? path ≠ none) : other.nodeAt? path ≠ none := by
  unfold Disk.nodeAt? nodeNamed? at there ⊢
  split
  · rename_i senseless
    rw [if_pos senseless] at there
    exact there
  · rename_i sensible
    rw [if_neg sensible] at there
    unfold look? at there ⊢
    split at there
    · rename_i place walked
      rw [within.home, within.walk walked]
      obtain ⟨node, found⟩ := Option.ne_none_iff_exists'.mp there
      have kept := within.kept place node.isFile (by rw [isFile?, found]; rfl)
      intro gone
      simp only at gone
      rw [isFile?, gone] at kept
      cases kept
    · exact absurd rfl there

theorem SameTree.resolve? {disk other : Disk} (same : disk.SameTree other) (elements : List Name)
    (place : Place) : other.resolve? place elements = disk.resolve? place elements := by
  induction elements generalizing place with
  | nil => rfl
  | cons e rest ih =>
    have kind := same.kept place
    simp only [Disk.resolve?, ih]
    unfold isFile? at kind
    rcases here : disk.node? place with _ | (_ | content) <;>
      rcases there : other.node? place with _ | (_ | replaced) <;>
        rw [here, there] at kind <;> first | rfl | cases kind

theorem SameTree.databasePlace? {disk other : Disk} (same : disk.SameTree other) (name : Name) :
    other.databasePlace? name = disk.databasePlace? name := by
  unfold Disk.databasePlace?
  rw [same.home, same.resolve?]

/-! ### Making directories -/

private theorem isDirectory_of_made {disk made : Disk} {parent : List Name} {name : Name}
    (making : disk.makeOne parent name = .made made) :
    disk.Within made ∧ made.isDirectory (parent ++ [name]) = true := by
  obtain ⟨place, walked, directory, plain, short, free, rfl⟩ := makeOne_made making
  have within := within_set free .directory
  refine ⟨within, isDirectory_iff.mpr ⟨place ++ [name], ?_, node?_set_of_free free _⟩⟩
  have kept := isFile?_eq_false.mp (within.kept place false (isFile?_eq_false.mpr directory))
  obtain ⟨unrooted, proper, proper'⟩ := not_or.mp plain |>.imp_right not_or.mp
  rw [walk_append, within.home, within.walk walked]
  simp only [walk, kept, if_neg unrooted, if_neg proper, if_neg proper', if_neg short]

theorem isDirectory_of_makeAllUp {disk after : Disk} {elements : List Name} {u : Unit}
    (made : disk.makeAllUp elements = (.ok u, after)) :
    disk.Within after ∧ after.isDirectory elements.reverse = true := by
  induction elements generalizing after with
  | nil =>
    cases made
    exact ⟨Within.refl disk, isDirectory_iff.mpr ⟨disk.home, rfl, node?_home disk⟩⟩
  | cons name above ih =>
    rw [List.reverse_cons]
    unfold makeAllUp at made
    split at made
    · rename_i final making
      cases made
      exact isDirectory_of_made making
    · split at made
      · rename_i there
        cases made
        exact ⟨Within.refl disk, there⟩
      · cases made
    · split at made
      · cases made
      · rename_i u middle upper
        obtain ⟨within, -⟩ := ih upper
        split at made
        · rename_i final making
          cases made
          obtain ⟨within', there⟩ := isDirectory_of_made making
          exact ⟨within.trans within', there⟩
        · split at made
          · rename_i there
            cases made
            exact ⟨within, there⟩
          · cases made
        · cases made

private theorem refused_of_isDirectory {disk : Disk} {parent : List Name} {name : Name}
    (there : disk.isDirectory (parent ++ [name]) = true) :
    ∃ fault, disk.makeOne parent name = .refused fault := by
  obtain ⟨place, walked, directory⟩ := isDirectory_iff.mp there
  rw [walk_append] at walked
  unfold makeOne
  split
  · exact ⟨_, rfl⟩
  · cases upper : disk.walk disk.home parent with
    | error miss => simp [upper] at walked
    | ok reached =>
      simp only [upper, walk] at walked ⊢
      split at walked
      · cases walked
      · cases walked
      · rename_i holder
        by_cases here : name = Name.root ∨ name = Name.dot ∨ name = Name.dotDot
        · exact ⟨_, if_pos here⟩
        · obtain ⟨unrooted, proper, proper'⟩ := not_or.mp here |>.imp_right not_or.mp
          rw [if_neg unrooted, if_neg proper, if_neg proper'] at walked
          rw [if_neg here]
          by_cases long : Name.maxLength < name.length
          · exact ⟨_, if_pos long⟩
          · rw [if_neg long] at walked ⊢
            cases walked
            exact ⟨_, by rw [directory]; rfl⟩

theorem makeAll_of_isDirectory {disk : Disk} {elements : List Name}
    (there : disk.isDirectory elements = true) : disk.makeAll elements = (.ok (), disk) := by
  unfold makeAll
  cases reversed : elements.reverse with
  | nil => rfl
  | cons name above =>
    rw [← List.reverse_reverse elements, reversed, List.reverse_cons] at there
    obtain ⟨fault, refused⟩ := refused_of_isDirectory there
    rw [makeAllUp, refused]
    simp only
    rw [if_pos there]

end Disk

/-- The directories above the file of a cache are made once: on a disk that has grown since, there
is nothing left to do. -/
theorem makeParents_again {path : String} {disk made other : Disk} {u : Unit}
    (parents : makeParents path disk = (.ok u, made)) (within : made.Within other) :
    makeParents path other = (.ok (), other) := by
  unfold makeParents at parents ⊢
  split at parents
  · rename_i none
    rw [if_pos none]
  · rename_i some
    rw [if_neg some]
    split at parents
    · cases parents
    · rename_i clean
      rw [if_neg clean]
      split at parents
      · rename_i after making
        cases parents
        obtain ⟨-, there⟩ := Disk.isDirectory_of_makeAllUp making
        rw [List.reverse_reverse] at there
        rw [Disk.makeAll_of_isDirectory (within.isDirectory there)]
      · cases parents

end ChainStore.Files
