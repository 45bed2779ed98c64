import ChainStore.Toml.Reader

set_option autoImplicit false
set_option relaxedAutoImplicit false

/-!
The keys of a document. However its tables are put together, by headers, by dotted keys or between
braces, none of them is left with two entries of one key.
-/

namespace ChainStore.Toml

def Distinct {α : Type} (entries : List (String × α)) : Prop := (entries.map Prod.fst).Nodup

theorem lookup_eq_some {α : Type} {entries : List (String × α)} (distinct : Distinct entries)
    {key : String} {a : α} : entries.lookup key = some a ↔ (key, a) ∈ entries := by
  constructor
  · intro found
    obtain ⟨before, after, split, -⟩ := List.lookup_eq_some_iff.mp found
    simp [split]
  · intro member
    obtain ⟨before, after, rfl⟩ := List.append_of_mem member
    refine List.lookup_eq_some_iff.mpr ⟨before, after, rfl, fun entry earlier => ?_⟩
    rw [Distinct, List.map_append, List.map_cons] at distinct
    have apart := (List.nodup_append.mp distinct).2.2
    exact bne_iff_ne.mpr fun same => apart entry.1 (List.mem_map_of_mem earlier) key
      List.mem_cons_self same.symm

theorem lookup_eq_none {α : Type} {entries : List (String × α)} {key : String} :
    entries.lookup key = none ↔ ∀ a, (key, a) ∉ entries := by
  rw [List.lookup_eq_none_iff]
  constructor
  · intro none a member
    simpa using none (key, a) member
  · intro none entry member
    exact bne_iff_ne.mpr fun same => none entry.2 (by rw [same]; exact member)

/-! ### Finished values -/

inductive Value.Tidy : Value → Prop where
  | string (s : String) : Tidy (.string s)
  | integer (n : Int) : Tidy (.integer n)
  | float (text : String) : Tidy (.float text)
  | boolean (b : Bool) : Tidy (.boolean b)
  | datetime (text : String) : Tidy (.datetime text)
  | array {elements : List Value} : (∀ v ∈ elements, Tidy v) → Tidy (.array elements)
  | table {entries : Entries} : Distinct entries → (∀ entry ∈ entries, Tidy entry.2) →
    Tidy (.table entries)

theorem Value.Tidy.distinct {entries : Entries} (tidy : (Value.table entries).Tidy) :
    Distinct entries := by
  cases tidy with
  | table distinct _ => exact distinct

theorem Value.Tidy.of_entry {entries : Entries} (tidy : (Value.table entries).Tidy)
    {key : String} {v : Value} (member : (key, v) ∈ entries) : v.Tidy := by
  cases tidy with
  | table _ each => exact each _ member

/-! ### Documents under construction -/

inductive Item.Tidy : Item → Prop where
  | value {v : Value} : v.Tidy → Tidy (.value v)
  | table {shape : Shape} {entries : List (String × Item)} : Distinct entries →
    (∀ entry ∈ entries, Tidy entry.2) → Tidy (.table shape entries)
  | tables {elements : List (List (String × Item))} : (∀ entries ∈ elements, Distinct entries) →
    (∀ entries ∈ elements, ∀ entry ∈ entries, Tidy entry.2) → Tidy (.tables elements)

/-- Entries that a table with distinct keys may have. -/
structure Neat (entries : List (String × Item)) : Prop where
  distinct : Distinct entries
  tidy : ∀ entry ∈ entries, entry.2.Tidy

namespace Item

theorem toEntries_eq_map (entries : List (String × Item)) :
    toEntries entries = entries.map fun entry => (entry.1, toValue entry.2) := by
  induction entries with
  | nil => rfl
  | cons entry entries ih => rw [toEntries, ih, List.map_cons]

theorem toElements_eq_map (elements : List (List (String × Item))) :
    toElements elements = elements.map fun entries => .table (toEntries entries) := by
  induction elements with
  | nil => rfl
  | cons entries elements ih => rw [toElements, ih, List.map_cons]

private theorem distinct_toEntries {entries : List (String × Item)} (distinct : Distinct entries) :
    Distinct (toEntries entries) := by
  rw [toEntries_eq_map, Distinct, List.map_map]
  exact distinct

theorem Tidy.toValue {item : Item} (tidy : item.Tidy) : (toValue item).Tidy := by
  induction tidy with
  | value tidy => exact tidy
  | table distinct _ each =>
    rw [Item.toValue]
    refine .table (distinct_toEntries distinct) fun entry member => ?_
    rw [toEntries_eq_map] at member
    obtain ⟨source, there, rfl⟩ := List.mem_map.mp member
    exact each source there
  | tables distinct _ each =>
    rw [Item.toValue]
    refine .array fun v member => ?_
    rw [toElements_eq_map] at member
    obtain ⟨entries, there, rfl⟩ := List.mem_map.mp member
    refine .table (distinct_toEntries (distinct entries there)) fun entry member => ?_
    rw [toEntries_eq_map] at member
    obtain ⟨source, inside, rfl⟩ := List.mem_map.mp member
    exact each entries there source inside

theorem mem_put {key : String} {item : Item} {entries : List (String × Item)}
    {entry : String × Item} (member : entry ∈ put key item entries) :
    entry = (key, item) ∨ entry ∈ entries := by
  induction entries with
  | nil => exact .inl (List.mem_singleton.mp member)
  | cons first entries ih =>
    unfold put at member
    split at member
    · exact (List.mem_cons.mp member).imp_right (List.mem_cons_of_mem first)
    · rcases List.mem_cons.mp member with same | deeper
      · exact .inr (same ▸ List.mem_cons_self)
      · exact (ih deeper).imp_right (List.mem_cons_of_mem first)

private theorem distinct_put {entries : List (String × Item)} (distinct : Distinct entries)
    (key : String) (item : Item) : Distinct (put key item entries) := by
  induction entries with
  | nil => simp [put, Distinct]
  | cons first entries ih =>
    obtain ⟨fresh, rest⟩ := List.nodup_cons.mp distinct
    unfold put
    split
    · rename_i same
      rw [Distinct, List.map_cons]
      exact List.nodup_cons.mpr ⟨same ▸ fresh, rest⟩
    · rename_i other
      rw [Distinct, List.map_cons]
      refine List.nodup_cons.mpr ⟨fun taken => ?_, ih rest⟩
      obtain ⟨entry, member, same⟩ := List.mem_map.mp taken
      rcases mem_put member with rfl | old
      · exact other same.symm
      · exact fresh (same ▸ List.mem_map_of_mem old)

end Item

namespace Neat

variable {entries : List (String × Item)}

theorem nil : Neat [] := ⟨List.nodup_nil, by simp⟩

theorem put (neat : Neat entries) (key : String) {item : Item} (tidy : item.Tidy) :
    Neat (Item.put key item entries) where
  distinct := Item.distinct_put neat.distinct key item
  tidy entry member := by
    rcases Item.mem_put member with rfl | old
    · exact tidy
    · exact neat.tidy entry old

theorem of_lookup (neat : Neat entries) {key : String} {item : Item}
    (found : entries.lookup key = some item) : item.Tidy :=
  neat.tidy (key, item) ((lookup_eq_some neat.distinct).mp found)

theorem of_table {shape : Shape} (tidy : (Item.table shape entries).Tidy) : Neat entries := by
  cases tidy with
  | table distinct each => exact ⟨distinct, each⟩

theorem of_element {elements : List (List (String × Item))} (tidy : (Item.tables elements).Tidy)
    (member : entries ∈ elements) : Neat entries := by
  cases tidy with
  | tables distinct each => exact ⟨distinct entries member, each entries member⟩

theorem tables {elements : List (List (String × Item))}
    (each : ∀ entries ∈ elements, Neat entries) : (Item.tables elements).Tidy :=
  .tables (fun entries member => (each entries member).distinct)
    fun entries member => (each entries member).tidy

private theorem of_last {elements : List (List (String × Item))}
    (tidy : (Item.tables elements).Tidy) : Neat (elements.getLast?.getD []) := by
  cases last : elements.getLast? with
  | none => exact nil
  | some entries => exact of_element tidy (List.mem_of_getLast? last)

theorem update {dotted : Bool}
    {change : Shape → List (String × Item) → Option (List (String × Item))}
    (keeps : ∀ shape entries after, Neat entries → change shape entries = some after → Neat after)
    {path : List String} {shape : Shape} {after : List (String × Item)} (neat : Neat entries)
    (updated : Item.update dotted change path shape entries = some after) : Neat after := by
  induction path generalizing shape entries after with
  | nil => exact keeps shape entries after neat updated
  | cons key path ih =>
    unfold Item.update at updated
    split at updated
    · obtain ⟨inner, made, rfl⟩ := Option.map_eq_some_iff.mp updated
      have below := ih nil made
      exact neat.put key (.table below.distinct below.tidy)
    · cases updated
    · rename_i shape inner found
      split at updated
      · cases updated
      · obtain ⟨inner, made, rfl⟩ := Option.map_eq_some_iff.mp updated
        have below := ih (of_table (neat.of_lookup found)) made
        exact neat.put key (.table below.distinct below.tidy)
    · rename_i elements found
      obtain ⟨inner, made, rfl⟩ := Option.map_eq_some_iff.mp updated
      have tidy := neat.of_lookup found
      have below := ih (of_last tidy) made
      -- The path leads into the last element only, and the others stay as they are.
      refine neat.put key (tables fun entries member => ?_)
      rcases List.mem_append.mp member with old | last
      · exact of_element tidy (List.dropLast_subset elements old)
      · rw [List.mem_singleton.mp last]
        exact below

theorem insertAt {path : List String} {key : String} {v : Value} (tidy : v.Tidy) {shape : Shape}
    {after : List (String × Item)} (neat : Neat entries)
    (inserted : Item.insertAt path key v shape entries = some after) : Neat after := by
  refine neat.update (fun shape entries after neat inserted => ?_) inserted
  unfold Item.insertNew at inserted
  repeat' split at inserted
  all_goals cases inserted
  exact neat.put key (.value tidy)

theorem openTable {key : String} {shape : Shape} {after : List (String × Item)}
    (neat : Neat entries) (opened : Item.openTable key shape entries = some after) :
    Neat after := by
  unfold Item.openTable at opened
  split at opened
  · cases opened
    exact neat.put key (.table nil.distinct nil.tidy)
  · rename_i inner found
    cases opened
    have below := of_table (neat.of_lookup found)
    exact neat.put key (.table below.distinct below.tidy)
  · cases opened

theorem openElement {key : String} {shape : Shape} {after : List (String × Item)}
    (neat : Neat entries) (opened : Item.openElement key shape entries = some after) :
    Neat after := by
  unfold Item.openElement at opened
  split at opened
  · cases opened
    refine neat.put key (tables fun entries member => ?_)
    rw [List.mem_singleton.mp member]
    exact nil
  · rename_i elements found
    cases opened
    refine neat.put key (tables fun entries member => ?_)
    rcases List.mem_append.mp member with old | last
    · exact of_element (neat.of_lookup found) old
    · rw [List.mem_singleton.mp last]
      exact nil
  · cases opened

theorem toEntries (neat : Neat entries) : (Value.table (Item.toEntries entries)).Tidy :=
  (show (Item.table .opened entries).Tidy from .table neat.distinct neat.tidy).toValue

end Neat

/-! ### Reading -/

theorem inlineTable_tidy {pairs : List (List String × String × Value)}
    {entries : List (String × Item)} {v : Value} (tidy : ∀ pair ∈ pairs, pair.2.2.Tidy)
    (neat : Neat entries) (made : inlineTable pairs entries = some v) : v.Tidy := by
  induction pairs generalizing entries with
  | nil =>
    cases made
    exact neat.toEntries
  | cons pair pairs ih =>
    obtain ⟨path, key, w⟩ := pair
    obtain ⟨after, inserted, made⟩ := Option.bind_eq_some_iff.mp made
    obtain ⟨first, others⟩ := List.forall_mem_cons.mp tidy
    exact ih others (neat.insertAt first inserted) made

theorem scalar?_tidy {cs : List Char} {v : Value} (read : scalar? cs = some v) : v.Tidy := by
  unfold scalar? at read
  split at read
  · cases read
    exact .boolean true
  · split at read
    · cases read
      exact .boolean false
    · split at read
      · cases read
        exact .datetime _
      · split at read
        · cases read
          exact .integer _
        · split at read
          · cases read
            exact .float _
          · cases read

theorem scalarValue?_tidy {cs rest : List Char} {v : Value}
    (read : scalarValue? cs = some (v, rest)) : v.Tidy := by
  unfold scalarValue? at read
  dsimp only at read
  repeat' split at read
  all_goals
    obtain ⟨w, word, same⟩ := Option.map_eq_some_iff.mp read
    cases same
    exact scalar?_tidy word

/-- What is read within a number of steps is tidy. The three readers call one another, each with one
step less. -/
private structure ReadsTidy (fuel : Nat) : Prop where
  value : ∀ {depth cs v rest}, value? fuel depth cs = some (v, rest) → v.Tidy
  elements : ∀ {depth cs vs rest}, elements? fuel depth cs = some (vs, rest) → ∀ v ∈ vs, v.Tidy
  pairs : ∀ {depth cs found rest}, pairs? fuel depth cs = some (found, rest) →
    ∀ pair ∈ found, pair.2.2.Tidy

private theorem value?_tidy {fuel depth : Nat} {cs rest : List Char} {v : Value}
    (below : ReadsTidy fuel) (read : value? (fuel + 1) depth cs = some (v, rest)) : v.Tidy := by
  unfold value? at read
  split at read
  · obtain ⟨⟨s, after⟩, -, same⟩ := Option.map_eq_some_iff.mp read
    cases same
    exact .string s
  · obtain ⟨⟨s, after⟩, -, same⟩ := Option.map_eq_some_iff.mp read
    cases same
    exact .string s
  · split at read
    · cases read
    · obtain ⟨⟨vs, after⟩, inside, same⟩ := Option.map_eq_some_iff.mp read
      cases same
      exact .array (below.elements inside)
  · split at read
    · cases read
    · split at read
      · cases read
        exact .table List.nodup_nil (by simp)
      · obtain ⟨⟨pairs, after⟩, inside, read⟩ := Option.bind_eq_some_iff.mp read
        obtain ⟨table, made, same⟩ := Option.bind_eq_some_iff.mp read
        cases same
        exact inlineTable_tidy (below.pairs inside) Neat.nil made
  · exact scalarValue?_tidy read

private theorem elements?_tidy {fuel depth : Nat} {cs rest : List Char} {vs : List Value}
    (below : ReadsTidy fuel) (read : elements? (fuel + 1) depth cs = some (vs, rest)) :
    ∀ v ∈ vs, v.Tidy := by
  unfold elements? at read
  obtain ⟨start, -, read⟩ := Option.bind_eq_some_iff.mp read
  split at read
  · cases read
    simp
  · obtain ⟨⟨first, after⟩, inside, read⟩ := Option.bind_eq_some_iff.mp read
    obtain ⟨next, -, read⟩ := Option.bind_eq_some_iff.mp read
    split at read
    · cases read
      exact List.forall_mem_singleton.mpr (below.value inside)
    · obtain ⟨⟨others, after⟩, behind, same⟩ := Option.bind_eq_some_iff.mp read
      cases same
      exact List.forall_mem_cons.mpr ⟨below.value inside, below.elements behind⟩
    · cases read

private theorem pairs?_tidy {fuel depth : Nat} {cs rest : List Char}
    {found : List (List String × String × Value)} (below : ReadsTidy fuel)
    (read : pairs? (fuel + 1) depth cs = some (found, rest)) :
    ∀ pair ∈ found, pair.2.2.Tidy := by
  unfold pairs? at read
  obtain ⟨⟨path, key, start⟩, -, read⟩ := Option.bind_eq_some_iff.mp read
  dsimp only at read
  split at read
  · obtain ⟨⟨first, after⟩, inside, read⟩ := Option.bind_eq_some_iff.mp read
    split at read
    · cases read
      exact List.forall_mem_singleton.mpr (below.value inside)
    · obtain ⟨⟨others, after⟩, behind, same⟩ := Option.bind_eq_some_iff.mp read
      cases same
      exact List.forall_mem_cons.mpr ⟨below.value inside, below.pairs behind⟩
    · cases read
  · cases read

private theorem readsTidy (fuel : Nat) : ReadsTidy fuel := by
  induction fuel with
  | zero => exact ⟨nofun, nofun, nofun⟩
  | succ fuel below => exact ⟨value?_tidy below, elements?_tidy below, pairs?_tidy below⟩

def Line.Tidy : Line → Prop
  | .keyValue _ _ v => v.Tidy
  | .header _ _ => True
  | .element _ _ => True

theorem line?_tidy {cs rest : List Char} {line : Line} (read : line? cs = some (line, rest)) :
    line.Tidy := by
  unfold line? at read
  split at read
  all_goals
    obtain ⟨⟨path, key, start⟩, -, read⟩ := Option.bind_eq_some_iff.mp read
    dsimp only at read
    split at read
  · obtain ⟨after, -, same⟩ := Option.bind_eq_some_iff.mp read
    cases same
    exact trivial
  · cases read
  · obtain ⟨after, -, same⟩ := Option.bind_eq_some_iff.mp read
    cases same
    exact trivial
  · cases read
  · obtain ⟨⟨v, after⟩, inside, read⟩ := Option.bind_eq_some_iff.mp read
    obtain ⟨next, -, same⟩ := Option.bind_eq_some_iff.mp read
    cases same
    exact (readsTidy _).value inside
  · cases read

theorem lines?_tidy {fuel : Nat} {cs : List Char} {lines : List Line}
    (read : lines? fuel cs = some lines) : ∀ line ∈ lines, line.Tidy := by
  induction fuel generalizing cs lines with
  | zero => cases read
  | succ fuel ih =>
    unfold lines? at read
    split at read
    · cases read
      simp
    · obtain ⟨after, -, read⟩ := Option.bind_eq_some_iff.mp read
      exact ih read
    · split at read
      · exact ih read
      · obtain ⟨⟨line, after⟩, inside, read⟩ := Option.bind_eq_some_iff.mp read
        obtain ⟨more, behind, same⟩ := Option.bind_eq_some_iff.mp read
        cases same
        exact List.forall_mem_cons.mpr ⟨line?_tidy inside, ih behind⟩

theorem addLines_neat {lines : List Line} {current : List String}
    {root after : List (String × Item)} (tidy : ∀ line ∈ lines, line.Tidy) (neat : Neat root)
    (added : addLines lines current root = some after) : Neat after := by
  induction lines generalizing current root with
  | nil =>
    cases added
    exact neat
  | cons line lines ih =>
    obtain ⟨first, others⟩ := List.forall_mem_cons.mp tidy
    cases line with
    | keyValue path key v =>
      obtain ⟨next, updated, added⟩ := Option.bind_eq_some_iff.mp added
      exact ih others (neat.update (fun _ _ _ below => below.insertAt first) updated) added
    | header path key =>
      obtain ⟨next, updated, added⟩ := Option.bind_eq_some_iff.mp added
      exact ih others (neat.update (fun _ _ _ below => below.openTable) updated) added
    | element path key =>
      obtain ⟨next, updated, added⟩ := Option.bind_eq_some_iff.mp added
      exact ih others (neat.update (fun _ _ _ below => below.openElement) updated) added

theorem document?_of_unmarked {text : String} {cs : List Char} (chars : text.toList = cs)
    (unmarked : cs.head? ≠ some '\ufeff') :
    document? text = (lines? (cs.length + 1) cs).bind assemble := by
  subst chars
  rw [document?]
  split
  · rename_i marked
    rw [marked] at unmarked
    exact absurd rfl unmarked
  · rfl

/-- A document is a table with distinct keys, and so is every table in it. -/
theorem document?_tidy {text : String} {entries : Entries}
    (read : document? text = some entries) : (Value.table entries).Tidy := by
  obtain ⟨lines, parts, made⟩ := Option.bind_eq_some_iff.mp read
  obtain ⟨root, added, rfl⟩ := Option.map_eq_some_iff.mp made
  exact (addLines_neat (lines?_tidy parts) Neat.nil added).toEntries

end ChainStore.Toml
