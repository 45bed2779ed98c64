import ChainStore.Proofs.Storage.Effect
import Mathlib.Data.List.Pairwise
import Mathlib.Order.Bounds.Basic

set_option autoImplicit false
set_option relaxedAutoImplicit false

/-!
The rows of a database and what the successful statements make of them: a block row is put in the
place of the one at its height, chosen rows are taken out and the others keep their order, and the
tip is written or cleared.
-/

namespace ChainStore.Storage

/-! ### Sweeping -/

theorem sweep_ok {α : Type} {chosen : α → Bool} {refusal : α → Option String} {rows rest : List α}
    {n : Nat} (swept : sweep chosen refusal rows = (.ok n, rest)) :
    rest = rows.filter (fun row => !chosen row) ∧ n = rows.countP chosen := by
  induction rows generalizing n rest with
  | nil =>
    simp only [sweep, Prod.mk.injEq, Except.ok.injEq] at swept
    obtain ⟨rfl, rfl⟩ := swept
    simp
  | cons row rows ih =>
    cases taken : chosen row with
    | false =>
      simp only [sweep, taken, Bool.false_eq_true, ↓reduceIte, Prod.mk.injEq] at swept
      obtain ⟨counted, rfl⟩ := swept
      obtain ⟨kept, count⟩ := ih (Prod.ext counted rfl)
      simp [taken, ← kept, count]
    | true =>
      simp only [sweep, taken, ↓reduceIte] at swept
      split at swept
      · simp at swept
      · split at swept
        · rename_i m left deeper
          simp only [Prod.mk.injEq, Except.ok.injEq] at swept
          obtain ⟨rfl, rfl⟩ := swept
          obtain ⟨kept, count⟩ := ih deeper
          simp [taken, ← kept, count]
        · simp at swept

theorem sweep_fails_iff {α : Type} {chosen : α → Bool} {refusal : α → Option String}
    {rows : List α} :
    (∃ message, (sweep chosen refusal rows).1 = .error message) ↔
      ∃ row ∈ rows, chosen row = true ∧ (refusal row).isSome := by
  induction rows with
  | nil => simp [sweep]
  | cons row rows ih =>
    simp only [List.mem_cons, exists_eq_or_imp, ← ih, sweep]
    cases chosen row with
    | false => simp
    | true =>
      cases refusal row with
      | some message => simp
      | none =>
        obtain ⟨outcome, rest⟩ := sweep chosen refusal rows
        cases outcome <;> simp

theorem sweep_unrefused {α : Type} (chosen : α → Bool) {refusal : α → Option String}
    (free : ∀ row, refusal row = none) (rows : List α) :
    (sweep chosen refusal rows).1 = .ok (rows.countP chosen) := by
  cases outcome : sweep chosen refusal rows with
  | mk swept rest =>
    cases swept with
    | ok n => rw [(sweep_ok outcome).2]
    | error message =>
      obtain ⟨row, -, -, refused⟩ := sweep_fails_iff.mp ⟨message, congrArg Prod.fst outcome⟩
      rw [free row] at refused
      cases refused

/-! ### Block rows -/

theorem Cell.isText_iff {c : Cell} {s : String} : c.isText s = true ↔ c = .text s := by
  cases c <;> simp [isText]

theorem Cell.text_inj {s t : String} : Cell.text s = Cell.text t ↔ s = t :=
  ⟨fun same => Text.ofString_inj.mp (Cell.text.inj same), fun same => same ▸ rfl⟩

theorem Cell.isText_text (s t : String) : (Cell.text t).isText s = decide (t = s) := by
  rw [Bool.eq_iff_iff, isText_iff, text_inj, decide_eq_true_iff]

namespace BlockTable

def keep (kept : BlockRow → Bool) (table : BlockTable) : BlockTable :=
  ⟨table.rows.filter kept, table.ordered.filter kept⟩

@[simp] theorem rows_keep (kept : BlockRow → Bool) (table : BlockTable) :
    (table.keep kept).rows = table.rows.filter kept := rfl

theorem remove_ok {chosen : BlockRow → Bool} {refusal : BlockRow → Option String}
    {table rest : BlockTable} {n : Nat} (removed : table.remove chosen refusal = (.ok n, rest)) :
    rest = table.keep (fun row => !chosen row) ∧ n = table.rows.countP chosen := by
  simp only [remove, Prod.mk.injEq] at removed
  obtain ⟨counted, rfl⟩ := removed
  obtain ⟨kept, count⟩ := sweep_ok (Prod.ext counted rfl)
  refine ⟨?_, count⟩
  simp only [keep, mk.injEq]
  exact kept

private theorem mem_place_iff {row r : BlockRow} {rows : List BlockRow}
    (ordered : rows.Pairwise (fun a b => a.height < b.height)) :
    r ∈ place row rows ↔ r = row ∨ (r ∈ rows ∧ r.height ≠ row.height) := by
  induction rows with
  | nil => simp [place]
  | cons first rows ih =>
    obtain ⟨above, rest⟩ := List.pairwise_cons.mp ordered
    unfold place
    split
    · rename_i lower
      rw [List.mem_cons, ih rest, List.mem_cons]
      constructor
      · rintro (rfl | rfl | ⟨old, off⟩)
        · exact .inr ⟨.inl rfl, by omega⟩
        · exact .inl rfl
        · exact .inr ⟨.inr old, off⟩
      · rintro (rfl | ⟨rfl | old, off⟩)
        · exact .inr (.inl rfl)
        · exact .inl rfl
        · exact .inr (.inr ⟨old, off⟩)
    · split
      · rename_i notLower same
        rw [List.mem_cons, List.mem_cons]
        constructor
        · rintro (rfl | old)
          · exact .inl rfl
          · have := above r old
            exact .inr ⟨.inr old, by omega⟩
        · rintro (rfl | ⟨rfl | old, off⟩)
          · exact .inl rfl
          · exact absurd same off
          · exact .inr old
      · rename_i notLower notSame
        rw [List.mem_cons, List.mem_cons]
        constructor
        · rintro (rfl | rfl | old)
          · exact .inl rfl
          · exact .inr ⟨.inl rfl, notSame⟩
          · have := above r old
            exact .inr ⟨.inr old, by omega⟩
        · rintro (rfl | ⟨old, -⟩)
          · exact .inl rfl
          · exact .inr old

theorem mem_put {row r : BlockRow} {table : BlockTable} :
    r ∈ (table.put row).rows ↔ r = row ∨ (r ∈ table.rows ∧ r.height ≠ row.height) :=
  mem_place_iff table.ordered

theorem ext_mem {table other : BlockTable} (same : ∀ row, row ∈ table.rows ↔ row ∈ other.rows) :
    table = other := by
  have distinct (table : BlockTable) : table.rows.Nodup :=
    table.ordered.imp fun {a b} below => by
      rintro rfl
      exact absurd below (lt_irrefl _)
  have perm : table.rows.Perm other.rows :=
    (List.perm_ext_iff_of_nodup (distinct table) (distinct other)).mpr same
  have rows : table.rows = other.rows :=
    perm.eq_of_pairwise (fun a b _ _ below above => absurd below (not_lt_of_gt above))
      table.ordered other.ordered
  cases table
  cases other
  cases rows
  rfl

theorem row?_eq_some {table : BlockTable} {height : Int} {row : BlockRow} :
    table.row? height = some row ↔ row ∈ table.rows ∧ row.height = height := by
  constructor
  · intro found
    exact ⟨List.mem_of_find?_eq_some found, by simpa using List.find?_some found⟩
  · rintro ⟨stored, rfl⟩
    have some_found : (table.row? row.height).isSome := by
      rw [row?, List.find?_isSome]
      exact ⟨row, stored, beq_self_eq_true row.height⟩
    obtain ⟨other, found⟩ := Option.isSome_iff_exists.mp some_found
    have level : other.height = row.height := by simpa using List.find?_some found
    have same : other = row := by
      have distinct : table.rows.Pairwise fun a b => a.height ≠ b.height :=
        table.ordered.imp fun below => below.ne
      have : Std.Symm fun a b : BlockRow => a.height ≠ b.height := ⟨fun _ _ off => off.symm⟩
      by_contra apart
      exact distinct.forall (List.mem_of_find?_eq_some found) stored apart level
    exact same ▸ found

theorem row?_put (row : BlockRow) (table : BlockTable) (height : Int) :
    (table.put row).row? height = if row.height = height then some row else table.row? height := by
  ext other
  rw [row?_eq_some, mem_put]
  split
  · rename_i here
    rw [Option.some.injEq]
    constructor
    · rintro ⟨rfl | ⟨-, off⟩, level⟩
      · rfl
      · exact absurd (level.trans here.symm) off
    · rintro rfl
      exact ⟨.inl rfl, here⟩
  · rename_i elsewhere
    rw [row?_eq_some]
    constructor
    · rintro ⟨rfl | ⟨stored, -⟩, level⟩
      · exact absurd level elsewhere
      · exact ⟨stored, level⟩
    · rintro ⟨stored, rfl⟩
      exact ⟨.inr ⟨stored, Ne.symm elsewhere⟩, rfl⟩

theorem row?_removed (removed : Int) (table : BlockTable) (height : Int) :
    (table.keep fun row => !(row.height == removed)).row? height =
      if removed = height then none else table.row? height := by
  ext other
  rw [row?_eq_some, rows_keep, List.mem_filter]
  split
  · rename_i here
    constructor
    · rintro ⟨⟨-, kept⟩, rfl⟩
      simp [here] at kept
    · intro found
      cases found
  · rename_i elsewhere
    rw [row?_eq_some]
    constructor
    · rintro ⟨⟨stored, -⟩, level⟩
      exact ⟨stored, level⟩
    · rintro ⟨stored, rfl⟩
      exact ⟨⟨stored, by simpa using Ne.symm elsewhere⟩, rfl⟩

theorem ext_row? {table other : BlockTable}
    (same : ∀ height, table.row? height = other.row? height) : table = other := by
  refine ext_mem fun row => ?_
  have found := same row.height
  constructor
  · intro stored
    exact (row?_eq_some.mp (found ▸ row?_eq_some.mpr ⟨stored, rfl⟩)).1
  · intro stored
    exact (row?_eq_some.mp (found.symm ▸ row?_eq_some.mpr ⟨stored, rfl⟩)).1

def heights (table : BlockTable) : Set Int := {h | ∃ row ∈ table.rows, row.height = h}

theorem heights_put (row : BlockRow) (table : BlockTable) :
    (table.put row).heights = insert row.height table.heights := by
  ext h
  simp only [heights, Set.mem_ofPred_eq, Set.mem_insert_iff, mem_put]
  constructor
  · rintro ⟨r, rfl | ⟨old, -⟩, rfl⟩
    · exact .inl rfl
    · exact .inr ⟨r, old, rfl⟩
  · rintro (rfl | ⟨r, old, rfl⟩)
    · exact ⟨row, .inl rfl, rfl⟩
    · by_cases same : r.height = row.height
      · exact ⟨row, .inl rfl, same.symm⟩
      · exact ⟨r, .inr ⟨old, same⟩, rfl⟩

private theorem getLast?_ordered {rows : List BlockRow} {top : BlockRow}
    (ordered : rows.Pairwise (fun a b => a.height < b.height)) (last : rows.getLast? = some top) :
    top ∈ rows ∧ ∀ row ∈ rows, row.height ≤ top.height := by
  obtain ⟨front, rfl⟩ := List.getLast?_eq_some_iff.mp last
  refine ⟨by simp, fun row member => ?_⟩
  rcases List.mem_append.mp member with early | final
  · exact ((List.pairwise_append.mp ordered).2.2 row early top (by simp)).le
  · rw [List.mem_singleton.mp final]

theorem highest?_eq_some {table : BlockTable} {top : Int} (highest : table.highest? = some top) :
    IsGreatest table.heights top := by
  obtain ⟨row, last, rfl⟩ := Option.map_eq_some_iff.mp highest
  obtain ⟨member, bound⟩ := getLast?_ordered table.ordered last
  refine ⟨⟨row, member, rfl⟩, ?_⟩
  rintro h ⟨other, stored, rfl⟩
  exact bound other stored

theorem highest?_eq_none {table : BlockTable} : table.highest? = none ↔ table.rows = [] := by
  simp [highest?]

theorem highestWithHash?_eq_some {table : BlockTable} {hash : String} {row : BlockRow}
    (highest : table.highestWithHash? hash = some row) :
    row ∈ table.rows ∧ row.hash = .text hash ∧
      ∀ other ∈ table.rows, other.hash = .text hash → other.height ≤ row.height := by
  obtain ⟨member, bound⟩ := getLast?_ordered (table.ordered.filter _) highest
  obtain ⟨stored, carries⟩ := List.mem_filter.mp member
  refine ⟨stored, Cell.isText_iff.mp carries, fun other here same => ?_⟩
  exact bound other (List.mem_filter.mpr ⟨here, Cell.isText_iff.mpr same⟩)

theorem highestWithHash?_eq_none {table : BlockTable} {hash : String} :
    table.highestWithHash? hash = none ↔ ∀ row ∈ table.rows, row.hash ≠ .text hash := by
  rw [highestWithHash?, List.getLast?_eq_none_iff, List.filter_eq_nil_iff]
  simp only [Cell.isText_iff]

theorem heights_eq_empty {table : BlockTable} : table.heights = ∅ ↔ table.rows = [] := by
  rw [Set.eq_empty_iff_forall_notMem, List.eq_nil_iff_forall_not_mem]
  constructor
  · exact fun none row member => none row.height ⟨row, member, rfl⟩
  · rintro none h ⟨row, member, -⟩
    exact none row member

end BlockTable

theorem putBlockRow_ok {row : BlockRow} {c after : Connection} {u : Unit}
    (succeeded : (putBlockRow row).run c = (.ok u, after)) :
    ∃ table, c.database.blocks = some table ∧
      after.database = { c.database with blocks := some (table.put row) } := by
  obtain ⟨table, found, acted⟩ := change_ok succeeded
  split at acted
  · simp at acted
  · exact ⟨table, found, (Prod.mk.inj acted).2.symm⟩

theorem removeBlockRows_ok {chosen : BlockRow → Bool} {c after : Connection} {n : Nat}
    (succeeded : (removeBlockRows chosen).run c = (.ok n, after)) :
    ∃ table, c.database.blocks = some table ∧ n = table.rows.countP chosen ∧
      after.database =
        { c.database with blocks := some (table.keep (fun row => !chosen row)) } := by
  obtain ⟨table, found, acted⟩ := change_ok succeeded
  split at acted
  · rename_i m rest removed
    obtain ⟨rfl, count⟩ := BlockTable.remove_ok removed
    simp only [Prod.mk.injEq, Except.ok.injEq] at acted
    exact ⟨table, found, acted.1.symm.trans count, acted.2.symm⟩
  · simp at acted

/-! ### Transaction rows -/

theorem addTransactionRow_ok {row : TransactionRow} {c after : Connection} {u : Unit}
    (succeeded : (addTransactionRow row).run c = (.ok u, after)) :
    ∃ rows, c.database.transactions = some rows ∧
      after.database = { c.database with transactions := some (rows ++ [row]) } := by
  obtain ⟨rows, found, acted⟩ := change_ok succeeded
  split at acted
  · simp at acted
  · exact ⟨rows, found, (Prod.mk.inj acted).2.symm⟩

theorem removeTransactionRows_ok {chosen : TransactionRow → Bool} {c after : Connection} {n : Nat}
    (succeeded : (removeTransactionRows chosen).run c = (.ok n, after)) :
    ∃ rows, c.database.transactions = some rows ∧ n = rows.countP chosen ∧
      after.database =
        { c.database with transactions := some (rows.filter (fun row => !chosen row)) } := by
  obtain ⟨rows, found, acted⟩ := change_ok succeeded
  split at acted
  · rename_i m rest removed
    obtain ⟨rfl, count⟩ := sweep_ok removed
    simp only [Prod.mk.injEq, Except.ok.injEq] at acted
    exact ⟨rows, found, acted.1.symm.trans count, acted.2.symm⟩
  · simp at acted

/-! ### The tip -/

theorem writeTip_ok {height : Height} {now : Int} {c after : Connection} {u : Unit}
    (succeeded : (writeTip height now).run c = (.ok u, after)) :
    c.database.tip.isSome ∧
      after.database = { c.database with tip := some (some ⟨height.toNat, now⟩) } := by
  obtain ⟨row, found, acted⟩ := change_ok succeeded
  split at acted
  · simp at acted
  · split at acted
    · simp at acted
    · exact ⟨by simp [found], (Prod.mk.inj acted).2.symm⟩

theorem clearTip_ok {c after : Connection} {u : Unit}
    (succeeded : clearTip.run c = (.ok u, after)) :
    c.database.tip.isSome ∧ after.database = { c.database with tip := some none } := by
  obtain ⟨row, found, acted⟩ := change_ok succeeded
  split at acted
  · simp at acted
  · exact ⟨by simp [found], (Prod.mk.inj acted).2.symm⟩

theorem Cell.word_ok {column : Nat} {name : String} {n : Int} {height : UInt32}
    (read : (Cell.int n).word column name = .ok height) : n = height.toNat := by
  unfold Cell.word at read
  simp only at read
  split at read
  · rename_i fits
    simp only [Except.ok.injEq] at read
    rw [← read, UInt32.toNat_ofNat']
    omega
  · simp at read

theorem readRow_ok {α β : Type} {read : α → Except Fault β} {row : Option α} {found : Option β}
    (succeeded : readRow read row = .ok found) :
    (row = none ∧ found = none) ∨ ∃ a b, row = some a ∧ read a = .ok b ∧ found = some b := by
  cases row with
  | none =>
    simp only [readRow, Except.ok.injEq] at succeeded
    exact .inl ⟨rfl, succeeded.symm⟩
  | some a =>
    cases outcome : read a with
    | error fault => simp [readRow, outcome, Except.map] at succeeded
    | ok b =>
      simp only [readRow, outcome, Except.map, Except.ok.injEq] at succeeded
      exact .inr ⟨a, b, rfl, outcome, succeeded.symm⟩

theorem tipHeight_ok {db : Database} {found : Option Height} (read : db.tipHeight = .ok found) :
    (db.tip = some none ∧ found = none) ∨
      ∃ tip height, db.tip = some (some tip) ∧ found = some height ∧
        tip.height = (height.toNat : Int) := by
  unfold Database.tipHeight Database.tipRow at read
  cases table : db.tip with
  | none => simp [table, bind, Except.bind] at read
  | some row =>
    simp only [table, bind, Except.bind] at read
    rcases readRow_ok read with ⟨rfl, rfl⟩ | ⟨tip, height, rfl, word, rfl⟩
    · exact .inl ⟨rfl, rfl⟩
    · exact .inr ⟨tip, height, rfl, rfl, Cell.word_ok word⟩

theorem highestBlock_ok {db : Database} {found : Option Height}
    (read : db.highestBlock = .ok found) :
    ∃ table, db.blocks = some table ∧
      table.highest? = found.map (fun h => (h.toNat : Int)) := by
  unfold Database.highestBlock Database.blockTable at read
  cases table : db.blocks with
  | none => simp [table, bind, Except.bind] at read
  | some rows =>
    simp only [table, bind, Except.bind] at read
    refine ⟨rows, rfl, ?_⟩
    rcases readRow_ok read with ⟨missing, rfl⟩ | ⟨top, height, present, word, rfl⟩
    · exact missing
    · rw [present, Cell.word_ok word]
      rfl

end ChainStore.Storage
