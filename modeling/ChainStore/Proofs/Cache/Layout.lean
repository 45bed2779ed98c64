import ChainStore.Proofs.Cache.Effect

set_option autoImplicit false
set_option relaxedAutoImplicit false

/-!
What preparing does to a database: nothing, or the table of the version is added, or a database
without any table of a cache is given all of them. Rows that are there are never touched.
-/

namespace ChainStore.Cache.Layout

open Storage

private theorem createTable_ok {table : Table} {c after : Connection} {u : Unit}
    (succeeded : (createTable table).run c = (.ok u, after)) :
    c.database.has table = false ∧ after.database = c.database.withEmpty table := by
  unfold createTable at succeeded
  simp only at succeeded
  split at succeeded
  · simp at succeeded
  · rename_i missing
    split at succeeded
    · simp at succeeded
    · exact ⟨by simpa using missing, by rw [← (Prod.mk.inj succeeded).2]; rfl⟩

private theorem clean_createTable (table : Table) : (createTable table).Clean := by
  intro c fault after failed
  unfold createTable at failed
  simp only at failed
  split at failed
  · rw [← (Prod.mk.inj failed).2]
    rfl
  · split at failed
    · rw [← (Prod.mk.inj failed).2]
    · simp at failed

private theorem recordVersion_ok {version : String} {c after : Connection} {u : Unit}
    (succeeded : (recordVersion version).run c = (.ok u, after)) :
    after.database = { c.database with metadata := some (some version) } := by
  obtain ⟨_, _, acted⟩ := change_ok succeeded
  split at acted
  · simp at acted
  · exact (Prod.mk.inj acted).2.symm

def laidOut (db : Database) : Database :=
  { db with
    metadata := some (some versionText)
    tip := some none
    blocks := some BlockTable.empty
    transactions := some [] }

example : fresh.database = laidOut .blank := by decide +kernel

theorem create_ok {c after : Connection} {u : Unit} (succeeded : create.run c = (.ok u, after)) :
    c.database.tip = none ∧ c.database.blocks = none ∧ c.database.transactions = none ∧
      after.database = laidOut c.database := by
  obtain ⟨_, made, tables, recorded⟩ := Task.bind_ok (Task.atomically_ok succeeded)
  obtain ⟨_, first, tip, rest⟩ := Task.bind_ok (during_ok tables)
  obtain ⟨_, second, blocks, transactions⟩ := Task.bind_ok rest
  obtain ⟨noTip, afterTip⟩ := createTable_ok tip
  obtain ⟨noBlocks, afterBlocks⟩ := createTable_ok blocks
  obtain ⟨noTransactions, afterTransactions⟩ := createTable_ok transactions
  have final := recordVersion_ok (during_ok recorded)
  rw [afterTip] at noBlocks afterBlocks
  rw [afterBlocks] at noTransactions afterTransactions
  rw [afterTransactions] at final
  simp only [Database.has, Database.withEmpty, Option.isSome_eq_false_iff,
    Option.isNone_iff_eq_none] at noTip noBlocks noTransactions
  exact ⟨noTip, noBlocks, noTransactions, final⟩

theorem clean_create : create.Clean := Task.clean_atomically _

private theorem ensureMetadata (c : Connection) :
    ((during .creatingMetadata (ensureTable .metadata)).run c).2.database = c.database ∨
      (c.database.metadata = none ∧
        ((during .creatingMetadata (ensureTable .metadata)).run c).2.database =
          { c.database with metadata := some none }) := by
  have named : ((during .creatingMetadata (ensureTable .metadata)).run c).2 =
      ((ensureTable .metadata).run c).2 := by
    unfold during Task.mapFailure
    simp only
    split <;> simp_all
  rw [named]
  cases present : c.database.metadata with
  | some version =>
    left
    simp only [ensureTable, Database.has, present, Option.isSome_some, ↓reduceIte]
    exact still_query _ c
  | none =>
    have run_eq : (ensureTable .metadata).run c = (createTable .metadata).run c := by
      simp [ensureTable, Database.has, present]
    rw [run_eq]
    cases outcome : (createTable .metadata).run c with
    | mk answer after =>
      cases answer with
      | error fault => exact .inl (clean_createTable _ c fault after outcome)
      | ok u => exact .inr ⟨rfl, (createTable_ok outcome).2⟩

private theorem conform_database (c : Connection) :
    (conform.run c).2.database = c.database ∨
      (c.database.tip = none ∧ c.database.blocks = none ∧ c.database.transactions = none ∧
        (conform.run c).2.database = laidOut c.database) := by
  have same : ((during .readingVersion (query Database.recordedVersion)).run c).2.database =
      c.database := still_during (still_query _) c
  unfold conform
  rw [Task.run_bind]
  split
  · rename_i version middle looked
    rw [looked] at same
    cases version with
    | some text =>
      left
      simp only
      split <;> exact same
    | none =>
      simp only
      cases outcome : create.run middle with
      | mk answer after =>
        cases answer with
        | error e => exact .inl ((clean_create middle e after outcome).trans same)
        | ok u =>
          obtain ⟨noTip, noBlocks, noTransactions, final⟩ := create_ok outcome
          simp only at same
          rw [same] at noTip noBlocks noTransactions final
          exact .inr ⟨noTip, noBlocks, noTransactions, final⟩
  · rename_i e middle looked
    rw [looked] at same
    exact .inl same

private theorem conform_of_recorded {c : Connection} {text : String}
    (recorded : c.database.metadata = some (some text)) :
    (conform.run c).2.database = c.database := by
  have same : ((during .readingVersion (query Database.recordedVersion)).run c).2.database =
      c.database := still_during (still_query _) c
  unfold conform
  rw [Task.run_bind]
  split
  · rename_i version middle looked
    have read := (query_ok (during_ok looked)).1
    rw [Database.recordedVersion, recorded] at read
    rw [looked] at same
    cases read
    simp only
    split <;> exact same
  · rename_i e middle looked
    rw [looked] at same
    exact same

/-- Preparing a database leaves its rows alone: at most it adds the table of the version, and where
there is no table of a cache it lays out all of them. -/
theorem prepare_database (c : Connection) :
    (prepare.run c).2.database = c.database ∨
      (c.database.metadata = none ∧
        (prepare.run c).2.database = { c.database with metadata := some none }) ∨
      (c.database.tip = none ∧ c.database.blocks = none ∧ c.database.transactions = none ∧
        (prepare.run c).2.database = laidOut c.database) := by
  have ensured := ensureMetadata c
  unfold prepare
  rw [Task.run_bind]
  split
  · rename_i u middle first
    rw [first] at ensured
    rcases conform_database middle with same | ⟨noTip, noBlocks, noTransactions, final⟩
    · rw [same]
      rcases ensured with kept | ⟨missing, added⟩
      · exact .inl kept
      · exact .inr (.inl ⟨missing, added⟩)
    · rw [final]
      simp only at ensured
      rcases ensured with kept | ⟨missing, added⟩
      · rw [kept] at noTip noBlocks noTransactions ⊢
        exact .inr (.inr ⟨noTip, noBlocks, noTransactions, rfl⟩)
      · rw [added] at noTip noBlocks noTransactions ⊢
        exact .inr (.inr ⟨noTip, noBlocks, noTransactions, rfl⟩)
  · rename_i e middle first
    rw [first] at ensured
    rcases ensured with kept | ⟨missing, added⟩
    · exact .inl kept
    · exact .inr (.inl ⟨missing, added⟩)

theorem prepare_of_recorded {c : Connection} {text : String}
    (recorded : c.database.metadata = some (some text)) :
    (prepare.run c).2.database = c.database := by
  have ensured := (ensureMetadata c).resolve_right fun added => by
    rw [recorded] at added
    cases added.1
  unfold prepare
  rw [Task.run_bind]
  split
  · rename_i u middle first
    rw [first] at ensured
    rw [← ensured] at recorded ⊢
    exact conform_of_recorded recorded
  · rename_i e middle first
    rw [first] at ensured
    exact ensured

end ChainStore.Cache.Layout
