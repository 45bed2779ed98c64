import ChainStore.Proofs.Cache.Rollback

set_option autoImplicit false
set_option relaxedAutoImplicit false

/-!
What one rollback does, whatever the tip and the rows were: a tip that points at no block, blocks
above the tip, blocks without a tip. Nothing but a height that is a 32-bit word is asked of the
transactions; a tip or a highest block that cannot be read as one makes the rollback fail.
-/

namespace ChainStore.Storage

def Database.FiledByHeight (db : Database) : Prop :=
  ∀ row ∈ db.transactions.getD [], ∃ height : Height, row.blockHeight = .int height.toNat

def TransactionRow.reaches (height : Height) (row : TransactionRow) : Bool :=
  match row.blockHeight with
  | .int filed => decide (filed ≤ height.toNat)
  | _ => false

theorem TransactionRow.above_eq_not_reaches {row : TransactionRow} {filed : Int}
    (integer : row.blockHeight = .int filed) (height : Height) :
    row.blockHeight.above height.toNat = !row.reaches height := by
  rw [reaches, integer, Cell.above_int]
  by_cases low : filed ≤ height.toNat
  · simp [low]
  · simp [low, not_le.mp low]

namespace BlockTable

theorem rows_upTo (height : Height) (table : BlockTable) :
    (table.upTo height).rows =
      table.rows.filter (fun row => decide (row.height ≤ (height.toNat : Int))) := by
  rw [upTo, rows_keep]
  refine List.filter_congr fun row _ => ?_
  rw [Bool.eq_iff_iff]
  simp

theorem heights_upTo (height : Height) (table : BlockTable) :
    (table.upTo height).heights = {h ∈ table.heights | h ≤ height.toNat} := by
  ext h
  constructor
  · rintro ⟨row, left, rfl⟩
    obtain ⟨stored, low⟩ := mem_upTo.mp left
    exact ⟨⟨row, stored, rfl⟩, low⟩
  · rintro ⟨⟨row, stored, rfl⟩, low⟩
    exact ⟨row, mem_upTo.mpr ⟨stored, low⟩, rfl⟩

theorem le_of_mem_heights_upTo {height : Height} {table : BlockTable} {h : Int}
    (left : h ∈ (table.upTo height).heights) : h ≤ height.toNat := by
  rw [heights_upTo] at left
  exact left.2

end BlockTable

end ChainStore.Storage

namespace ChainStore.Cache

open Storage

/-- What becomes of a tip in a rollback to `height` at the second `now`, given the blocks that are
left. -/
structure TipFollows (height : Height) (now : Int) (left : BlockTable)
    (before after : Option TipRow) : Prop where
  kept : (∀ row, before = some row → row.height ≤ height.toNat) → after = before
  lowered : ∀ row, before = some row → (height.toNat : Int) < row.height →
    (left.rows = [] ∧ after = none) ∨
      ∃ top, IsGreatest left.heights top ∧ after = some ⟨top, now⟩
  landed : ∀ row, before = some row → (height.toNat : Int) < row.height →
    (height.toNat : Int) ∈ left.heights → after = some ⟨height.toNat, now⟩

private theorem isGreatest_upTo {height : Height} {table : BlockTable}
    (stored : (height.toNat : Int) ∈ (table.upTo height).heights) :
    IsGreatest (table.upTo height).heights (height.toNat : Int) :=
  ⟨stored, fun _ left => BlockTable.le_of_mem_heights_upTo left⟩

theorem lowered_of_le {height : Height} {now : Int} {table : BlockTable} {tip : Option TipRow}
    (low : ∀ row, tip = some row → row.height ≤ height.toNat) :
    lowered height now table tip = tip := by
  cases tip with
  | none => rfl
  | some row => rw [lowered, if_neg (not_lt.mpr (low row rfl))]

private theorem tipFollows_lowered (height : Height) (now : Int) (table : BlockTable)
    (tip : Option TipRow) :
    TipFollows height now (table.upTo height) tip (lowered height now (table.upTo height) tip) where
  kept := lowered_of_le
  lowered := by
    rintro row rfl high
    rw [Cache.lowered, if_pos high]
    cases highest : (table.upTo height).highest? with
    | none => exact .inl ⟨BlockTable.highest?_eq_none.mp highest, rfl⟩
    | some top => exact .inr ⟨top, BlockTable.highest?_eq_some highest, rfl⟩
  landed := by
    rintro row rfl high stored
    rw [Cache.lowered, if_pos high]
    cases highest : (table.upTo height).highest? with
    | none =>
      have empty := BlockTable.heights_eq_empty.mpr (BlockTable.highest?_eq_none.mp highest)
      rw [empty] at stored
      exact stored.elim
    | some top =>
      rw [(BlockTable.highest?_eq_some highest).unique (isGreatest_upTo stored)]
      rfl

theorem count_above (height : Height) (table : BlockTable) :
    table.rows.countP (fun row => decide ((height.toNat : Int) < row.height)) +
      (table.upTo height).rows.length = table.rows.length := by
  let above (row : BlockRow) : Bool := decide ((height.toNat : Int) < row.height)
  have parted : table.rows.length =
      table.rows.countP above + table.rows.countP (fun row => ¬ above row) :=
    List.length_eq_countP_add_countP above
  have left : (table.upTo height).rows.length = table.rows.countP (fun row => ¬ above row) := by
    simp only [BlockTable.upTo, BlockTable.rows_keep, List.countP_eq_length_filter, above,
      Bool.not_eq_true, Bool.decide_eq_false]
  rw [left]
  exact parted.symm

/-- A rollback that succeeds leaves exactly the blocks and the transactions that are not above its
height, in their order and as they were, counts the blocks that are gone, and moves the tip only if
it was above: onto the highest block left, which is at the height itself if one is there, or away
if there is none. -/
theorem rollBack_exact {height : Height} {fired : Bool} {now : Int} {c after : Connection} {n : Nat}
    (filed : c.database.FiledByHeight)
    (rolled : Call.perform ⟨.rollBack height, fired, now⟩ c = (.ok (.count n), after)) :
    ∃ table left transactions tip tip',
      c.database.blocks = some table ∧ c.database.transactions = some transactions ∧
      c.database.tip = some tip ∧
      after.database =
        { c.database with
          blocks := some left
          transactions := some (transactions.filter (TransactionRow.reaches height))
          tip := some tip' } ∧
      left.rows = table.rows.filter (fun row => decide (row.height ≤ (height.toNat : Int))) ∧
      n + left.rows.length = table.rows.length ∧
      TipFollows height now left tip tip' := by
  obtain ⟨count, succeeded, counted⟩ := Task.map_ok (perform_ok rolled)
  obtain rfl : n = count := Answer.count.inj counted
  obtain ⟨table, tip, transactions, stored, present, listed, rfl, final⟩ := rollBack_ok succeeded
  have kept : transactions.filter (fun row => !row.blockHeight.above height.toNat) =
      transactions.filter (TransactionRow.reaches height) := by
    refine List.filter_congr fun row member => ?_
    obtain ⟨_, integer⟩ := filed row (by rw [listed]; exact member)
    rw [TransactionRow.above_eq_not_reaches integer, Bool.not_not]
  rw [kept] at final
  exact ⟨table, table.upTo height, transactions, tip, _, stored, listed, present, final,
    BlockTable.rows_upTo height table, count_above height table,
    tipFollows_lowered height now table tip⟩

/-- A tip that points at no block, a block above it, and transactions on both sides of the height to
which `stray` is rolled back. -/
private def stray : Database :=
  { Layout.laidOut .blank with
    blocks := some (BlockTable.empty.put (.ofBlock ⟨0, "a", "", false, []⟩) |>.put
      (.ofBlock ⟨7, "b", "", true, [1]⟩) |>.put (.ofBlock ⟨4294967295, "c", "", true, [2]⟩))
    transactions := some [.ofTransaction ⟨8, "", 0, "t", []⟩, .ofTransaction ⟨7, "b", 1, "t", []⟩]
    tip := some (some ⟨12, 1⟩) }

theorem stray_rollBack_exact :
    stray.FiledByHeight ∧
      (Call.perform ⟨.rollBack 7, false, 5⟩ (Layout.fresh.holding stray)).1 = .ok (.count 1) ∧
      (Call.perform ⟨.rollBack 7, false, 5⟩ (Layout.fresh.holding stray)).2.database.tip =
        some (some ⟨7, 5⟩) := by
  have filed : stray.FiledByHeight := by
    intro row member
    rcases List.mem_cons.mp member with rfl | member
    · exact ⟨8, rfl⟩
    · exact ⟨7, by rw [List.mem_singleton.mp member]; rfl⟩
  obtain ⟨after, rolled⟩ : ∃ after,
      Call.perform ⟨.rollBack 7, false, 5⟩ (Layout.fresh.holding stray) =
        (.ok (.count 1), after) := ⟨_, Prod.ext (by decide +kernel) rfl⟩
  obtain ⟨table, left, transactions, tip, tip', stored, -, present, final, kept, -, follows⟩ :=
    rollBack_exact filed rolled
  obtain rfl : tip = some ⟨12, 1⟩ := (Option.some.inj present).symm
  obtain rfl : _ = table := Option.some.inj stored
  have at_height : (7 : Int) ∈ left.heights := by
    refine ⟨.ofBlock ⟨7, "b", "", true, [1]⟩, ?_, rfl⟩
    rw [kept]
    decide +kernel
  rw [rolled, final]
  exact ⟨filed, rfl, congrArg some (follows.landed _ rfl (by decide) at_height)⟩

end ChainStore.Cache
