import ChainStore.Proofs.Cache.Timeless

set_option autoImplicit false
set_option relaxedAutoImplicit false

/-!
Rollbacks one after the other. Two of them leave what one to the lower of their heights leaves,
apart from the second of the tip, whether the tip agrees with the blocks or not: the first may have
moved the tip, cleared it or left it alone, and the second settles it where the one would have.
-/

namespace ChainStore.Storage

/-- A database that can be rolled back: it is serviceable, and no block is below all heights. -/
structure Database.Rollable (db : Database) : Prop where
  serviceable : db.Serviceable
  legible : ∀ h ∈ db.blockHeights, 0 ≤ h

end ChainStore.Storage

namespace ChainStore.Cache

open Storage

variable {a b : Height} {now : Int} {db : Database} {table : BlockTable}

/-! ### What is left -/

private theorem toNat_le (below : a ≤ b) : (a.toNat : Int) ≤ b.toNat := by
  exact_mod_cast UInt32.le_iff_toNat_le.mp below

private theorem min_cases (a b : Height) : a ≤ b ∧ min a b = a ∨ b ≤ a ∧ min a b = b := by
  by_cases below : a ≤ b
  · exact .inl ⟨below, if_pos below⟩
  · exact .inr ⟨(UInt32.le_total a b).resolve_left below, if_neg below⟩

private theorem upTo_min (a b : Height) (table : BlockTable) :
    (table.upTo a).upTo b = table.upTo (min a b) := by
  refine BlockTable.ext_mem fun row => ?_
  rw [BlockTable.mem_upTo, BlockTable.mem_upTo, BlockTable.mem_upTo, UInt32.toNat_min, and_assoc]
  exact and_congr_right fun _ => by omega

private theorem above_min (cell : Cell) (a b : Height) :
    cell.above (min a b).toNat = (cell.above b.toNat || cell.above a.toNat) := by
  rcases min_cases a b with ⟨below, lower⟩ | ⟨below, lower⟩
  · rw [lower]
    cases high : cell.above b.toNat with
    | false => rfl
    | true => rw [Cell.above_of_above (toNat_le below) high]; rfl
  · rw [lower]
    cases high : cell.above a.toNat with
    | false => rw [Bool.or_false]
    | true => rw [Cell.above_of_above (toNat_le below) high]; rfl

private theorem filter_above_min (a b : Height) (rows : List TransactionRow) :
    ((rows.filter fun row => !row.blockHeight.above a.toNat).filter
        fun row => !row.blockHeight.above b.toNat) =
      rows.filter fun row => !row.blockHeight.above (min a b).toNat := by
  rw [List.filter_filter]
  refine List.filter_congr fun row _ => ?_
  rw [above_min, Bool.not_or]

private theorem highest?_le {top : Int} (highest : (table.upTo a).highest? = some top) :
    top ≤ a.toNat :=
  BlockTable.le_of_mem_heights_upTo (BlockTable.highest?_eq_some highest).1

private theorem le_of_lowered {tip : Option TipRow} {row : TipRow}
    (moved : lowered a now (table.upTo a) tip = some row) : row.height ≤ a.toNat := by
  cases tip with
  | none => cases moved
  | some old =>
    rw [lowered] at moved
    split at moved
    · obtain ⟨top, highest, rfl⟩ := Option.map_eq_some_iff.mp moved
      exact highest?_le highest
    · rename_i low
      obtain rfl := Option.some.inj moved
      exact not_lt.mp low

private theorem lowered_min (a b : Height) (early late now : Int) (table : BlockTable)
    (tip : Option TipRow) :
    (lowered b late (table.upTo (min a b)) (lowered a early (table.upTo a) tip)).map
        TipRow.timeless =
      (lowered (min a b) now (table.upTo (min a b)) tip).map TipRow.timeless := by
  rcases min_cases a b with ⟨below, lower⟩ | ⟨below, lower⟩
  · rw [lower, lowered_of_le fun row moved => (le_of_lowered moved).trans (toNat_le below)]
    exact (lowered_timeless a early _ tip).trans (lowered_timeless a now _ tip).symm
  rw [lower]
  cases tip with
  | none => rfl
  | some row =>
    by_cases high : (a.toNat : Int) < row.height
    · have once : lowered b now (table.upTo b) (some row) =
          (table.upTo b).highest?.map fun top => ⟨top, now⟩ := by
        rw [lowered, if_pos ((toNat_le below).trans_lt high)]
      have first : lowered a early (table.upTo a) (some row) =
          (table.upTo a).highest?.map fun top => ⟨top, early⟩ := by
        rw [lowered, if_pos high]
      rw [once, first]
      -- The highest block left by the first rollback stays in the second, or is above its height.
      rcases BlockTable.highest?_upTo b (table.upTo a) with same | ⟨top, highest, above⟩
      · rw [BlockTable.upTo_upTo below] at same
        rw [same]
        cases highest : (table.upTo b).highest? with
        | none => rfl
        | some top =>
          rw [Option.map_some, lowered, if_neg (not_lt.mpr (highest?_le highest))]
          rfl
      · rw [highest, Option.map_some, lowered, if_pos above]
        cases (table.upTo b).highest? <;> rfl
    · have stays : lowered a early (table.upTo a) (some row) = some row := by
        rw [lowered, if_neg high]
      rw [stays]
      exact (lowered_timeless b late _ _).trans (lowered_timeless b now _ _).symm

private theorem effect_rollBack {rows : List TransactionRow} {tip : Option TipRow}
    (stored : db.blocks = some table) (filed : db.transactions = some rows)
    (present : db.tip = some tip) (height : Height) (now : Int) :
    (Operation.rollBack height).effect now db =
      { db with
        blocks := some (table.upTo height)
        transactions := some (rows.filter fun row => !row.blockHeight.above height.toNat)
        tip := some (lowered height now (table.upTo height) tip) } := by
  rw [Operation.effect, stored, filed, present]
  rfl

private theorem effect_twice {rows : List TransactionRow} {tip : Option TipRow}
    (stored : db.blocks = some table) (filed : db.transactions = some rows)
    (present : db.tip = some tip) (a b : Height) (early late : Int) :
    (Operation.rollBack b).effect late ((Operation.rollBack a).effect early db) =
      { db with
        blocks := some (table.upTo (min a b))
        transactions := some (rows.filter fun row => !row.blockHeight.above (min a b).toNat)
        tip := some
          (lowered b late (table.upTo (min a b)) (lowered a early (table.upTo a) tip)) } := by
  rw [effect_rollBack stored filed present, effect_rollBack rfl rfl rfl, upTo_min, filter_above_min]

/-- Two rollbacks leave what one to the lower height leaves. -/
private theorem effect_min (serviceable : db.Serviceable) (a b : Height) (early late now : Int) :
    ((Operation.rollBack b).effect late ((Operation.rollBack a).effect early db)).timeless =
      ((Operation.rollBack (min a b)).effect now db).timeless := by
  obtain ⟨table, stored⟩ := serviceable.blocks
  obtain ⟨rows, filed⟩ := serviceable.transactions
  obtain ⟨tip, present⟩ := serviceable.has_tip
  rw [effect_twice stored filed present, effect_rollBack stored filed present]
  simp only [Database.timeless, Option.map_some, lowered_min a b early late now]

private theorem effect_higher (serviceable : db.Serviceable) (below : a ≤ b) (early late : Int) :
    (Operation.rollBack b).effect late ((Operation.rollBack a).effect early db) =
      (Operation.rollBack a).effect early db := by
  obtain ⟨table, stored⟩ := serviceable.blocks
  obtain ⟨rows, filed⟩ := serviceable.transactions
  obtain ⟨tip, present⟩ := serviceable.has_tip
  have lower : min a b = a := if_pos below
  rw [effect_twice stored filed present, effect_rollBack stored filed present, lower,
    lowered_of_le fun row moved => (le_of_lowered moved).trans (toNat_le below)]

/-! ### What is answered -/

private def blocksAbove (height : Height) (table : BlockTable) : Nat :=
  table.rows.countP fun row => decide ((height.toNat : Int) < row.height)

private theorem blocksAbove_add (a b : Height) (table : BlockTable) :
    blocksAbove a table + blocksAbove b (table.upTo a) = blocksAbove (min a b) table := by
  have first := count_above a table
  have second := count_above b (table.upTo a)
  have single := count_above (min a b) table
  rw [upTo_min] at second
  simp only [blocksAbove]
  omega

def Step.rollBack (through : Connection) (height : Height) (now : Int) : Step :=
  .call through ⟨.rollBack height, false, now⟩

private theorem blocks_rollBack (stored : db.blocks = some table) (height : Height) (now : Int) :
    ((Operation.rollBack height).effect now db).blocks = some (table.upTo height) := by
  rw [Operation.effect, stored]
  rfl

private theorem blockHeights_rollBack (stored : db.blocks = some table) (height : Height)
    (now : Int) : ((Operation.rollBack height).effect now db).blockHeights =
      {h ∈ db.blockHeights | h ≤ height.toNat} := by
  rw [Database.blockHeights_of_table (blocks_rollBack stored height now), BlockTable.heights_upTo,
    Database.blockHeights_of_table stored]

private theorem apply_rollBack (rollable : db.Rollable) {through : Connection}
    (able : (through.holding db).writeFault? = none) (stored : db.blocks = some table)
    (height : Height) (now : Int) :
    (Step.rollBack through height now).apply db =
        (some ⟨⟨.rollBack height, false, now⟩, .ok (.count (blocksAbove height table))⟩,
          (Operation.rollBack height).effect now db) ∧
      ((Operation.rollBack height).effect now db).Rollable := by
  have answered : (Call.perform ⟨.rollBack height, false, now⟩ (through.holding db)).1 =
      .ok (.count (blocksAbove height table)) := by
    show ((Answer.count <$> rollBack height now).run (through.holding db)).1 = _
    rw [answer_map, answer_rollBack_legible rollable.serviceable able stored rollable.legible]
    rfl
  have left : (Call.perform ⟨.rollBack height, false, now⟩ (through.holding db)).2.database =
      (Operation.rollBack height).effect now db := by
    rw [perform_effect, answered]
    rfl
  refine ⟨?_, ?_, fun h remaining => ?_⟩
  · simp only [Step.rollBack, Step.apply, answered, left]
  · rw [← left]
    exact serviceable_perform _ rollable.serviceable
  · rw [blockHeights_rollBack stored] at remaining
    exact rollable.legible h remaining.1

private theorem run_rollBack (rollable : db.Rollable) {through : Connection}
    (able : (through.holding db).writeFault? = none) (stored : db.blocks = some table)
    (height : Height) (now : Int) :
    run [Step.rollBack through height now] db =
      ([⟨⟨.rollBack height, false, now⟩, .ok (.count (blocksAbove height table))⟩],
        (Operation.rollBack height).effect now db) := by
  obtain ⟨applied, -⟩ := apply_rollBack rollable able stored height now
  simp only [run, applied, Option.toList_some, List.append_nil]

private theorem run_rollBacks (rollable : db.Rollable) {first second : Connection}
    (able : (first.holding db).writeFault? = none) (able' : (second.holding db).writeFault? = none)
    (stored : db.blocks = some table) (a b : Height) (early late : Int) :
    run [Step.rollBack first a early, Step.rollBack second b late] db =
      ([⟨⟨.rollBack a, false, early⟩, .ok (.count (blocksAbove a table))⟩,
          ⟨⟨.rollBack b, false, late⟩, .ok (.count (blocksAbove b (table.upTo a)))⟩],
        (Operation.rollBack b).effect late ((Operation.rollBack a).effect early db)) := by
  obtain ⟨applied, rollable'⟩ := apply_rollBack rollable able stored a early
  have cut := blocks_rollBack stored a early
  have still_able :
      (second.holding ((Operation.rollBack a).effect early db)).writeFault? = none := able'
  rw [run, applied]
  simp only [run_rollBack rollable' still_able cut, Option.toList_some, List.singleton_append]

/-- Two rollbacks that nothing keeps out leave what a single one to the lower of their heights
leaves, apart from the second of the tip, and count as many blocks between them, in either order;
the single one leaves the blocks at or below that height. After a rollback one to the same height or
a higher one counts no block and changes nothing, not even that second. -/
theorem rollBack_composes {db : Database} (rollable : db.Rollable)
    {first second single : Connection}
    (able : ∀ through ∈ [first, second, single], (through.holding db).writeFault? = none)
    (a b : Height) (early late now : Int) :
    let twice := run [.rollBack first a early, .rollBack second b late] db
    let swapped := run [.rollBack second b early, .rollBack first a late] db
    let once := run [.rollBack single (min a b) now] db
    ∃ m n k l,
      twice.1.map Entry.answer = [.ok (.count m), .ok (.count n)] ∧
      swapped.1.map Entry.answer = [.ok (.count k), .ok (.count l)] ∧
      once.1.map Entry.answer = [.ok (.count (m + n))] ∧ m + n = k + l ∧
      once.2.blockHeights = {h ∈ db.blockHeights | h ≤ (min a b).toNat} ∧
      twice.2.timeless = once.2.timeless ∧ swapped.2.timeless = once.2.timeless ∧
      (a ≤ b → n = 0 ∧ twice.2 = (run [.rollBack first a early] db).2) := by
  intro twice swapped once
  obtain ⟨table, stored⟩ := rollable.serviceable.blocks
  have able_first := able first (by simp)
  have able_second := able second (by simp)
  have twice_eq : twice = _ := run_rollBacks rollable able_first able_second stored a b early late
  have swapped_eq : swapped = _ :=
    run_rollBacks rollable able_second able_first stored b a early late
  have once_eq : once = _ := run_rollBack rollable (able single (by simp)) stored (min a b) now
  have first_eq := run_rollBack rollable able_first stored a early
  have commutes : min b a = min a b :=
    UInt32.toNat_inj.mp (by rw [UInt32.toNat_min, UInt32.toNat_min, min_comm])
  have parts := blocksAbove_add a b table
  have swapped_parts := blocksAbove_add b a table
  rw [commutes] at swapped_parts
  refine ⟨blocksAbove a table, blocksAbove b (table.upTo a), blocksAbove b table,
    blocksAbove a (table.upTo b), ?_⟩
  rw [twice_eq, swapped_eq, once_eq, first_eq]
  refine ⟨rfl, rfl, by rw [parts]; rfl, parts.trans swapped_parts.symm,
    blockHeights_rollBack stored _ _, effect_min rollable.serviceable a b early late now, ?_,
    fun below => ⟨?_, ?_⟩⟩
  · rw [effect_min rollable.serviceable b a early late now, commutes]
  · obtain lower : min a b = a := if_pos below
    rw [lower] at parts
    omega
  · exact effect_higher rollable.serviceable below early late

/-- A tip that points at no block, one block above it, and two rollbacks below it that both move the
tip. -/
private def adrift : Database :=
  { Layout.laidOut .blank with
    blocks := some (BlockTable.empty.put (.ofBlock ⟨0, "a", "", false, []⟩) |>.put
      (.ofBlock ⟨7, "b", "", true, [1]⟩) |>.put (.ofBlock ⟨4294967295, "c", "", true, [2]⟩))
    transactions := some [.ofTransaction ⟨8, "", 0, "t", []⟩, .ofTransaction ⟨5, "", 1, "t", []⟩]
    tip := some (some ⟨12, 1⟩) }

theorem adrift_rollBack_composes :
    adrift.Rollable ∧ Layout.fresh.writeFault? = none ∧
      (let twice := run [.rollBack Layout.fresh 9 2, .rollBack Layout.fresh 5 3] adrift
      let swapped := run [.rollBack Layout.fresh 5 2, .rollBack Layout.fresh 9 3] adrift
      twice.2.timeless = swapped.2.timeless ∧ twice.2.tip = some (some ⟨0, 3⟩) ∧
        swapped.2.tip = some (some ⟨0, 2⟩) ∧
        ∃ m n, twice.1.map Entry.answer = [.ok (.count m), .ok (.count n)] ∧ m + n = 2) := by
  have rollable : adrift.Rollable := by
    refine ⟨⟨⟨some 12, rfl⟩, ⟨_, rfl⟩, ⟨_, rfl⟩, rfl⟩, fun h stored => ?_⟩
    rw [Database.blockHeights_of_table rfl] at stored
    obtain ⟨row, member, rfl⟩ := stored
    revert row
    decide +kernel
  have able : ∀ through ∈ [Layout.fresh, Layout.fresh, Layout.fresh],
      (through.holding adrift).writeFault? = none := by decide +kernel
  obtain ⟨m, n, _, _, told, -, counted, -, -, same, same', -⟩ :=
    rollBack_composes rollable able 9 5 2 3 4
  have two : (run [.rollBack Layout.fresh (min 9 5) 4] adrift).1.map Entry.answer =
      [.ok (.count 2)] := by decide +kernel
  rw [two] at counted
  refine ⟨rollable, rfl, same.trans same'.symm, by decide +kernel, by decide +kernel, m, n, told,
    ?_⟩
  simpa using counted.symm

end ChainStore.Cache
