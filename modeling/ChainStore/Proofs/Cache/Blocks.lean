import ChainStore.Proofs.Cache.History
import ChainStore.Proofs.Cache.Lookup
import Mathlib.Data.Set.Card

set_option autoImplicit false
set_option relaxedAutoImplicit false

/-!
The blocks of a cache as its history leaves them: at each height the block that was stored there
last, whether together with the tip or alone, unless it has been removed since by its height or by a
rollback below it.
-/

namespace ChainStore.Cache

open Storage

def Entry.stored? (entry : Entry) : Option Block :=
  match entry.call.operation, entry.answer with
  | .acceptBlock block, .ok _ => some block
  | .putBlock block, .ok _ => some block
  | _, _ => none

def Entry.removesBlock (entry : Entry) (height : Height) : Bool :=
  match entry.call.operation, entry.answer with
  | .removeBlock removed, .ok _ => removed == height
  | .rollBack kept, .ok _ => decide (kept < height)
  | _, _ => false

/-- The block that was stored last at a height and has not been removed since. -/
def lastWrite? (height : Height) (entries : List Entry) : Option Block :=
  ((surviving Entry.stored? (fun entry block => entry.removesBlock block.height) entries).filter
    fun block => block.height == height).getLast?

theorem height_of_lastWrite? {height : Height} {entries : List Entry} {block : Block}
    (last : lastWrite? height entries = some block) : block.height = height := by
  have member := List.mem_of_getLast? last
  simpa using (List.mem_filter.mp member).2

theorem lastWrite?_concat (height : Height) (entries : List Entry) (entry : Entry) :
    lastWrite? height (entries ++ [entry]) =
      (entry.stored?.filter fun block => block.height == height).or
        (if entry.removesBlock height then none else lastWrite? height entries) := by
  have stored : (entry.stored?.toList.filter fun block => block.height == height).getLast? =
      entry.stored?.filter fun block => block.height == height := by
    cases entry.stored? with
    | none => rfl
    | some block => cases here : block.height == height <;> simp [Option.filter, here]
  have older (blocks : List Block) :
      ((blocks.filter fun block => !entry.removesBlock block.height).filter
        fun block => block.height == height).getLast? =
          if entry.removesBlock height then none
          else (blocks.filter fun block => block.height == height).getLast? := by
    have here : ∀ block : Block, ((block.height == height) && !entry.removesBlock block.height) =
        ((block.height == height) && !entry.removesBlock height) := by
      intro block
      by_cases same : block.height = height
      · rw [same]
      · rw [beq_false_of_ne same, Bool.false_and, Bool.false_and]
    rw [List.filter_filter, List.filter_congr fun block _ => here block]
    cases entry.removesBlock height with
    | false => simp only [Bool.not_false, Bool.and_true, Bool.false_eq_true, ↓reduceIte]
    | true => simp
  rw [lastWrite?, surviving_concat, List.filter_append, List.getLast?_append, stored, older]
  rfl

/-- A table whose rows are the blocks that were stored last, one a height. -/
def Mirrors (entries : List Entry) (table : BlockTable) : Prop :=
  ∀ row, row ∈ table.rows ↔
    ∃ block, lastWrite? block.height entries = some block ∧ row = .ofBlock block

private theorem mirrors_put {entries : List Entry} {table : BlockTable} {entry : Entry}
    {block : Block} (mirrors : Mirrors entries table) (stored : entry.stored? = some block)
    (spares : ∀ height, entry.removesBlock height = false) :
    Mirrors (entries ++ [entry]) (table.put (.ofBlock block)) := by
  have last (height : Height) : lastWrite? height (entries ++ [entry]) =
      if block.height = height then some block else lastWrite? height entries := by
    by_cases same : block.height = height <;>
      simp [lastWrite?_concat, Option.filter, stored, spares, same]
  intro row
  rw [BlockTable.mem_put, mirrors row]
  constructor
  · rintro (rfl | ⟨⟨other, found, rfl⟩, elsewhere⟩)
    · exact ⟨block, by simp [last], rfl⟩
    · have apart : block.height ≠ other.height := by
        intro same
        exact elsewhere (by simp [BlockRow.ofBlock, same])
      exact ⟨other, by simp [last, apart, found], rfl⟩
  · rintro ⟨other, found, rfl⟩
    rw [last] at found
    split at found
    · exact .inl (congrArg _ (Option.some.inj found).symm)
    · rename_i apart
      refine .inr ⟨⟨other, found, rfl⟩, fun same => apart ?_⟩
      have same : (other.height.toNat : Int) = block.height.toNat := same
      exact UInt32.toNat_inj.mp (Int.ofNat_inj.mp same.symm)

private theorem mirrors_keep {entries : List Entry} {table : BlockTable} {entry : Entry}
    {kept : BlockRow → Bool} (mirrors : Mirrors entries table) (stored : entry.stored? = none)
    (agree : ∀ block : Block, kept (.ofBlock block) = !entry.removesBlock block.height) :
    Mirrors (entries ++ [entry]) (table.keep kept) := by
  have last (height : Height) : lastWrite? height (entries ++ [entry]) =
      if entry.removesBlock height then none else lastWrite? height entries := by
    simp [lastWrite?_concat, stored]
  intro row
  rw [BlockTable.rows_keep, List.mem_filter, mirrors row]
  constructor
  · rintro ⟨⟨block, found, rfl⟩, stays⟩
    rw [agree, Bool.not_eq_true'] at stays
    exact ⟨block, by simp [last, stays, found], rfl⟩
  · rintro ⟨block, found, rfl⟩
    rw [last] at found
    split at found
    · cases found
    · rename_i stays
      exact ⟨⟨block, found, rfl⟩, by simpa [agree] using stays⟩

private theorem mirrors_same {entries : List Entry} {table : BlockTable} {entry : Entry}
    (mirrors : Mirrors entries table) (stored : entry.stored? = none)
    (spares : ∀ height, entry.removesBlock height = false) :
    Mirrors (entries ++ [entry]) table := by
  have same (height : Height) :
      lastWrite? height (entries ++ [entry]) = lastWrite? height entries := by
    simp [lastWrite?_concat, stored, spares]
  simpa only [Mirrors, same] using mirrors

private theorem blocks_effect {entries : List Entry} {db : Database} {table : BlockTable}
    (held : db.blocks = some table) (mirrors : Mirrors entries table) (entry : Entry) :
    ∃ after, (entry.effect db).blocks = some after ∧ Mirrors (entries ++ [entry]) after := by
  obtain ⟨⟨operation, fired, now⟩, answer⟩ := entry
  cases answer with
  | error e =>
    refine ⟨table, held, mirrors_same mirrors ?_ fun height => ?_⟩ <;> cases operation <;> rfl
  | ok answer =>
    cases operation with
    | acceptBlock block | putBlock block =>
      refine ⟨table.put (.ofBlock block), ?_, mirrors_put mirrors rfl fun height => rfl⟩
      exact congrArg (Option.map (BlockTable.put (.ofBlock block))) held
    | removeBlock removed =>
      refine ⟨table.keep fun row => !(row.height == removed.toNat), ?_,
        mirrors_keep mirrors rfl fun block => ?_⟩
      · exact congrArg (Option.map (BlockTable.keep _)) held
      · simp only [BlockRow.ofBlock, Entry.removesBlock, beq_eq_decide, Int.ofNat_inj,
          UInt32.toNat_inj, eq_comm]
    | rollBack height =>
      refine ⟨table.keep fun row => !decide ((height.toNat : Int) < row.height), ?_,
        mirrors_keep mirrors rfl fun block => ?_⟩
      · exact congrArg (Option.map (BlockTable.keep _)) held
      · simp only [BlockRow.ofBlock, Entry.removesBlock, Int.ofNat_lt, UInt32.lt_iff_toNat_lt]
    | _ => exact ⟨table, held, mirrors_same mirrors rfl fun height => rfl⟩

theorem blocks_run {steps : List Step} (spared : ∀ step ∈ steps, step.spares .blocks = true)
    {db : Database} (empty : db.blocks = some BlockTable.empty) :
    ∃ table, (run steps db).2.blocks = some table ∧ Mirrors (run steps db).1 table := by
  refine run_keeps (P := fun entries db => ∃ table, db.blocks = some table ∧ Mirrors entries table)
    ?_ ?_ spared ?_
  · rintro entries call c ⟨table, held, mirrors⟩
    rw [perform_effect]
    exact blocks_effect held mirrors _
  · rintro entries step db ⟨table, held, mirrors⟩ spares quiet
    have present : db.has .blocks = true := by simp [Database.has, held]
    have same : (step.apply db).2.blocks = db.blocks :=
      agree_of_quiet .blocks (by simp) present spares quiet
    exact ⟨table, same.trans held, mirrors⟩
  · refine ⟨BlockTable.empty, empty, fun row => ?_⟩
    simp [BlockTable.empty, lastWrite?, surviving]

/-! ### Lookups and removals -/

private theorem row?_of_mirrors {entries : List Entry} {table : BlockTable}
    (mirrors : Mirrors entries table) (height : Height) :
    table.row? height.toNat = (lastWrite? height entries).map .ofBlock := by
  have at_height {block : Block} (same : (BlockRow.ofBlock block).height = height.toNat) :
      block.height = height := UInt32.toNat_inj.mp (Int.ofNat_inj.mp same)
  cases found : table.row? height.toNat with
  | none =>
    cases last : lastWrite? height entries with
    | none => rfl
    | some block =>
      have here := height_of_lastWrite? last
      have member := (mirrors (.ofBlock block)).mpr ⟨block, here ▸ last, rfl⟩
      have missed := List.find?_eq_none.mp found _ member
      exact absurd (by simp [BlockRow.ofBlock, here]) missed
  | some row =>
    obtain ⟨block, last, rfl⟩ := (mirrors row).mp (List.mem_of_find?_eq_some found)
    have here := at_height (by simpa using List.find?_some found)
    rw [← here, last]
    rfl

private theorem existed_of_mirrors {entries : List Entry} {table : BlockTable}
    (mirrors : Mirrors entries table) (height : Height) :
    decide (0 < table.rows.countP fun row => row.height == (height.toNat : Int)) =
      (lastWrite? height entries).isSome := by
  have found : (table.row? height.toNat).isSome = (lastWrite? height entries).isSome := by
    rw [row?_of_mirrors mirrors, Option.isSome_map]
  rw [← found, Bool.eq_iff_iff, decide_eq_true_iff, List.countP_pos_iff, BlockTable.row?,
    List.find?_isSome]

private theorem count_of_mirrors {entries : List Entry} {table : BlockTable}
    (mirrors : Mirrors entries table) (height : Height) :
    (table.rows.countP fun row => decide ((height.toNat : Int) < row.height)) =
      Set.ncard {above : Height | height < above ∧ (lastWrite? above entries).isSome} := by
  let position (above : Height) : Int := above.toNat
  have injective : Function.Injective position :=
    fun _ _ same => UInt32.toNat_inj.mp (Int.ofNat_inj.mp same)
  let rows := table.rows.filter fun row => decide ((height.toNat : Int) < row.height)
  have distinct : (rows.map BlockRow.height).Nodup :=
    (List.pairwise_map.mpr (table.ordered.filter _)).imp ne_of_lt
  have same : position '' {above : Height | height < above ∧ (lastWrite? above entries).isSome} =
      ((rows.map BlockRow.height).toFinset : Set Int) := by
    ext h
    simp only [Set.mem_image, Finset.mem_coe, List.mem_toFinset, List.mem_map]
    constructor
    · rintro ⟨above, ⟨higher, written⟩, rfl⟩
      obtain ⟨block, last⟩ := Option.isSome_iff_exists.mp written
      obtain rfl := height_of_lastWrite? last
      have stored := (mirrors (.ofBlock block)).mpr ⟨block, last, rfl⟩
      have beyond : (height.toNat : Int) < block.height.toNat := by exact_mod_cast higher
      exact ⟨.ofBlock block, List.mem_filter.mpr ⟨stored, decide_eq_true beyond⟩, rfl⟩
    · rintro ⟨row, chosen, rfl⟩
      obtain ⟨stored, beyond⟩ := List.mem_filter.mp chosen
      obtain ⟨block, last, rfl⟩ := (mirrors row).mp stored
      have higher : (height.toNat : Int) < block.height.toNat := of_decide_eq_true beyond
      exact ⟨block.height, ⟨by exact_mod_cast higher, by rw [last]; rfl⟩, rfl⟩
  rw [← Set.ncard_image_of_injective _ injective, same, Set.ncard_coe_finset,
    List.toFinset_card_of_nodup distinct, List.length_map, List.countP_eq_length_filter]

private theorem lookup_of_mirrors {α : Type} (read : BlockRow → Except Fault α) (f : Block → α)
    (agree : ∀ block, read (.ofBlock block) = .ok (f block)) {entries : List Entry} {db : Database}
    {table : BlockTable} (held : db.blocks = some table) (mirrors : Mirrors entries table)
    (height : Height) :
    (db.blockTable >>= fun table => readRow read (table.row? height.toNat)) =
      .ok ((lastWrite? height entries).map f) := by
  rw [Database.blockTable_of_table held]
  show readRow read (table.row? height.toNat) = _
  rw [row?_of_mirrors mirrors]
  cases lastWrite? height entries with
  | none => rfl
  | some block =>
    simp only [Option.map_some, readRow, agree]
    rfl

private theorem answers_of_mirrors {entries : List Entry} {reader : Connection} {table : BlockTable}
    (held : reader.database.blocks = some table) (mirrors : Mirrors entries table)
    (able : reader.readFault? = none) (height : Height) (now : Int) :
    let answerTo (operation : Operation) := (Call.perform ⟨operation, false, now⟩ reader).1
    match lastWrite? height entries with
    | some block =>
      answerTo (.blockAt height) = .ok (.block block) ∧
        answerTo (.payloadAt height) = .ok (.payload block.payload) ∧
        answerTo (.hashAt height) = .ok (.hash block.hash)
    | none =>
      ∀ operation ∈ [.blockAt height, .payloadAt height, .hashAt height],
        answerTo operation = .error (.notFound (.blockAt height)) := by
  intro answerTo
  have block := answer_of_read (.readingBlock height) (.blockAt height) (Database.blockAt height)
    able (lookup_of_mirrors _ id BlockRow.toBlock_ofBlock held mirrors height)
  have payload := answer_of_read (.readingBlock height) (.blockAt height) (Database.payloadAt height)
    able (lookup_of_mirrors _ Block.payload (fun _ => rfl) held mirrors height)
  have hash := answer_of_read (.readingHash height) (.blockAt height) (Database.hashAt height)
    able (lookup_of_mirrors _ Block.hash (fun block => Cell.string_ofString 0 "hash" block.hash) held
      mirrors height)
  have whole : answerTo (.blockAt height) = _ := (answer_map _ _ reader).trans (congrArg _ block)
  have inner : answerTo (.payloadAt height) = _ :=
    (answer_map _ _ reader).trans (congrArg _ payload)
  have name : answerTo (.hashAt height) = _ := (answer_map _ _ reader).trans (congrArg _ hash)
  cases last : lastWrite? height entries with
  | some block =>
    rw [last] at whole inner name
    exact ⟨whole, inner, name⟩
  | none =>
    rw [last] at whole inner name
    intro operation asked
    rcases List.mem_cons.mp asked with rfl | asked
    · exact whole
    · rcases List.mem_cons.mp asked with rfl | asked
      · exact inner
      · rw [List.mem_singleton.mp asked]
        exact name

private theorem answer_removeBlock {entries : List Entry} {c : Connection} {table : BlockTable}
    (held : c.database.blocks = some table) (mirrors : Mirrors entries table) {call : Call}
    {height : Height} (removal : call.operation = .removeBlock height) {answer : Answer}
    (succeeded : (call.perform c).1 = .ok answer) :
    answer = .existed (lastWrite? height entries).isSome := by
  have done := perform_ok (Prod.ext succeeded rfl)
  rw [removal] at done
  obtain ⟨existed, removed, rfl⟩ := Task.map_ok done
  obtain ⟨n, deleted, rfl⟩ := Task.map_ok removed
  obtain ⟨found, there, rfl, -⟩ := removeBlockRows_ok (during_ok deleted)
  obtain rfl := Option.some.inj (held.symm.trans there)
  exact congrArg _ (existed_of_mirrors mirrors height)

private theorem answer_rollBack {entries : List Entry} {c : Connection} {table : BlockTable}
    (held : c.database.blocks = some table) (mirrors : Mirrors entries table) {call : Call}
    {height : Height} (rollback : call.operation = .rollBack height) {answer : Answer}
    (succeeded : (call.perform c).1 = .ok answer) :
    answer = .count (Set.ncard
      {above : Height | height < above ∧ (lastWrite? above entries).isSome}) := by
  have done := perform_ok (Prod.ext succeeded rfl)
  rw [rollback] at done
  obtain ⟨n, rolled, rfl⟩ := Task.map_ok done
  obtain ⟨found, row, transactions, there, -, -, rfl, -⟩ := rollBack_ok rolled
  obtain rfl := Option.some.inj (held.symm.trans there)
  exact congrArg _ (count_of_mirrors mirrors height)

/-! ### Histories -/

/-- After any history of a cache whose blocks nobody else touches, the lookups at a height that can
read answer with the block that was stored there last, if it has not been removed since. On the way,
every removal at a height has told whether there was such a block, and every rollback has counted
the heights above its own where there was one. -/
theorem blocks_of_history (base : Database) {steps : List Step}
    (spared : ∀ step ∈ steps, step.spares .blocks = true) :
    let ran := run steps (Layout.laidOut base)
    (∀ (height : Height) (now : Int) (reader : Connection),
      reader.database = ran.2 → reader.readFault? = none →
        let answerTo (operation : Operation) := (Call.perform ⟨operation, false, now⟩ reader).1
        match lastWrite? height ran.1 with
        | some block =>
          answerTo (.blockAt height) = .ok (.block block) ∧
            answerTo (.payloadAt height) = .ok (.payload block.payload) ∧
            answerTo (.hashAt height) = .ok (.hash block.hash)
        | none =>
          ∀ operation ∈ [.blockAt height, .payloadAt height, .hashAt height],
            answerTo operation = .error (.notFound (.blockAt height))) ∧
    (∀ (before after : List Entry) (removal : Entry) (height : Height) (answer : Answer),
      ran.1 = before ++ removal :: after → removal.call.operation = .removeBlock height →
        removal.answer = .ok answer → answer = .existed (lastWrite? height before).isSome) ∧
    ∀ (before after : List Entry) (rollback : Entry) (height : Height) (answer : Answer),
      ran.1 = before ++ rollback :: after → rollback.call.operation = .rollBack height →
        rollback.answer = .ok answer →
          answer = .count (Set.ncard
            {above : Height | height < above ∧ (lastWrite? above before).isSome}) := by
  intro ran
  have at_moment {earlier later : List Step} (split : steps = earlier ++ later) :=
    blocks_run (fun step member => spared step (split ▸ List.mem_append_left later member))
      (show (Layout.laidOut base).blocks = some BlockTable.empty from rfl)
  refine ⟨?lookups, ?removals, ?rollbacks⟩
  case lookups =>
    intro height now reader there able
    obtain ⟨table, held, mirrors⟩ := at_moment (List.append_nil steps).symm
    exact answers_of_mirrors (there ▸ held) mirrors able height now
  case removals =>
    intro before after removal height answer split removes succeeded
    obtain ⟨earlier, through, later, moment, rfl, answered⟩ := moment_of_entry split
    obtain ⟨table, held, mirrors⟩ := at_moment moment
    exact answer_removeBlock (c := through.holding _) held mirrors removes
      (answered.symm.trans succeeded)
  case rollbacks =>
    intro before after rollback height answer split rolls succeeded
    obtain ⟨earlier, through, later, moment, rfl, answered⟩ := moment_of_entry split
    obtain ⟨table, held, mirrors⟩ := at_moment moment
    exact answer_rollBack (c := through.holding _) held mirrors rolls
      (answered.symm.trans succeeded)

/-- A block that is replaced and removed, a second removal, a refused block, a rollback below two
blocks of which one is at the last height of all, and a block at the first height once more. -/
private def storings : List Step :=
  let accept (height : Height) (payload : Payload) : Step :=
    .call Layout.fresh ⟨.acceptBlock ⟨height, "ab", "", true, payload⟩, false, 1⟩
  let put (height : Height) (payload : Payload) : Step :=
    .call Layout.fresh ⟨.putBlock ⟨height, "", "", false, payload⟩, false, 2⟩
  let remove (height : Height) : Step := .call Layout.fresh ⟨.removeBlock height, false, 3⟩
  [accept 5 [1], put 5 [2], remove 5, remove 5, accept 4294967295 [], put 7 [3],
    .interfere (.reject ⟨.blocks, .insert, "no", some 5⟩), accept 5 [4],
    .interfere (.allow .blocks .insert), .call Layout.fresh ⟨.rollBack 6, false, 4⟩, put 5 [5]]

theorem restored_block_of_history :
    (∀ step ∈ storings, step.spares .blocks = true) ∧
      (run storings (Layout.laidOut .blank)).1.map Entry.answer =
        [.ok .done, .ok .done, .ok (.existed true), .ok (.existed false), .ok .done, .ok .done,
          .error (.storage (.writingBlock 5 "ab") (.rejected "no")), .ok (.count 2), .ok .done] ∧
      (Call.perform ⟨.blockAt 5, false, 9⟩
          (Layout.fresh.holding (run storings (Layout.laidOut .blank)).2)).1 =
        .ok (.block ⟨5, "", "", false, [5]⟩) := by
  have spared : ∀ step ∈ storings, step.spares .blocks = true := by decide
  have last : lastWrite? 5 (run storings (Layout.laidOut .blank)).1 =
      some ⟨5, "", "", false, [5]⟩ := by decide +kernel
  have found := (blocks_of_history .blank spared).1 5 9
    (Layout.fresh.holding (run storings (Layout.laidOut .blank)).2) rfl (by decide +kernel)
  simp only [last] at found
  exact ⟨spared, by decide +kernel, found.1⟩

end ChainStore.Cache
