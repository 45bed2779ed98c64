import ChainStore.Proofs.Cache.Blocks
import ChainStore.Proofs.Cache.Rollback

set_option autoImplicit false
set_option relaxedAutoImplicit false

/-!
Lookups by hash. A hash may stand in several blocks, and blocks are replaced, removed and rolled
back under it; after any history it leads to the whole block at the greatest height that carries it
then, the same that a lookup at that height finds.
-/

namespace ChainStore.Storage

def Database.carriers (hash : String) (db : Database) : Set BlockRow :=
  {row | ∃ table, db.blocks = some table ∧ row ∈ table.rows ∧ row.hash = .text hash}

theorem Database.carriers_of_table {db : Database} {table : BlockTable}
    (stored : db.blocks = some table) (hash : String) :
    db.carriers hash = {row | row ∈ table.rows ∧ row.hash = .text hash} := by
  ext row
  constructor
  · rintro ⟨other, present, carries⟩
    obtain rfl := Option.some.inj (stored.symm.trans present)
    exact carries
  · exact fun carries => ⟨table, stored, carries⟩

end ChainStore.Storage

namespace ChainStore.Cache

open Storage

/-- What becomes of the rows that carry a hash when an operation succeeds: a block that is stored
takes the place of the one at its height, and carries the hash or not. -/
def Operation.carriers (hash : String) (before : Set BlockRow) : Operation → Set BlockRow
  | .acceptBlock block | .putBlock block =>
    {row | row = .ofBlock block ∧ block.hash = hash ∨
      row ∈ before ∧ row.height ≠ block.height.toNat}
  | .removeBlock height => {row ∈ before | row.height ≠ height.toNat}
  | .rollBack height => {row ∈ before | row.height ≤ height.toNat}
  | .tipHeight | .tip | .setTip _ | .payloadAt _ | .blockAt _ | .hashAt _ | .payloadWithHash _
  | .blockWithHash _ | .addTransaction _ | .transaction _ | .removeTransactions _ => before

def answerTo (reader : Connection) (now : Int) (operation : Operation) : Except Error Answer :=
  (Call.perform ⟨operation, false, now⟩ reader).1

/-- How a hash is looked up, given the rows that carry it: the whole block of the highest of them is
found, as it is at its height, or nothing if there is none. -/
structure Resolves (reader : Connection) (now : Int) (hash : String) (carriers : Set BlockRow) :
    Prop where
  found_iff : (∃ block, answerTo reader now (.blockWithHash hash) = .ok (.block block)) ↔
    carriers.Nonempty
  highest : ∀ block, answerTo reader now (.blockWithHash hash) = .ok (.block block) →
    block.hash = hash ∧ .ofBlock block ∈ carriers ∧
      ∀ row ∈ carriers, row.height ≤ block.height.toNat
  agrees : ∀ block, answerTo reader now (.blockWithHash hash) = .ok (.block block) →
    answerTo reader now (.blockAt block.height) = .ok (.block block) ∧
      answerTo reader now (.payloadWithHash hash) = .ok (.payload block.payload) ∧
      answerTo reader now (.payloadAt block.height) = .ok (.payload block.payload)
  missing : ¬ carriers.Nonempty → ∀ operation ∈ [.blockWithHash hash, .payloadWithHash hash],
    answerTo reader now operation = .error (.notFound (.blockWithHash hash))

/-! ### One moment -/

variable {hash : String}

private theorem carriers_effect {db : Database} {table : BlockTable}
    (stored : db.blocks = some table) (operation : Operation) (now : Int) :
    (operation.effect now db).carriers hash = operation.carriers hash (db.carriers hash) := by
  have mapped {act : BlockTable → BlockTable} {after : Database}
      (same : after.blocks = db.blocks.map act) :
      after.carriers hash = {row | row ∈ (act table).rows ∧ row.hash = .text hash} :=
    Database.carriers_of_table (same.trans (by rw [stored]; rfl)) hash
  have before := Database.carriers_of_table stored hash
  cases operation with
  | acceptBlock block | putBlock block =>
    rw [mapped rfl, before]
    ext row
    show (row ∈ (table.put (.ofBlock block)).rows ∧ row.hash = .text hash) ↔
      row = .ofBlock block ∧ block.hash = hash ∨
        (row ∈ table.rows ∧ row.hash = .text hash) ∧ row.height ≠ block.height.toNat
    rw [BlockTable.mem_put]
    constructor
    · rintro ⟨rfl | ⟨old, elsewhere⟩, carries⟩
      · exact .inl ⟨rfl, Cell.text_inj.mp carries⟩
      · exact .inr ⟨⟨old, carries⟩, elsewhere⟩
    · rintro (⟨rfl, rfl⟩ | ⟨⟨old, carries⟩, elsewhere⟩)
      · exact ⟨.inl rfl, rfl⟩
      · exact ⟨.inr ⟨old, elsewhere⟩, carries⟩
  | removeBlock height =>
    rw [mapped rfl, before]
    ext row
    show (row ∈ (table.keep _).rows ∧ row.hash = .text hash) ↔
      (row ∈ table.rows ∧ row.hash = .text hash) ∧ row.height ≠ height.toNat
    rw [BlockTable.rows_keep, List.mem_filter, and_right_comm]
    simp
  | rollBack height =>
    rw [mapped rfl, before]
    ext row
    show (row ∈ (table.upTo height).rows ∧ row.hash = .text hash) ↔
      (row ∈ table.rows ∧ row.hash = .text hash) ∧ row.height ≤ height.toNat
    rw [BlockTable.mem_upTo, and_right_comm]
  | tipHeight | tip | setTip _ | payloadAt _ | blockAt _ | hashAt _ | payloadWithHash _
  | blockWithHash _ | addTransaction _ | transaction _ | removeTransactions _ => rfl

private theorem answers_of_hash {reader : Connection} {table : BlockTable}
    (stored : reader.database.blocks = some table) (able : reader.readFault? = none) (now : Int)
    (found : Option Block) : table.highestWithHash? hash = found.map .ofBlock →
      match found with
      | some block =>
        answerTo reader now (.blockWithHash hash) = .ok (.block block) ∧
          answerTo reader now (.payloadWithHash hash) = .ok (.payload block.payload)
      | none =>
        ∀ operation ∈ [.blockWithHash hash, .payloadWithHash hash],
          answerTo reader now operation = .error (.notFound (.blockWithHash hash)) := by
  intro highest
  have read : reader.database.blockWithHash hash = .ok found := by
    rw [Database.blockWithHash, Database.blockTable_of_table stored]
    show readRow BlockRow.toBlock (table.highestWithHash? hash) = _
    rw [highest]
    cases found with
    | none => rfl
    | some block => rw [Option.map_some, readRow, BlockRow.toBlock_ofBlock]; rfl
  have looked : ((blockWithHash hash).run reader).1 = _ :=
    answer_of_read (.readingBlockByHash hash) (.blockWithHash hash) _ able read
  have whole : answerTo reader now (.blockWithHash hash) = _ :=
    (answer_map Answer.block _ reader).trans (congrArg _ looked)
  have inner : answerTo reader now (.payloadWithHash hash) = _ :=
    (answer_map Answer.payload _ reader).trans
      (congrArg _ ((answer_map Block.payload _ reader).trans (congrArg _ looked)))
  cases found with
  | some block => exact ⟨whole, inner⟩
  | none =>
    intro operation asked
    rcases List.mem_cons.mp asked with rfl | asked
    · exact whole
    · rw [List.mem_singleton.mp asked]
      exact inner

private theorem answers_at_row {reader : Connection} {table : BlockTable} {block : Block}
    (stored : reader.database.blocks = some table) (able : reader.readFault? = none) (now : Int)
    (member : .ofBlock block ∈ table.rows) :
    answerTo reader now (.blockAt block.height) = .ok (.block block) ∧
      answerTo reader now (.payloadAt block.height) = .ok (.payload block.payload) := by
  have here := BlockTable.row?_eq_some.mpr ⟨member, rfl⟩
  have whole := answer_of_read (.readingBlock block.height) (.blockAt block.height)
    (Database.blockAt block.height) able
    (Database.read_of_row stored here (BlockRow.toBlock_ofBlock block))
  have payload := answer_of_read (.readingBlock block.height) (.blockAt block.height)
    (Database.payloadAt block.height) able (Database.read_of_row stored here rfl)
  exact ⟨(answer_map _ _ reader).trans (congrArg _ whole),
    (answer_map _ _ reader).trans (congrArg _ payload)⟩

private theorem resolves_of_written {reader : Connection} {table : BlockTable}
    (stored : reader.database.blocks = some table)
    (written : ∀ row ∈ table.rows, ∃ block, row = .ofBlock block)
    (able : reader.readFault? = none) (hash : String) (now : Int) :
    Resolves reader now hash (reader.database.carriers hash) := by
  rw [Database.carriers_of_table stored]
  cases highest : table.highestWithHash? hash with
  | none =>
    have bare := BlockTable.highestWithHash?_eq_none.mp highest
    have missing := answers_of_hash stored able now none highest
    have unfound (block : Block) :
        answerTo reader now (.blockWithHash hash) ≠ .ok (.block block) := by
      rw [missing _ List.mem_cons_self]
      exact fun found => by cases found
    exact {
      found_iff := ⟨fun ⟨block, found⟩ => absurd found (unfound block),
        fun ⟨row, member, carries⟩ => absurd carries (bare row member)⟩
      highest := fun block found => absurd found (unfound block)
      agrees := fun block found => absurd found (unfound block)
      missing := fun _ => missing }
  | some row =>
    obtain ⟨member, carries, greatest⟩ := BlockTable.highestWithHash?_eq_some highest
    obtain ⟨block, rfl⟩ := written row member
    obtain ⟨whole, inner⟩ := answers_of_hash stored able now (some block) highest
    obtain ⟨at_height, payload⟩ := answers_at_row stored able now member
    have only {other : Block}
        (found : answerTo reader now (.blockWithHash hash) = .ok (.block other)) :
        other = block := by
      rw [whole] at found
      exact (Answer.block.inj (Except.ok.inj found)).symm
    refine ⟨⟨fun _ => ⟨_, member, carries⟩, fun _ => ⟨block, whole⟩⟩, ?highest, ?agrees,
      fun none => absurd ⟨_, member, carries⟩ none⟩
    case highest =>
      intro other found
      obtain rfl := only found
      exact ⟨Cell.text_inj.mp carries, ⟨member, carries⟩, fun row here => greatest row here.1 here.2⟩
    case agrees =>
      intro other found
      obtain rfl := only found
      exact ⟨at_height, inner, payload⟩

/-! ### Histories -/

/-- After any history of a cache whose blocks nobody else touches, a hash leads to the highest block
that carries it, and the lookups at its height find the same; a hash that no block carries leads
nowhere. After one more operation that succeeds, the rows that carry it are those that did before,
less what the operation has removed or replaced, and what it has stored if that carries the hash. -/
theorem hashes_of_history (base : Database) {steps : List Step}
    (spared : ∀ step ∈ steps, step.spares .blocks = true) (hash : String) :
    let db := (run steps (Layout.laidOut base)).2
    (∀ (reader : Connection) (now : Int), reader.database = db → reader.readFault? = none →
      Resolves reader now hash (db.carriers hash)) ∧
    ∀ (through : Connection) (call : Call) (answer : Answer),
      (call.perform (through.holding db)).1 = .ok answer →
        ∀ (reader : Connection) (now : Int),
          reader.database = (call.perform (through.holding db)).2.database →
            reader.readFault? = none →
              Resolves reader now hash (call.operation.carriers hash (db.carriers hash)) := by
  intro db
  have empty : (Layout.laidOut base).blocks = some BlockTable.empty := rfl
  have resolves {steps : List Step} (spared : ∀ step ∈ steps, step.spares .blocks = true)
      {reader : Connection} (there : reader.database = (run steps (Layout.laidOut base)).2)
      (able : reader.readFault? = none) (now : Int) :
      Resolves reader now hash (reader.database.carriers hash) := by
    obtain ⟨table, stored, mirrors⟩ := blocks_run spared empty
    refine resolves_of_written (there ▸ stored) (fun row member => ?_) able hash now
    obtain ⟨block, -, same⟩ := (mirrors row).mp member
    exact ⟨block, same⟩
  refine ⟨fun reader now there able => there ▸ resolves spared there able now, ?_⟩
  intro through call answer succeeded reader now there able
  obtain ⟨table, stored, -⟩ := blocks_run spared empty
  have left : reader.database = call.operation.effect call.now db := by
    rw [there, perform_effect, succeeded]
    rfl
  have next : reader.database =
      (run (steps ++ [.call through call]) (Layout.laidOut base)).2 := by
    rw [there, run_append]
    rfl
  have still_spared : ∀ step ∈ steps ++ [.call through call], step.spares .blocks = true := by
    intro step member
    rcases List.mem_append.mp member with old | last
    · exact spared step old
    · rw [List.mem_singleton.mp last]
      rfl
  rw [← carriers_effect stored call.operation call.now, ← left]
  exact resolves still_spared next able now

/-- A hash that is stored at three heights and replaced at the highest, with a block below them all
that carries another. -/
private def reorganization : List Step :=
  let store (height : Height) (hash : String) (payload : Payload) : Step :=
    .call Layout.fresh ⟨.acceptBlock ⟨height, hash, "", true, payload⟩, false, 1⟩
  [store 0 "genesis" [], store 5 "ab" [1], store 7 "ab" [2], store 4294967295 "ab" [3],
    store 4294967295 "cd" [4]]

theorem hashes_of_reorganization :
    let db := (run reorganization (Layout.laidOut .blank)).2
    let cut := (Call.perform ⟨.removeBlock 7, false, 2⟩ (Layout.fresh.holding db)).2.database
    (∀ step ∈ reorganization, step.spares .blocks = true) ∧
      answerTo (Layout.fresh.holding db) 9 (.blockAt 7) = .ok (.block ⟨7, "ab", "", true, [2]⟩) ∧
      answerTo (Layout.fresh.holding db) 9 (.payloadWithHash "ab") = .ok (.payload [2]) ∧
      answerTo (Layout.fresh.holding cut) 9 (.payloadWithHash "ab") = .ok (.payload [1]) ∧
      ∀ row ∈ (Operation.removeBlock 7).carriers "ab" (db.carriers "ab"), row.height ≤ 5 := by
  intro db cut
  have spared : ∀ step ∈ reorganization, step.spares .blocks = true := by decide
  obtain ⟨before, after⟩ := hashes_of_history .blank spared "ab"
  have found : answerTo (Layout.fresh.holding db) 9 (.blockWithHash "ab") =
      .ok (.block ⟨7, "ab", "", true, [2]⟩) := by decide +kernel
  have next : answerTo (Layout.fresh.holding cut) 9 (.blockWithHash "ab") =
      .ok (.block ⟨5, "ab", "", true, [1]⟩) := by decide +kernel
  have resolves := before (Layout.fresh.holding db) 9 rfl (by decide +kernel)
  have resolves_cut := after Layout.fresh ⟨.removeBlock 7, false, 2⟩ (.existed true)
    (by decide +kernel) (Layout.fresh.holding cut) 9 rfl (by decide +kernel)
  exact ⟨spared, (resolves.agrees _ found).1, (resolves.agrees _ found).2.1,
    (resolves_cut.agrees _ next).2.1, (resolves_cut.highest _ next).2.2⟩

end ChainStore.Cache
