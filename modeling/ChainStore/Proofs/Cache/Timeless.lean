import ChainStore.Proofs.Cache.Sound

set_option autoImplicit false
set_option relaxedAutoImplicit false

/-!
The second of the last change of the tip is handed over with the tip and plays no other part. Two
sound databases that differ in it alone are answered alike apart from it, and go on differing in it
alone, whatever the clocks show.
-/

namespace ChainStore.Storage

def TipRow.timeless (row : TipRow) : TipRow := { row with updatedAt := 0 }

def Database.timeless (db : Database) : Database :=
  { db with tip := db.tip.map (Option.map TipRow.timeless) }

namespace Database

variable {db other : Database}

theorem tipHeight_timeless (db : Database) : db.timeless.tipHeight = db.tipHeight := by
  unfold tipHeight tipRow timeless
  cases db.tip with
  | none => rfl
  | some row => cases row <;> rfl

theorem blocks_of_timeless (same : other.timeless = db.timeless) : other.blocks = db.blocks :=
  (congrArg Database.blocks same :)

theorem transactions_of_timeless (same : other.timeless = db.timeless) :
    other.transactions = db.transactions :=
  (congrArg Database.transactions same :)

theorem tip_of_timeless (same : other.timeless = db.timeless) :
    other.tip.map (Option.map TipRow.timeless) = db.tip.map (Option.map TipRow.timeless) :=
  (congrArg Database.tip same :)

theorem tipHeight_of_timeless (same : other.timeless = db.timeless) :
    other.tipHeight = db.tipHeight := by
  rw [← tipHeight_timeless, same, tipHeight_timeless]

theorem sameAccess_of_timeless (same : other.timeless = db.timeless) : db.SameAccess other :=
  ⟨(congrArg Database.locked same :), (congrArg Database.logged same :)⟩

theorem slot_of_timeless (same : other.timeless = db.timeless) (height : Int) :
    other.slot height = db.slot height := by
  rw [slot, slot, blocks_of_timeless same, transactions_of_timeless same]

end Database

end ChainStore.Storage

namespace ChainStore.Cache

open Storage

def Answer.timeless : Answer → Answer
  | .tip shown => .tip { shown with updatedAt := 0 }
  | answer => answer

/-- What is answered, without the second of a tip. -/
def timelessly (answer : Except Error Answer) : Except Error Answer := answer.map Answer.timeless

variable {operation : Operation}

/-! ### Databases -/

private theorem raised_timeless (height : Height) (now : Int) (row : Option TipRow) :
    (raised height now row).timeless = (raised height 0 (row.map TipRow.timeless)).timeless := by
  cases row with
  | none => rfl
  | some tip =>
    simp only [raised, Option.map_some, TipRow.timeless]
    split <;> rfl

theorem lowered_timeless (height : Height) (now : Int) (table : BlockTable)
    (row : Option TipRow) :
    (lowered height now table row).map TipRow.timeless =
      (lowered height 0 table (row.map TipRow.timeless)).map TipRow.timeless := by
  cases row with
  | none => rfl
  | some tip =>
    simp only [lowered, Option.map_some, TipRow.timeless]
    split
    · rw [Option.map_map, Option.map_map]
      rfl
    · rfl

private theorem effect_timeless (operation : Operation) (now : Int) (db : Database) :
    (operation.effect now db).timeless = (operation.effect 0 db.timeless).timeless := by
  have settled (row : Option TipRow) : (row.map TipRow.timeless).map TipRow.timeless =
      row.map TipRow.timeless := by
    cases row <;> rfl
  cases operation with
  | setTip height =>
    simp only [Operation.effect, Database.timeless, Option.map_map]
    rfl
  | acceptBlock block =>
    simp only [Operation.effect, Database.timeless, Option.map_map]
    congr 1
    exact Option.map_congr fun row _ => congrArg some (raised_timeless block.height now row)
  | rollBack height =>
    simp only [Operation.effect, Database.timeless, Option.map_map]
    congr 1
    exact Option.map_congr fun row _ => lowered_timeless height now _ row
  | putBlock _ | removeBlock _ | addTransaction _ | removeTransactions _ | tipHeight | tip
  | payloadAt _ | blockAt _ | hashAt _ | payloadWithHash _ | blockWithHash _ | transaction _ =>
    simp only [Operation.effect, Database.timeless, Option.map_map]
    congr 1
    exact Option.map_congr fun row _ => (settled row).symm

/-! ### Answers -/

private theorem rollBack_timeless {c other : Connection} (sound : c.database.Sound)
    (sound' : other.database.Sound) (rights : c.toRights = {}) (rights' : other.toRights = {})
    (same : other.database.timeless = c.database.timeless) (height : Height) (now now' : Int) :
    (((Operation.rollBack height).action now').run other).1 =
      (((Operation.rollBack height).action now).run c).1 := by
  obtain ⟨table, stored, written⟩ := sound.blocks
  have stored' := (Database.blocks_of_timeless same).trans stored
  have able := Connection.writeFault?_of_free rights sound.unlocked
  have able' := Connection.writeFault?_of_free rights' sound'.unlocked
  have here := answer_rollBack_written sound.serviceable able stored written height now
  have there := answer_rollBack_written sound'.serviceable able' stored' written height now'
  rw [Operation.action, Operation.action, answer_map, answer_map, here, there]

private theorem setTip_timeless {c other : Connection} (sound : c.database.Sound)
    (sound' : other.database.Sound) (rights : c.toRights = {}) (rights' : other.toRights = {})
    (height : Height) (now now' : Int) :
    (((Operation.setTip height).action now').run other).1 =
      (((Operation.setTip height).action now).run c).1 := by
  have able := Connection.writeFault?_of_free rights sound.unlocked
  have able' := Connection.writeFault?_of_free rights' sound'.unlocked
  rw [Operation.action, Operation.action, answer_map, answer_map, setTip, setTip, answer_during,
    answer_during, answer_writeTip sound.serviceable, answer_writeTip sound'.serviceable,
    Connection.writing, Connection.writing, able, able']

private theorem tip_timeless {c other : Connection} (sound : c.database.Sound)
    (sound' : other.database.Sound) (rights : c.toRights = {}) (rights' : other.toRights = {})
    (same : other.database.timeless = c.database.timeless) :
    timelessly ((Answer.tip <$> tip).run other).1 = timelessly ((Answer.tip <$> tip).run c).1 := by
  obtain ⟨shown, present, whole, -⟩ := sound.tip_reads
  obtain ⟨shown', present', whole', -⟩ := sound'.tip_reads
  have rows := Database.tip_of_timeless same
  rw [present, present', Option.map_some, Option.map_some] at rows
  rw [answer_map, answer_map, tip,
    answer_of_read _ _ _ (readFault?_of_writeFault?
      (Connection.writeFault?_of_free rights sound.unlocked)) whole,
    answer_of_read _ _ _ (readFault?_of_writeFault?
      (Connection.writeFault?_of_free rights' sound'.unlocked)) whole']
  cases shown with
  | none =>
    cases shown' with
    | none => rfl
    | some tip' => cases rows
  | some tip =>
    cases shown' with
    | none => cases rows
    | some tip' =>
      have level : tip'.height = tip.height := by
        have heights := congrArg TipRow.height (Option.some.inj (Option.some.inj rows))
        exact UInt32.toNat_inj.mp (Int.ofNat_inj.mp heights)
      show (Except.ok (Answer.tip ⟨tip'.height, 0⟩) : Except Error Answer) =
        .ok (.tip ⟨tip.height, 0⟩)
      rw [level]

/-- Calls for the same thing through connections with full rights to sound databases that differ in
the second of the tip alone are answered alike, apart from that second. -/
theorem answer_timeless {c other : Connection} (sound : c.database.Sound)
    (sound' : other.database.Sound) (rights : c.toRights = {}) (rights' : other.toRights = {})
    (same : other.database.timeless = c.database.timeless) (operation : Operation) (fired : Bool)
    (now now' : Int) :
    timelessly (Call.perform ⟨operation, fired, now'⟩ other).1 =
      timelessly (Call.perform ⟨operation, fired, now⟩ c).1 := by
  have access := Database.sameAccess_of_timeless same
  have readable := readFault?_congr (rights'.trans rights.symm) access
  have read (unlike : operation ≠ .tip) (reads : operation.reads = true) :
      (Call.perform ⟨operation, fired, now'⟩ other).1 =
        (Call.perform ⟨operation, fired, now⟩ c).1 := by
    have clockless : (Call.perform ⟨operation, fired, now⟩ c).1 =
        (Call.perform ⟨operation, fired, now'⟩ c).1 := by
      cases operation with
      | setTip _ | acceptBlock _ | putBlock _ | removeBlock _ | rollBack _ | addTransaction _
      | removeTransactions _ => cases reads
      | _ => rfl
    rw [clockless]
    exact perform_congr_of_lookups readable (Database.tipHeight_of_timeless same)
      (fun whole => absurd whole unlike) (Database.blocks_of_timeless same)
      (Database.transactions_of_timeless same) reads
  have placed {height : Height} (place : operation.place? = some height) :
      (Call.perform ⟨operation, fired, now'⟩ other).1 =
        (Call.perform ⟨operation, fired, now⟩ c).1 := by
    rw [@answer_at ⟨operation, fired, now'⟩ height place other sound'.serviceable,
      @answer_at ⟨operation, fired, now⟩ height place c sound.serviceable,
      Database.slot_of_timeless same, outcome_congr (rights'.trans rights.symm) access]
  cases fired with
  | true => rfl
  | false =>
    cases operation with
    | tip => exact tip_timeless sound sound' rights rights' same
    | setTip height =>
      exact congrArg timelessly (setTip_timeless sound sound' rights rights' height now now')
    | rollBack height =>
      exact congrArg timelessly (rollBack_timeless sound sound' rights rights' same height now now')
    | acceptBlock _ | putBlock _ | removeBlock _ | addTransaction _ | removeTransactions _ =>
      exact congrArg timelessly (placed rfl)
    | tipHeight | payloadAt _ | blockAt _ | hashAt _ | payloadWithHash _ | blockWithHash _
    | transaction _ => exact congrArg timelessly (read (by simp) rfl)

theorem database_timeless {c other : Connection}
    (same : other.database.timeless = c.database.timeless) {operation : Operation} {fired : Bool}
    {now now' : Int}
    (answers : timelessly (Call.perform ⟨operation, fired, now'⟩ other).1 =
      timelessly (Call.perform ⟨operation, fired, now⟩ c).1) :
    (Call.perform ⟨operation, fired, now'⟩ other).2.database.timeless =
      (Call.perform ⟨operation, fired, now⟩ c).2.database.timeless := by
  rw [perform_effect, perform_effect]
  cases told : (Call.perform ⟨operation, fired, now⟩ c).1 with
  | error e =>
    cases told' : (Call.perform ⟨operation, fired, now'⟩ other).1 with
    | error e' => exact same
    | ok answer' => rw [told, told'] at answers; cases answers
  | ok answer =>
    cases told' : (Call.perform ⟨operation, fired, now'⟩ other).1 with
    | error e' => rw [told, told'] at answers; cases answers
    | ok answer' =>
      show (operation.effect now' other.database).timeless =
        (operation.effect now c.database).timeless
      rw [effect_timeless, same, ← effect_timeless]

end ChainStore.Cache
