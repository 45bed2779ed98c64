import ChainStore.Proofs.Cache.Hashes
import ChainStore.Proofs.Range.Admission
import ChainStore.Proofs.Range.Progress
import ChainStore.Proofs.Storage.Columns

set_option autoImplicit false
set_option relaxedAutoImplicit false

/-!
The ways to look at the row at a height: as a whole block, its payload, its hash, and a range of
that height alone. They agree on whether there is a row and on what is in it; each fails for the
columns that it reads and for no other, be it for a value of the wrong kind or for a text that is
not UTF-8.
-/

namespace ChainStore.Cache

open Storage

variable {α : Type} {c : Connection} {table : BlockTable}

private theorem answer_query_row (read : BlockRow → Except Fault α)
    (stored : c.database.blocks = some table) (able : c.readFault? = none) (height : Height) :
    ((query fun db => db.blockTable >>= fun table =>
      readRow read (table.row? height.toNat)).run c).1 = readRow read (table.row? height.toNat) := by
  rw [answer_query, able]
  simp only [Database.blockTable_of_table stored]
  rfl

def lookedUp (height : Height) (activity : Activity) (read : BlockRow → Except Fault α) :
    Option BlockRow → Except Error α
  | none => .error (.notFound (.blockAt height))
  | some row => (read row).mapError (Error.storage activity)

private theorem answer_at_height (read : BlockRow → Except Fault α) (activity : Activity)
    (stored : c.database.blocks = some table) (able : c.readFault? = none) (height : Height) :
    ((during activity (query fun db => db.blockTable >>= fun table =>
      readRow read (table.row? height.toNat)) >>= found (.blockAt height)).run c).1 =
      lookedUp height activity read (table.row? height.toNat) := by
  rw [answer_lookup, answer_query_row read stored able]
  cases table.row? height.toNat with
  | none => rfl
  | some row =>
    simp only [readRow, lookedUp]
    cases read row <;> rfl

private theorem answer_of_unreadable (activity : Activity) (subject : Subject)
    (read : Database → Except Fault (Option α)) {fault : Fault}
    (unable : c.readFault? = some fault) :
    ((during activity (query read) >>= found subject).run c).1 =
      .error (.storage activity fault) := by
  rw [answer_lookup, answer_query, unable]

end ChainStore.Cache

namespace ChainStore.Range

open Cache (answerTo lookedUp)
open Storage (BlockRow BlockTable Column Connection)

/-- What the ways to look at a height say to each other, given the rows of the blocks. The range is
of that height alone. -/
structure Concerted (c : Connection) (now : Int) (table : BlockTable) (height : Height)
    (range : Pipeline) : Prop where
  /-- The lookups miss a row together, and just when there is none. -/
  missing_iff : ∀ operation ∈ [.payloadAt height, .hashAt height, .blockAt height],
    answerTo c now operation = .error (.notFound (.blockAt height)) ↔
      ∀ row ∈ table.rows, row.height ≠ height.toNat
  empty : (∀ row ∈ table.rows, row.height ≠ height.toNat) →
    Tells (Cache.rangeRead c) range ([], none)
  /-- What the whole block says, its parts say on their own. -/
  agrees : ∀ block, answerTo c now (.blockAt height) = .ok (.block block) →
    block.height = height ∧ answerTo c now (.payloadAt height) = .ok (.payload block.payload) ∧
      answerTo c now (.hashAt height) = .ok (.hash block.hash) ∧
        Tells (Cache.rangeRead c) range ([⟨height, block.payload⟩], none)
  /-- The whole block fails for its first misfit. -/
  block_fails_iff : ∀ row ∈ table.rows, row.height = height.toNat → ∀ e,
    answerTo c now (.blockAt height) = .error e ↔
      ∃ number column, row.FirstMisfit number column ∧
        e = .storage (.readingBlock height) (column.fault number)
  /-- The payload, and the range with it, fail for the payload only, the hash for the hash only. -/
  payload_fails_iff : ∀ row ∈ table.rows, row.height = height.toNat →
    ((∃ e, answerTo c now (.payloadAt height) = .error e) ↔ row.payload.kind ≠ .blob) ∧
      (row.payload.kind ≠ .blob → Tells (Cache.rangeRead c) range
        ([], some (.storage (.readingForRange height) (.wrongKind 0 "payload" row.payload.kind))))
  hash_fails_iff : ∀ row ∈ table.rows, row.height = height.toNat →
    ((∃ e, answerTo c now (.hashAt height) = .error e) ↔
      row.hash.kind ≠ .text ∨ ∃ t, row.hash = .text t ∧ t.read? = none)

private theorem heights_self (height : Height) : heights height height = [height] := by
  have one : height.toNat + 1 - height.toNat = 1 := by omega
  rw [heights, one]
  show [UInt32.ofNat height.toNat] = [height]
  rw [UInt32.ofNat_toNat]

def foundAt (height : Height) : Except Error (Option Payload) → List Item × Option Error
  | .error e => ([], some e)
  | .ok found => ((found.map (Item.mk height)).toList, none)

private theorem tells_of_read (c : Connection) {limits : Limits}
    (admits : 0 < limits.maxRangeSpan.toNat) (room : 0 < limits.streamBuffer.toNat)
    (made : limits.streamBuffer.toNat ≤ maxCapacity) (height : Height) :
    ∃ range, accept limits height height = .ok range ∧
      Tells (Cache.rangeRead c) range (foundAt height (Cache.rangeRead c height)) := by
  have narrow : span height height ≤ limits.maxRangeSpan.toNat := by
    rw [span]
    omega
  have admitted := check_eq_ok.mpr ⟨Nat.le_refl _, narrow⟩
  refine ⟨_, by rw [accept_of_made room made, admitted], ?_⟩
  have tells := tells_start (forthright_rangeRead c) height height room
  rw [heights_self, sequential] at tells
  cases read : Cache.rangeRead c height with
  | error e =>
    rw [read] at tells
    exact tells
  | ok found =>
    rw [read] at tells
    simpa [sequential, foundAt] using tells

variable {c : Connection} {table : BlockTable} {height : Height} {range : Pipeline}

private theorem answers_of_row? (stored : c.database.blocks = some table)
    (able : c.readFault? = none) (height : Height) (now : Int) :
    let row? := table.row? height.toNat
    answerTo c now (.payloadAt height) = (lookedUp height (.readingBlock height)
        (fun row => row.payload.bytes 0 "payload") row?).map Cache.Answer.payload ∧
      answerTo c now (.hashAt height) = (lookedUp height (.readingHash height)
        (fun row => row.hash.string 0 "hash") row?).map Cache.Answer.hash ∧
      answerTo c now (.blockAt height) = (lookedUp height (.readingBlock height)
        BlockRow.toBlock row?).map Cache.Answer.block ∧
      Cache.rangeRead c height = (Storage.readRow (fun row : BlockRow =>
        row.payload.bytes 0 "payload") row?).mapError (Error.storage (.readingForRange height)) := by
  intro row?
  refine ⟨?payload, ?hash, ?block, ?range⟩
  case payload =>
    exact (Cache.answer_map _ _ c).trans
      (congrArg _ (Cache.answer_at_height (fun row => row.payload.bytes 0 "payload") _ stored able
        height))
  case hash =>
    exact (Cache.answer_map _ _ c).trans
      (congrArg _ (Cache.answer_at_height (fun row => row.hash.string 0 "hash") _ stored able
        height))
  case block =>
    exact (Cache.answer_map _ _ c).trans
      (congrArg _ (Cache.answer_at_height BlockRow.toBlock _ stored able height))
  case range =>
    exact (Cache.answer_during _ _ c).trans
      (congrArg _ (Cache.answer_query_row (fun row => row.payload.bytes 0 "payload") stored able
        height))

private theorem concerted_of_missing (stored : c.database.blocks = some table)
    (able : c.readFault? = none) (now : Int) (missing : table.row? height.toNat = none)
    (tells : Tells (Cache.rangeRead c) range (foundAt height (Cache.rangeRead c height))) :
    Concerted c now table height range := by
  obtain ⟨payload, hash, block, read⟩ := answers_of_row? stored able height now
  rw [missing] at payload hash block read
  have bare : ∀ row ∈ table.rows, row.height ≠ height.toNat := by
    intro row member level
    have there := BlockTable.row?_eq_some.mpr ⟨member, level⟩
    rw [missing] at there
    cases there
  rw [read] at tells
  refine ⟨?_, fun _ => tells, ?_, ?_, ?_, ?_⟩
  · intro operation asked
    refine iff_of_true ?_ bare
    simp only [List.mem_cons, List.not_mem_nil, or_false] at asked
    rcases asked with rfl | rfl | rfl
    · exact payload
    · exact hash
    · exact block
  · intro other found
    rw [block] at found
    cases found
  all_goals exact fun row member level => absurd level (bare row member)

private theorem payload_of_row (stored : c.database.blocks = some table)
    (able : c.readFault? = none) (now : Int) {row : BlockRow}
    (here : table.row? height.toNat = some row)
    (tells : Tells (Cache.rangeRead c) range (foundAt height (Cache.rangeRead c height))) :
    (∃ bytes, row.payload = .blob bytes ∧
        answerTo c now (.payloadAt height) = .ok (.payload bytes) ∧
        Tells (Cache.rangeRead c) range ([⟨height, bytes⟩], none)) ∨
      row.payload.kind ≠ .blob ∧
        answerTo c now (.payloadAt height) =
          .error (.storage (.readingBlock height) (.wrongKind 0 "payload" row.payload.kind)) ∧
        Tells (Cache.rangeRead c) range ([],
          some (.storage (.readingForRange height) (.wrongKind 0 "payload" row.payload.kind))) := by
  obtain ⟨payload, -, -, read⟩ := answers_of_row? stored able height now
  rw [here] at payload read
  simp only [lookedUp, Storage.readRow] at payload read
  rcases row.payload.bytes_cases 0 "payload" with
    ⟨bytes, blob, legible, -⟩ | ⟨wrong, -, failed, -⟩
  · rw [legible] at payload read
    rw [read] at tells
    exact .inl ⟨bytes, blob, payload, tells⟩
  · rw [failed] at payload read
    rw [read] at tells
    exact .inr ⟨wrong, payload, tells⟩

private theorem hash_of_row (stored : c.database.blocks = some table)
    (able : c.readFault? = none) (now : Int) {row : BlockRow}
    (here : table.row? height.toNat = some row) :
    (∃ hash : String, row.hash = .text hash ∧
        answerTo c now (.hashAt height) = .ok (.hash hash)) ∨
      ¬ Column.Fits ⟨"hash", row.hash, .text⟩ ∧ answerTo c now (.hashAt height) =
        .error (.storage (.readingHash height) (Column.fault 0 ⟨"hash", row.hash, .text⟩)) := by
  obtain ⟨-, hash, -, -⟩ := answers_of_row? stored able height now
  rw [here] at hash
  simp only [lookedUp] at hash
  rcases row.hash.string_cases 0 "hash" with ⟨text, same, legible, -⟩ | ⟨wrong, failed⟩
  · rw [legible] at hash
    exact .inl ⟨text, same, hash⟩
  · rw [failed] at hash
    exact .inr ⟨wrong, hash⟩

private theorem block_of_row (stored : c.database.blocks = some table)
    (able : c.readFault? = none) (now : Int) {row : BlockRow}
    (here : table.row? height.toNat = some row) :
    ((∀ column ∈ row.columns, column.Fits) ∧ ∃ block,
        answerTo c now (.blockAt height) = .ok (.block block) ∧ block.height = height ∧
          row.hash = .text block.hash ∧ row.payload = .blob block.payload) ∨
      ∃ number column, row.FirstMisfit number column ∧ answerTo c now (.blockAt height) =
        .error (.storage (.readingBlock height) (column.fault number)) := by
  obtain ⟨-, -, block, -⟩ := answers_of_row? stored able height now
  rw [here] at block
  simp only [lookedUp] at block
  rcases BlockRow.toBlock_cases (BlockTable.row?_eq_some.mp here).2 with
    ⟨fit, whole, legible, level, hash, payload⟩ | ⟨number, column, first, failed⟩
  · rw [legible] at block
    exact .inl ⟨fit, whole, block, level, hash, payload⟩
  · rw [failed] at block
    exact .inr ⟨number, column, first, block⟩

private theorem concerted_of_row (stored : c.database.blocks = some table)
    (able : c.readFault? = none) (now : Int) {row : BlockRow}
    (here : table.row? height.toNat = some row)
    (tells : Tells (Cache.rangeRead c) range (foundAt height (Cache.rangeRead c height))) :
    Concerted c now table height range := by
  have payload := payload_of_row stored able now here tells
  have hash := hash_of_row stored able now here
  have block := block_of_row stored able now here
  obtain ⟨member, level⟩ := BlockTable.row?_eq_some.mp here
  -- Heights are keys, so every row that the statement may speak of is the one that is found.
  have only : ∀ other ∈ table.rows, other.height = height.toNat → other = row := by
    intro other stored level
    have there := BlockTable.row?_eq_some.mpr ⟨stored, level⟩
    exact Option.some.inj (there.symm.trans here)
  have present : ¬ ∀ row ∈ table.rows, row.height ≠ height.toNat :=
    fun bare => bare row member level
  refine ⟨?missing_iff, fun bare => absurd bare present, ?agrees, ?block_fails, ?payload_fails,
    ?hash_fails⟩
  case missing_iff =>
    intro operation asked
    refine iff_of_false (fun missed => ?_) present
    simp only [List.mem_cons, List.not_mem_nil, or_false] at asked
    rcases asked with rfl | rfl | rfl
    · rcases payload with ⟨_, -, answer, -⟩ | ⟨-, answer, -⟩ <;> cases answer.symm.trans missed
    · rcases hash with ⟨_, -, answer⟩ | ⟨-, answer⟩ <;> cases answer.symm.trans missed
    · rcases block with ⟨-, _, answer, -⟩ | ⟨_, _, -, answer⟩ <;> cases answer.symm.trans missed
  case agrees =>
    intro whole found
    rcases block with ⟨-, block, answer, same_height, text, blob⟩ | ⟨_, _, -, answer⟩
    · obtain rfl : block = whole :=
        Cache.Answer.block.inj (Except.ok.inj (answer.symm.trans found))
      rcases payload with ⟨bytes, same, payload, tells⟩ | ⟨wrong, -⟩
      · obtain rfl := Storage.Cell.blob.inj (same.symm.trans blob)
        rcases hash with ⟨_, same, hash⟩ | ⟨wrong, -⟩
        · obtain rfl := Text.ofString_inj.mp (Storage.Cell.text.inj (same.symm.trans text))
          exact ⟨same_height, payload, hash, tells⟩
        · exact absurd (text ▸ Column.fits_text "hash" block.hash) wrong
      · exact absurd (by rw [blob]; rfl) wrong
    · cases answer.symm.trans found
  case block_fails =>
    intro other stored level e
    obtain rfl := only other stored level
    rcases block with ⟨fit, block, answer, -⟩ | ⟨number, column, first, answer⟩
    · refine iff_of_false (fun failed => ?_) (fun ⟨number, column, first, _⟩ => ?_)
      · cases answer.symm.trans failed
      · exact first.misfit (fit column (List.mem_of_getElem? first.here))
    · constructor
      · intro failed
        exact ⟨number, column, first, Except.error.inj (failed.symm.trans answer)⟩
      · rintro ⟨_, _, another, rfl⟩
        obtain ⟨rfl, rfl⟩ := first.unique another
        exact answer
  case payload_fails =>
    intro other stored level
    obtain rfl := only other stored level
    rcases payload with ⟨bytes, blob, answer, -⟩ | ⟨wrong, answer, tells⟩
    · have right : ¬ other.payload.kind ≠ .blob := fun wrong => wrong (by rw [blob]; rfl)
      refine ⟨iff_of_false (fun ⟨e, failed⟩ => ?_) right, fun wrong => absurd wrong right⟩
      cases answer.symm.trans failed
    · exact ⟨iff_of_true ⟨_, answer⟩ wrong, fun _ => tells⟩
  case hash_fails =>
    intro other stored level
    obtain rfl := only other stored level
    refine Iff.trans ?_ (Column.not_fits_text "hash").symm
    rcases hash with ⟨text, same, answer⟩ | ⟨wrong, answer⟩
    · refine iff_of_false (fun ⟨e, failed⟩ => ?_) (not_not_intro ?_)
      · cases answer.symm.trans failed
      · exact same ▸ Column.fits_text "hash" text
    · exact iff_of_true ⟨_, answer⟩ wrong

private theorem rangeRead_of_unreadable {fault : Storage.Fault}
    (unable : c.readFault? = some fault) (height : Height) :
    Cache.rangeRead c height = .error (.storage (.readingForRange height) fault) := by
  rw [Cache.rangeRead, Cache.payloadForRange, Cache.answer_during, Storage.answer_query, unable]
  rfl

/-- Whatever values the columns of a row hold, the lookups at its height and the range of that
height are concerted. A connection that cannot read fails each of them for that reason. -/
theorem projections_concerted (c : Connection) {table : BlockTable}
    (stored : c.database.blocks = some table) {limits : Limits}
    (admits : 0 < limits.maxRangeSpan.toNat) (room : 0 < limits.streamBuffer.toNat)
    (made : limits.streamBuffer.toNat ≤ maxCapacity) (height : Height) (now : Int) :
    ∃ range, accept limits height height = .ok range ∧
      (c.readFault? = none → Concerted c now table height range) ∧
      ∀ fault, c.readFault? = some fault →
        answerTo c now (.payloadAt height) = .error (.storage (.readingBlock height) fault) ∧
          answerTo c now (.hashAt height) = .error (.storage (.readingHash height) fault) ∧
          answerTo c now (.blockAt height) = .error (.storage (.readingBlock height) fault) ∧
          Tells (Cache.rangeRead c) range ([], some (.storage (.readingForRange height) fault)) := by
  obtain ⟨range, accepted, tells⟩ := tells_of_read c admits room made height
  refine ⟨range, accepted, fun able => ?_, fun fault unable => ⟨?_, ?_, ?_, ?_⟩⟩
  · cases here : table.row? height.toNat with
    | none => exact concerted_of_missing stored able now here tells
    | some row => exact concerted_of_row stored able now here tells
  · exact (Cache.answer_map _ _ c).trans (congrArg _ (Cache.answer_of_unreadable _ _ _ unable))
  · exact (Cache.answer_map _ _ c).trans (congrArg _ (Cache.answer_of_unreadable _ _ _ unable))
  · exact (Cache.answer_map _ _ c).trans (congrArg _ (Cache.answer_of_unreadable _ _ _ unable))
  · rw [rangeRead_of_unreadable unable height] at tells
    exact tells

/-- A cache whose only row, at the last height of all, has bytes for the hash of its parent and a
text for its flag. -/
private def mixed : Connection :=
  let row : BlockRow := ⟨4294967295, .text "ab", .blob [1], .text "x", .blob [7]⟩
  Cache.Layout.fresh.holding ((Storage.Interference.putBlock row).apply
    Cache.Layout.fresh.database)

theorem mixed_projections_concerted :
    let limits : Limits := {}
    ∃ table, mixed.database.blocks = some table ∧ 0 < limits.maxRangeSpan.toNat ∧
      0 < limits.streamBuffer.toNat ∧ limits.streamBuffer.toNat ≤ maxCapacity ∧
      mixed.readFault? = none ∧
      answerTo mixed 1 (.payloadAt 4294967295) = .ok (.payload [7]) ∧
      answerTo mixed 1 (.hashAt 4294967295) = .ok (.hash "ab") ∧
      ∃ row ∈ table.rows, row.FirstMisfit 2 ⟨"prev_hash", .blob [1], .text⟩ ∧
        answerTo mixed 1 (.blockAt 4294967295) = .error
          (.storage (.readingBlock 4294967295) (.wrongKind 2 "prev_hash" .blob)) := by
  intro limits
  let row : BlockRow := ⟨4294967295, .text "ab", .blob [1], .text "x", .blob [7]⟩
  have stored : mixed.database.blocks = some (BlockTable.empty.put row) := by decide +kernel
  have able : mixed.readFault? = none := by decide +kernel
  obtain ⟨range, -, concerted, -⟩ := projections_concerted mixed stored
    (show 0 < limits.maxRangeSpan.toNat by decide) (by decide) (by decide) 4294967295 1
  have member : row ∈ (BlockTable.empty.put row).rows := by decide
  have first : row.FirstMisfit 2 ⟨"prev_hash", .blob [1], .text⟩ :=
    ⟨rfl, Column.not_fits Storage.Kind.noConfusion,
      by simp [row, BlockRow.columns, Column.fits_int, Column.fits_text]⟩
  exact ⟨_, stored, by decide, by decide, by decide, able, by decide +kernel, by decide +kernel,
    row, member, first,
    ((concerted able).block_fails_iff row member rfl _).mpr ⟨2, _, first, rfl⟩⟩

/-- A cache with a row whose hash is a text of one byte, which is no character. -/
private def garbled : Connection :=
  let row : BlockRow := ⟨5, .text ⟨[0xff]⟩, .text "", .int 0, .blob [7]⟩
  Cache.Layout.fresh.holding ((Storage.Interference.putBlock row).apply
    Cache.Layout.fresh.database)

/-- That a hash is a text is not enough to read it. -/
theorem garbled_hash_unread :
    ∃ table row, garbled.database.blocks = some table ∧ row ∈ table.rows ∧ row.height = 5 ∧
      garbled.readFault? = none ∧ row.hash.kind = .text ∧
      answerTo garbled 1 (.hashAt 5) =
        .error (.storage (.readingHash 5) (.misencoded 0 ⟨0, some 1⟩)) ∧
      ¬ ((∃ e, answerTo garbled 1 (.hashAt 5) = .error e) ↔ row.hash.kind ≠ .text) := by
  let row : BlockRow := ⟨5, .text ⟨[0xff]⟩, .text "", .int 0, .blob [7]⟩
  have unread : answerTo garbled 1 (.hashAt 5) =
      .error (.storage (.readingHash 5) (.misencoded 0 ⟨0, some 1⟩)) := by decide +kernel
  refine ⟨BlockTable.empty.put row, row, by decide +kernel, by decide, rfl, by decide +kernel, rfl,
    unread, fun iff => ?_⟩
  exact iff.mp ⟨_, unread⟩ rfl

end ChainStore.Range
