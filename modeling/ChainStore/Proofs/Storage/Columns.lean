import ChainStore.Proofs.Storage.Answer

set_option autoImplicit false
set_option relaxedAutoImplicit false

/-!
The columns of a block row. Each is meant for one kind of value but may hold any, and reading the
whole row fails at the first one that holds another, or a text that is not UTF-8.
-/

namespace ChainStore.Storage

structure Column where
  name : String
  value : Cell
  meant : Kind

def Cell.Legible : Cell → Prop
  | .text t => ∃ s, t.read? = some s
  | _ => True

structure Column.Fits (column : Column) : Prop where
  kind : column.value.kind = column.meant
  legible : column.value.Legible

theorem Column.fits_text (name s : String) : Column.Fits ⟨name, .text s, .text⟩ :=
  ⟨rfl, s, Text.read?_ofString s⟩

theorem Column.fits_int (name : String) (n : Int) : Column.Fits ⟨name, .int n, .integer⟩ :=
  ⟨rfl, trivial⟩

theorem Column.not_fits {column : Column} (wrong : column.value.kind ≠ column.meant) :
    ¬ column.Fits :=
  fun fits => wrong fits.kind

theorem Column.not_fits_text (name : String) {value : Cell} :
    (value.kind ≠ .text ∨ ∃ t, value = .text t ∧ t.read? = none) ↔
      ¬ Column.Fits ⟨name, value, .text⟩ := by
  constructor
  · rintro (wrong | ⟨t, rfl, illegible⟩) fits
    · exact wrong fits.kind
    · obtain ⟨s, legible⟩ := fits.legible
      cases illegible.symm.trans legible
  · intro misfit
    cases value with
    | text t =>
      refine .inr ⟨t, rfl, ?_⟩
      cases read : t.read? with
      | none => rfl
      | some s => exact absurd ⟨rfl, s, read⟩ misfit
    | int n | real bits | blob bytes => exact .inl Kind.noConfusion

/-- What is wrong with a column that does not fit: the kind of its value, or else its bytes. -/
def Column.fault (number : Nat) (column : Column) : Fault :=
  match column.value, column.meant with
  | .text t, .text => .misencoded number t.flaw
  | value, _ => .wrongKind number column.name value.kind

namespace BlockRow

def columns (row : BlockRow) : List Column :=
  [⟨"height", .int row.height, .integer⟩, ⟨"hash", row.hash, .text⟩,
    ⟨"prev_hash", row.prevHash, .text⟩, ⟨"sapling_flag", row.sapling, .integer⟩,
    ⟨"payload", row.payload, .blob⟩]

/-- The column with this number is the first one that does not hold what it is meant for. -/
structure FirstMisfit (row : BlockRow) (number : Nat) (column : Column) : Prop where
  here : row.columns[number]? = some column
  misfit : ¬ column.Fits
  before : ∀ other ∈ row.columns.take number, other.Fits

variable {row : BlockRow}

theorem FirstMisfit.unique {number other : Nat} {column another : Column}
    (first : row.FirstMisfit number column) (second : row.FirstMisfit other another) :
    number = other ∧ column = another := by
  have not_before {number other : Nat} {column another : Column}
      (first : row.FirstMisfit number column) (second : row.FirstMisfit other another) :
      ¬ number < other := by
    intro below
    have among : (row.columns.take other)[number]? = some column := by
      rw [List.getElem?_take_of_lt below, first.here]
    exact first.misfit (second.before column (List.mem_of_getElem? among))
  obtain rfl : number = other :=
    Nat.le_antisymm (Nat.not_lt.mp (not_before second first))
      (Nat.not_lt.mp (not_before first second))
  exact ⟨rfl, Option.some.inj (first.here.symm.trans second.here)⟩

end BlockRow

namespace Cell

theorem string_cases (number : Nat) (name : String) (cell : Cell) :
    (∃ s : String, cell = .text s ∧ cell.string number name = .ok s ∧
      Column.Fits ⟨name, cell, .text⟩) ∨
      ¬ Column.Fits ⟨name, cell, .text⟩ ∧
        cell.string number name = .error (Column.fault number ⟨name, cell, .text⟩) := by
  cases cell with
  | text t =>
    cases read : t.read? with
    | some s =>
      obtain rfl := Text.read?_eq_some.mp read
      exact .inl ⟨s, rfl, string_ofString number name s, Column.fits_text name s⟩
    | none =>
      refine .inr ⟨fun fits => ?_, by simp [string, read, Column.fault]⟩
      obtain ⟨s, legible⟩ := fits.legible
      cases read.symm.trans legible
  | int n | real bits | blob bytes => exact .inr ⟨Column.not_fits Kind.noConfusion, rfl⟩

theorem flag_cases (number : Nat) (name : String) (cell : Cell) :
    (∃ n, cell = .int n ∧ cell.flag number name = .ok (n != 0) ∧
        Column.Fits ⟨name, cell, .integer⟩) ∨
      ¬ Column.Fits ⟨name, cell, .integer⟩ ∧
        cell.flag number name = .error (Column.fault number ⟨name, cell, .integer⟩) := by
  cases cell with
  | int n => exact .inl ⟨n, rfl, rfl, Column.fits_int name n⟩
  | real bits | text s | blob bytes => exact .inr ⟨Column.not_fits Kind.noConfusion, rfl⟩

theorem bytes_cases (number : Nat) (name : String) (cell : Cell) :
    (∃ bytes, cell = .blob bytes ∧ cell.bytes number name = .ok bytes ∧
        Column.Fits ⟨name, cell, .blob⟩) ∨
      cell.kind ≠ .blob ∧ ¬ Column.Fits ⟨name, cell, .blob⟩ ∧
        cell.bytes number name = .error (.wrongKind number name cell.kind) ∧
        Column.fault number ⟨name, cell, .blob⟩ = .wrongKind number name cell.kind := by
  cases cell with
  | blob bytes => exact .inl ⟨bytes, rfl, rfl, rfl, trivial⟩
  | int n | real bits | text s =>
    exact .inr ⟨Kind.noConfusion, Column.not_fits Kind.noConfusion, rfl, rfl⟩

end Cell

namespace BlockRow

variable {row : BlockRow}

theorem toBlock_cases {height : Height} (level : row.height = height.toNat) :
    ((∀ column ∈ row.columns, column.Fits) ∧ ∃ block, row.toBlock = .ok block ∧
        block.height = height ∧ row.hash = .text block.hash ∧ row.payload = .blob block.payload) ∨
      ∃ number column, row.FirstMisfit number column ∧
        row.toBlock = .error (column.fault number) := by
  obtain ⟨_, hash, prevHash, sapling, payload⟩ := row
  obtain rfl := level
  have leveled := Column.fits_int "height" height.toNat
  simp only [toBlock, Cell.word_toNat]
  rcases hash.string_cases 1 "hash" with ⟨s, rfl, read, hashed⟩ | ⟨wrong, failed⟩
  · rw [read]
    rcases prevHash.string_cases 2 "prev_hash" with ⟨t, rfl, read, linked⟩ | ⟨wrong, failed⟩
    · rw [read]
      rcases sapling.flag_cases 3 "sapling_flag" with ⟨n, rfl, read, flagged⟩ | ⟨wrong, failed⟩
      · rcases payload.bytes_cases 4 "payload" with
          ⟨bytes, rfl, read, loaded⟩ | ⟨_, wrong, failed, fault⟩
        · exact .inl ⟨by simp [columns, *], ⟨height, s, t, n != 0, bytes⟩, rfl, rfl, rfl, rfl⟩
        · rw [failed, ← fault]
          exact .inr ⟨4, _, ⟨rfl, wrong, by simp [columns, *]⟩, rfl⟩
      · rw [failed]
        exact .inr ⟨3, _, ⟨rfl, wrong, by simp [columns, *]⟩, rfl⟩
    · rw [failed]
      exact .inr ⟨2, _, ⟨rfl, wrong, by simp [columns, *]⟩, rfl⟩
  · rw [failed]
    exact .inr ⟨1, _, ⟨rfl, wrong, by simp [columns, *]⟩, rfl⟩

end BlockRow

end ChainStore.Storage
