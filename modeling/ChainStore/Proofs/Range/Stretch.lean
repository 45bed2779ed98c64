import ChainStore.Proofs.Range.Pointwise
import Mathlib.Data.List.Forall2

set_option autoImplicit false
set_option relaxedAutoImplicit false

/-!
The rows at the heights of a range, against what the lookups at these heights find one by one.
-/

namespace ChainStore.Storage

def BlockRow.within (low high : Nat) (row : BlockRow) : Bool :=
  decide ((low : Int) ≤ row.height ∧ row.height < (high : Int))

def Database.stretch (db : Database) (low high : Nat) : List BlockRow :=
  match db.blocks with
  | none => []
  | some table => table.rows.filter (BlockRow.within low high)

private theorem find_of_above {rows : List BlockRow} {low : Nat}
    (above : ∀ row ∈ rows, (low : Int) < row.height) :
    rows.find? (fun row => row.height == (low : Int)) = none := by
  rw [List.find?_eq_none]
  intro row member
  have := above row member
  simp only [beq_iff_eq]
  omega

private theorem filter_within {rows : List BlockRow}
    (ordered : rows.Pairwise fun a b => a.height < b.height) {low high : Nat}
    (below : low < high) :
    rows.filter (BlockRow.within low high) =
      (rows.find? fun row => row.height == (low : Int)).toList ++
        rows.filter (BlockRow.within (low + 1) high) := by
  induction rows with
  | nil => rfl
  | cons row rows ih =>
    obtain ⟨above, rest⟩ := List.pairwise_cons.mp ordered
    have later := ih rest
    rcases lt_trichotomy row.height (low : Int) with before | here | past
    · have missed : (row.height == (low : Int)) = false := by simp [before.ne]
      have outside : row.within low high = false := by simp [BlockRow.within]; omega
      have still : row.within (low + 1) high = false := by simp [BlockRow.within]; omega
      rw [List.find?_cons, missed, List.filter_cons, List.filter_cons, outside, still]
      exact later
    · have inside : row.within low high = true := by simp [BlockRow.within]; omega
      have outside : row.within (low + 1) high = false := by simp [BlockRow.within]; omega
      rw [find_of_above fun other member => here ▸ above other member] at later
      rw [List.find?_cons, beq_iff_eq.mpr here, List.filter_cons, List.filter_cons, inside, outside,
        if_pos rfl, later]
      rfl
    · have missed : (row.height == (low : Int)) = false := by simp [past.ne']
      have same : row.within (low + 1) high = row.within low high := by
        simp only [BlockRow.within, decide_eq_decide]
        omega
      have beyond := find_of_above fun other member => past.trans (above other member)
      rw [beyond] at later
      rw [List.find?_cons, missed, beyond, List.filter_cons, List.filter_cons, same, later]
      rfl

theorem Database.stretch_of_lt {db : Database} {table : BlockTable} (stored : db.blocks = some table)
    {low high : Nat} (below : low < high) :
    db.stretch low high = (table.row? low).toList ++ db.stretch (low + 1) high := by
  simp only [stretch, stored]
  exact filter_within table.ordered below

theorem Database.stretch_of_le (db : Database) {low high : Nat} (past : high ≤ low) :
    db.stretch low high = [] := by
  unfold stretch
  split
  · rfl
  · rw [List.filter_eq_nil_iff]
    intro row _
    simp only [BlockRow.within, decide_eq_true_eq]
    omega

end ChainStore.Storage

namespace ChainStore.Range

open Storage (BlockRow BlockTable Connection)

/-- A block that a range hands over is the row at its height with the payload stored there. -/
def Item.Shows (item : Item) (row : BlockRow) : Prop :=
  row.height = item.height.toNat ∧ row.payload = .blob item.payload

theorem heights_split {first last bad : Height} {below above : List Height}
    (split : heights first last = below ++ bad :: above) :
    first.toNat ≤ bad.toNat ∧ bad.toNat ≤ last.toNat ∧
      below = (List.range' first.toNat (bad.toNat - first.toNat)).map UInt32.ofNat := by
  have within := mem_heights.mp (split ▸ List.mem_append_right below List.mem_cons_self)
  refine ⟨within.1, within.2, ?_⟩
  obtain ⟨early, late, counted, rfl, ends⟩ := List.map_eq_append_iff.mp split
  obtain ⟨count, -, rfl, rfl⟩ := List.range'_eq_append_iff.mp counted
  obtain ⟨next, rest, begins, same, -⟩ := List.map_eq_cons_iff.mp ends
  obtain ⟨rfl, more, -⟩ := List.range'_eq_cons_iff.mp begins
  have reached : bad.toNat = first.toNat + count := by
    rw [← same, Nat.mul_one]
    exact toNat_ofNat_of_le (show first.toNat + count ≤ last.toNat by omega)
  rw [reached, Nat.add_sub_cancel_left]

private theorem Settled.read {c : Connection} {height : Height} (settled : Settled c height) :
    ∃ found, c.database.payloadAt height = .ok found ∧ (lookUp c height).toOption = found := by
  have looked : lookUp c height = _ := Cache.answer_lookup (.readingBlock height)
    (.blockAt height) (Storage.Database.payloadAt height) c
  rw [Storage.answer_query] at looked
  have failed (fault : Storage.Fault) :
      lookUp c height ≠ .error (.storage (.readingBlock height) fault) := by
    intro failed
    rcases settled with ⟨payload, found⟩ | missing
    · cases found.symm.trans failed
    · cases missing.symm.trans failed
  cases able : c.readFault? with
  | some fault => exact absurd (by rw [looked, able]) (failed fault)
  | none =>
    rw [able] at looked
    cases read : c.database.payloadAt height with
    | error fault => exact absurd (by rw [looked, read]) (failed fault)
    | ok found =>
      refine ⟨found, rfl, ?_⟩
      rw [looked, read]
      cases found <;> rfl

private theorem Settled.shows {c : Connection} {height : Height} (settled : Settled c height) :
    ∃ table, c.database.blocks = some table ∧
      List.Forall₂ Item.Shows ((lookUp c height).toOption.map (Item.mk height)).toList
        (table.row? height.toNat).toList := by
  obtain ⟨found, read, same⟩ := settled.read
  rw [same]
  unfold Storage.Database.payloadAt Storage.Database.blockTable at read
  cases there : c.database.blocks with
  | none =>
    rw [there] at read
    cases read
  | some table =>
    refine ⟨table, rfl, ?_⟩
    rw [there] at read
    replace read : Storage.readRow _ (table.row? height.toNat) = .ok found := read
    cases here : table.row? height.toNat with
    | none =>
      rw [here] at read
      cases read
      exact .nil
    | some row =>
      have stands : row.height = height.toNat := by simpa using List.find?_some here
      rw [here] at read
      cases stored : row.payload with
      | blob payload =>
        simp only [Storage.readRow, stored, Storage.Cell.bytes] at read
        cases read
        exact .cons ⟨stands, stored⟩ .nil
      | int n | real bits | text s =>
        simp only [Storage.readRow, stored, Storage.Cell.bytes] at read
        cases read

theorem shows_stored {c : Connection} {low count : Nat} (fits : low + count ≤ 4294967296)
    (settled : ∀ height ∈ (List.range' low count).map UInt32.ofNat, Settled c height) :
    List.Forall₂ Item.Shows (stored c ((List.range' low count).map UInt32.ofNat))
      (c.database.stretch low (low + count)) := by
  induction count generalizing low with
  | zero =>
    rw [Nat.add_zero, Storage.Database.stretch_of_le _ (Nat.le_refl low)]
    exact .nil
  | succ count ih =>
    rw [List.range'_succ, List.map_cons, List.forall_mem_cons] at settled
    obtain ⟨table, there, one⟩ := settled.1.shows
    have rest := ih (by omega) settled.2
    have small : low < UInt32.size := by
      rw [UInt32.size]
      omega
    have same : low + (count + 1) = low + 1 + count := by omega
    rw [UInt32.toNat_ofNat_of_lt' small] at one
    rw [List.range'_succ, List.map_cons, stored_cons,
      Storage.Database.stretch_of_lt there (by omega), same]
    exact List.rel_append one rest

/-- How the reading of a range goes: every height of it can be read, and the blocks found are the
rows there, or there is a first one that cannot, and the blocks found are the rows below it. -/
theorem sequential_shows (c : Connection) {first last : Height}
    (ordered : first.toNat ≤ last.toNat) :
    ((∀ height : Height, first.toNat ≤ height.toNat → height.toNat ≤ last.toNat →
        Settled c height) ∧
      ∃ items, sequential (Cache.rangeRead c) (heights first last) = (items, none) ∧
        List.Forall₂ Item.Shows items (c.database.stretch first.toNat (last.toNat + 1))) ∨
    ∃ (bad : Height) (fault : Storage.Fault),
      first.toNat ≤ bad.toNat ∧ bad.toNat ≤ last.toNat ∧
      (∀ height : Height, first.toNat ≤ height.toNat → height.toNat < bad.toNat →
        Settled c height) ∧
      lookUp c bad = .error (.storage (.readingBlock bad) fault) ∧
      ∃ items, sequential (Cache.rangeRead c) (heights first last) =
          (items, some (.storage (.readingForRange bad) fault)) ∧
        List.Forall₂ Item.Shows items (c.database.stretch first.toNat bad.toNat) := by
  have top := last.toNat_lt
  rcases sequential_cases c (heights first last) with
    ⟨settled, found⟩ | ⟨below, bad, above, fault, split, settled, looked, found⟩
  · refine .inl ⟨fun height low high => settled height (mem_heights.mpr ⟨low, high⟩), _, found, ?_⟩
    have shows := shows_stored (by omega) settled
    rwa [show first.toNat + (last.toNat + 1 - first.toNat) = last.toNat + 1 by omega] at shows
  · obtain ⟨low, high, rfl⟩ := heights_split split
    refine .inr ⟨bad, fault, low, high, fun height above below => settled height ?_, looked, _,
      found, ?_⟩
    · refine List.mem_map.mpr ⟨height.toNat, List.mem_range'_1.mpr ⟨above, ?_⟩, UInt32.ofNat_toNat⟩
      omega
    · have shows := shows_stored (by omega) settled
      rwa [show first.toNat + (bad.toNat - first.toNat) = bad.toNat by omega] at shows

end ChainStore.Range
