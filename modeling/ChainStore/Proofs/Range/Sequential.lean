import ChainStore.Range.Race

set_option autoImplicit false
set_option relaxedAutoImplicit false

/-!
What reading the heights of a range one after the other gives.
-/

namespace ChainStore.Range

def heightsFrom (next : Nat) (last : Height) : List Height :=
  (List.range' next (last.toNat + 1 - next)).map UInt32.ofNat

theorem heightsFrom_of_le {next : Nat} {last : Height} (within : next ≤ last.toNat) :
    heightsFrom next last = UInt32.ofNat next :: heightsFrom (next + 1) last := by
  have count : last.toNat + 1 - next = (last.toNat + 1 - (next + 1)) + 1 := by omega
  rw [heightsFrom, count, List.range'_succ, List.map_cons, heightsFrom]

theorem heightsFrom_of_lt {next : Nat} {last : Height} (past : last.toNat < next) :
    heightsFrom next last = [] := by
  have count : last.toNat + 1 - next = 0 := by omega
  rw [heightsFrom, count, List.range'_zero, List.map_nil]

theorem toNat_ofNat_of_le {n : Nat} {last : Height} (within : n ≤ last.toNat) :
    (UInt32.ofNat n).toNat = n :=
  UInt32.toNat_ofNat_of_lt' (Nat.lt_of_le_of_lt within last.toNat_lt)

theorem mem_heights {first last height : Height} :
    height ∈ heights first last ↔ first.toNat ≤ height.toNat ∧ height.toNat ≤ last.toNat := by
  simp only [heights, List.mem_map, List.mem_range'_1]
  constructor
  · rintro ⟨n, ⟨above, below⟩, rfl⟩
    have within : n ≤ last.toNat := by omega
    rw [toNat_ofNat_of_le within]
    exact ⟨above, within⟩
  · rintro ⟨above, below⟩
    exact ⟨height.toNat, ⟨above, by omega⟩, UInt32.ofNat_toNat⟩

theorem ascending_heights (first last : Height) :
    (heights first last).Pairwise (fun a b => a.toNat < b.toNat) := by
  rw [heights, List.pairwise_map]
  refine List.Pairwise.imp_of_mem ?_ (List.pairwise_lt_range' (s := first.toNat) _)
  intro a b ha hb lt
  rw [List.mem_range'_1] at ha hb
  have within : b ≤ last.toNat := by omega
  rw [toNat_ofNat_of_le (Nat.le_trans (Nat.le_of_lt lt) within), toNat_ofNat_of_le within]
  exact lt

theorem sublist_sequential (reader : Reader) (heights : List Height) :
    ((sequential reader heights).1.map Item.height).Sublist heights := by
  induction heights with
  | nil => exact List.Sublist.refl _
  | cons height heights ih =>
    cases outcome : reader height with
    | error e => simp [sequential, outcome]
    | ok found =>
      cases found with
      | none => simpa [sequential, outcome] using ih.cons height
      | some payload => simpa [sequential, outcome] using ih

theorem reader_of_sequential {reader : Reader} {heights : List Height} {item : Item}
    (member : item ∈ (sequential reader heights).1) :
    reader item.height = .ok (some item.payload) := by
  induction heights with
  | nil => simp [sequential] at member
  | cons height heights ih =>
    cases outcome : reader height with
    | error e => simp [sequential, outcome] at member
    | ok found =>
      cases found with
      | none => exact ih (by simpa [sequential, outcome] using member)
      | some payload =>
        simp only [sequential, outcome, Option.map_some, Option.toList_some,
          List.singleton_append, List.mem_cons] at member
        rcases member with rfl | member
        · exact outcome
        · exact ih member

theorem reader_of_failed {reader : Reader} {heights : List Height} {e : Error}
    (failed : (sequential reader heights).2 = some e) : ∃ height, reader height = .error e := by
  induction heights with
  | nil => simp [sequential] at failed
  | cons height heights ih =>
    cases outcome : reader height with
    | error other =>
      simp only [sequential, outcome, Option.some.injEq] at failed
      exact ⟨height, by rw [outcome, failed]⟩
    | ok found => exact ih (by simpa [sequential, outcome] using failed)

theorem reader_of_complete {reader : Reader} {heights : List Height}
    (complete : (sequential reader heights).2 = none) {height : Height}
    (member : height ∈ heights) :
    reader height = .ok none ∨ ∃ payload, ⟨height, payload⟩ ∈ (sequential reader heights).1 := by
  induction heights with
  | nil => simp at member
  | cons first heights ih =>
    cases outcome : reader first with
    | error e => simp [sequential, outcome] at complete
    | ok found =>
      have rest : (sequential reader heights).2 = none := by
        simpa [sequential, outcome] using complete
      rcases List.mem_cons.mp member with rfl | member
      · cases found with
        | none => exact .inl outcome
        | some payload => exact .inr ⟨payload, by simp [sequential, outcome]⟩
      · refine (ih rest member).imp id ?_
        rintro ⟨payload, there⟩
        exact ⟨payload, by simp [sequential, outcome, there]⟩

end ChainStore.Range
