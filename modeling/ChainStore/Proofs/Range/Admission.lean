import ChainStore.Range.Pipeline

set_option autoImplicit false
set_option relaxedAutoImplicit false

/-!
Which ranges are admitted, counted in the natural numbers, and which channels the machine makes for
them.
-/

namespace ChainStore.Range

variable {first last : Height} {limit : UInt32}

def span (first last : Height) : Nat := last.toNat - first.toNat + 1

theorem check_eq (first last : Height) (limit : UInt32) :
    check first last limit =
      if last.toNat < first.toNat then .error (.invalidRange first last)
      else if limit.toNat < span first last then .error (.rangeTooLarge first last limit)
      else .ok () := by
  unfold check
  by_cases inverted : last.toNat < first.toNat
  · rw [if_pos inverted, if_pos (UInt32.lt_iff_toNat_lt.mpr inverted)]
  · have ordered : first ≤ last := UInt32.le_iff_toNat_le.mpr (Nat.le_of_not_lt inverted)
    have counted : (last - first).toNat + 1 = span first last := by
      rw [UInt32.toNat_sub_of_le _ _ ordered, span]
    rw [if_neg inverted, if_neg (UInt32.not_lt.mpr ordered), counted]

theorem check_eq_ok : check first last limit = .ok () ↔
    first.toNat ≤ last.toNat ∧ span first last ≤ limit.toNat := by
  rw [check_eq]
  split
  · rename_i inverted
    exact iff_of_false (by simp) fun ⟨ordered, _⟩ => Nat.not_lt.mpr ordered inverted
  · rename_i ordered
    split
    · rename_i wide
      exact iff_of_false (by simp) fun ⟨_, narrow⟩ => Nat.not_lt.mpr narrow wide
    · rename_i narrow
      exact iff_of_true rfl ⟨Nat.le_of_not_lt ordered, Nat.le_of_not_lt narrow⟩

theorem check_eq_invalidRange : check first last limit = .error (.invalidRange first last) ↔
    last.toNat < first.toNat := by
  rw [check_eq]
  split
  · rename_i inverted
    exact iff_of_true rfl inverted
  · rename_i ordered
    split <;> simp [ordered]

theorem check_eq_rangeTooLarge :
    check first last limit = .error (.rangeTooLarge first last limit) ↔
      first.toNat ≤ last.toNat ∧ limit.toNat < span first last := by
  rw [check_eq]
  split
  · rename_i inverted
    simp [Nat.not_le.mpr inverted]
  · rename_i ordered
    split
    · rename_i wide
      exact iff_of_true rfl ⟨Nat.le_of_not_lt ordered, wide⟩
    · rename_i narrow
      simp [narrow]

theorem check_of_refused (refused : ¬ (first.toNat ≤ last.toNat ∧ span first last ≤ limit.toNat)) :
    check first last limit =
      .error (if last.toNat < first.toNat then .invalidRange first last
        else .rangeTooLarge first last limit) := by
  rw [check_eq]
  by_cases inverted : last.toNat < first.toNat
  · rw [if_pos inverted, if_pos inverted]
  · have wide : limit.toNat < span first last := by omega
    rw [if_neg inverted, if_neg inverted, if_pos wide]

theorem room_of_valid {settings : Settings} (valid : settings.validate = .ok ()) :
    settings.limits.streamBuffer.toNat ≠ 0 := by
  intro none
  have zero : settings.limits.streamBuffer = 0 := UInt64.toNat_inj.mp none
  unfold Settings.validate at valid
  repeat' split at valid
  all_goals simp_all

theorem accept_of_made {limits : Limits} (room : 0 < limits.streamBuffer.toNat)
    (made : limits.streamBuffer.toNat ≤ maxCapacity) (first last : Height) :
    accept limits first last =
      match check first last limits.maxRangeSpan with
      | .error e => .error (.error e)
      | .ok _ => .ok (.start first last limits.streamBuffer.toNat) := by
  have fits : ¬ (limits.streamBuffer.toNat = 0 ∨ maxCapacity < limits.streamBuffer.toNat) := by
    omega
  unfold accept
  cases check first last limits.maxRangeSpan with
  | error e => rfl
  | ok _ => exact if_neg fits

theorem accept_eq_crash {limits : Limits} : accept limits first last = .error .crash ↔
    check first last limits.maxRangeSpan = .ok () ∧
      (limits.streamBuffer.toNat = 0 ∨ maxCapacity < limits.streamBuffer.toNat) := by
  unfold accept
  cases check first last limits.maxRangeSpan with
  | error e => simp
  | ok _ => simp only [ite_eq_left_iff, reduceCtorEq, imp_false, Decidable.not_not, true_and]

end ChainStore.Range
