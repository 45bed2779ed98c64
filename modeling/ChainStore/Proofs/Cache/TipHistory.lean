import ChainStore.Proofs.Cache.History
import ChainStore.Proofs.Storage.Answer

set_option autoImplicit false
set_option relaxedAutoImplicit false

/-!
The tip of a cache over a stretch of its history that never resets it: neither by setting it nor by
a rollback. It climbs to the heights of the blocks that are accepted and is not moved by anything
else, whatever becomes of the blocks themselves.
-/

namespace ChainStore.Storage

/-- A row of the tip that shows a height, or no row when there is none to show. -/
def Shows (found : Option Height) (row : Option TipRow) : Prop :=
  row.map TipRow.height = found.map fun height => (height.toNat : Int)

theorem tipHeight_eq_ok {db : Database} {found : Option Height} :
    db.tipHeight = .ok found ↔ ∃ row, db.tip = some row ∧ Shows found row := by
  constructor
  · intro read
    rcases tipHeight_ok read with ⟨present, rfl⟩ | ⟨tip, height, present, rfl, level⟩
    · exact ⟨none, present, rfl⟩
    · exact ⟨some tip, present, congrArg some level⟩
  · rintro ⟨row, present, shows⟩
    have there : db.tipRow = .ok row := by rw [Database.tipRow, present]
    rw [Database.tipHeight, there]
    cases row with
    | none =>
      cases found with
      | none => rfl
      | some height => cases shows
    | some tip =>
      cases found with
      | none => cases shows
      | some height =>
        have level : tip.height = height.toNat := Option.some.inj shows
        simp only [bind, Except.bind, readRow, level, Cell.word_toNat, Except.map]

theorem tipHeight_congr {db other : Database} (same : other.tip = db.tip) :
    other.tipHeight = db.tipHeight := by
  simp only [Database.tipHeight, Database.tipRow, same]

end ChainStore.Storage

namespace ChainStore.Cache

open Storage

def Entry.accepted? (entry : Entry) : Option Height :=
  match entry.call.operation, entry.answer with
  | .acceptBlock block, .ok _ => some block.height
  | _, _ => none

/-- Whether an entry has moved the tip without regard to where it was. -/
def Entry.resets (entry : Entry) : Bool :=
  match entry.call.operation, entry.answer with
  | .setTip _, .ok _ => true
  | .rollBack _, .ok _ => true
  | _, _ => false

theorem shows_raised {found : Option Height} {row : Option TipRow} (shows : Shows found row)
    (height : Height) (now : Int) :
    Shows (some (found.elim height (max · height))) (some (raised height now row)) := by
  cases row with
  | none =>
    cases found with
    | none => rfl
    | some reached => cases shows
  | some tip =>
    cases found with
    | none => cases shows
    | some reached =>
      have level : tip.height = reached.toNat := Option.some.inj shows
      have top := UInt32.toNat_max reached height
      simp only [raised, Option.elim_some]
      split
      · rename_i reaches
        have same : tip.height = (max reached height).toNat := by omega
        exact congrArg some same
      · rename_i beyond
        have same : (height.toNat : Int) = (max reached height).toNat := by omega
        exact congrArg some same

private theorem max?_concat (heights : List Height) (height : Height) :
    (heights ++ [height]).max? = some (heights.max?.elim height (max · height)) := by
  cases heights with
  | nil => rfl
  | cons first heights =>
    rw [List.cons_append, List.max?_cons', List.max?_cons', List.foldl_append]
    rfl

private theorem tip_of_call {db : Database} {row : Option TipRow} (present : db.tip = some row)
    {entry : Entry} (plain : entry.resets = false) :
    (entry.effect db).tip = some row ∧ entry.accepted? = none ∨
      ∃ block answer, entry.call.operation = .acceptBlock block ∧ entry.answer = .ok answer ∧
        (entry.effect db).tip = some (some (raised block.height entry.call.now row)) := by
  obtain ⟨⟨operation, fired, now⟩, answer⟩ := entry
  cases answer with
  | error e => exact .inl ⟨present, by cases operation <;> rfl⟩
  | ok answer =>
    cases operation with
    | acceptBlock block =>
      refine .inr ⟨block, answer, rfl, rfl, ?_⟩
      exact congrArg (Option.map fun row => some (raised block.height now row)) present
    | setTip height | rollBack height => cases plain
    | _ => exact .inl ⟨present, rfl⟩

/-! ### A tip that can be read -/

private theorem lowerTip_readable {height : Height} {now : Int} {c after : Connection} {u : Unit}
    (succeeded : (lowerTip height now).run c = (.ok u, after)) :
    ∃ found, after.database.tipHeight = .ok found := by
  obtain ⟨found, middle, looked, moved⟩ := Task.bind_ok succeeded
  obtain ⟨read, same⟩ := query_ok looked
  have kept : middle = after → after.database.tipHeight = .ok found := by
    rintro rfl
    rw [same]
    exact read
  cases found with
  | none => exact ⟨none, kept (Prod.mk.inj moved).2⟩
  | some current =>
    simp only at moved
    split at moved
    · obtain ⟨top, last, -, lowering⟩ := Task.bind_ok moved
      cases top with
      | none =>
        have cleared := (clearTip_ok lowering).2
        exact ⟨none, tipHeight_eq_ok.mpr ⟨none, by rw [cleared], rfl⟩⟩
      | some top =>
        have written := (writeTip_ok lowering).2
        exact ⟨some top, tipHeight_eq_ok.mpr ⟨some ⟨top.toNat, now⟩, by rw [written], rfl⟩⟩
    · exact ⟨some current, kept (Prod.mk.inj moved).2⟩

private theorem rollBack_readable {height : Height} {now : Int} {c after : Connection} {n : Nat}
    (succeeded : (rollBack height now).run c = (.ok n, after)) :
    ∃ found, after.database.tipHeight = .ok found := by
  obtain ⟨_, _, -, rest⟩ := Task.bind_ok (Task.atomically_ok succeeded)
  obtain ⟨_, _, -, rest⟩ := Task.bind_ok rest
  obtain ⟨_, _, -, rest⟩ := Task.bind_ok rest
  obtain ⟨_, final, followed, answered⟩ := Task.bind_ok rest
  obtain rfl : final = after := (Prod.mk.inj answered).2
  exact lowerTip_readable (following_ok followed)

theorem readable_perform (call : Call) {c : Connection} {found : Option Height}
    (readable : c.database.tipHeight = .ok found) :
    ∃ next, (call.perform c).2.database.tipHeight = .ok next := by
  obtain ⟨row, present, shows⟩ := tipHeight_eq_ok.mp readable
  have effect := perform_effect call c
  cases resets : Entry.resets ⟨call, (call.perform c).1⟩ with
  | false =>
    rw [effect]
    rcases tip_of_call present resets with ⟨same, -⟩ | ⟨block, answer, -, -, moved⟩
    · exact ⟨found, tipHeight_eq_ok.mpr ⟨row, same, shows⟩⟩
    · exact ⟨_, tipHeight_eq_ok.mpr ⟨_, moved, shows_raised shows block.height call.now⟩⟩
  | true =>
    cases answer : (call.perform c).1 with
    | error e =>
      rw [answer] at resets
      obtain ⟨operation, fired, now⟩ := call
      cases operation <;> cases resets
    | ok answered =>
      have done := perform_ok (Prod.ext answer rfl)
      rw [answer] at resets effect
      obtain ⟨operation, fired, now⟩ := call
      cases operation with
      | setTip height =>
        have moved := congrArg (Option.map fun _ : Option TipRow =>
          some (TipRow.mk height.toNat now)) present
        refine ⟨some height, tipHeight_eq_ok.mpr ⟨some ⟨height.toNat, now⟩, ?_, rfl⟩⟩
        rw [effect]
        exact moved
      | rollBack height =>
        obtain ⟨n, rolled, -⟩ := Task.map_ok done
        exact rollBack_readable rolled
      | _ => cases resets

/-! ### Stretches of a history -/

private theorem tipHeight_of_quiet {step : Step} {db : Database} {found : Option Height}
    (readable : db.tipHeight = .ok found) (spares : step.spares .tip = true)
    (quiet : (step.apply db).1 = none) : (step.apply db).2.tip = db.tip := by
  obtain ⟨row, present, -⟩ := tipHeight_eq_ok.mp readable
  have there : db.has .tip = true := by simp [Database.has, present]
  exact agree_of_quiet .tip (by simp) there spares quiet

private theorem readable_run {db : Database} {initial : Option Height}
    (readable : db.tipHeight = .ok initial) {steps : List Step}
    (spared : ∀ step ∈ steps, step.spares .tip = true) :
    ∃ found, (run steps db).2.tipHeight = .ok found := by
  refine run_keeps (P := fun _ db => ∃ found, db.tipHeight = .ok found) ?_ ?_ spared ⟨_, readable⟩
  · rintro entries call c ⟨found, read⟩
    exact readable_perform call read
  · rintro entries step db ⟨found, read⟩ spares quiet
    exact ⟨found, (tipHeight_congr (tipHeight_of_quiet read spares quiet)).trans read⟩

theorem tipHeight_of_run {db : Database} {found : Option Height}
    (readable : db.tipHeight = .ok found) {steps : List Step}
    (spared : ∀ step ∈ steps, step.spares .tip = true)
    (plain : ∀ entry ∈ (run steps db).1, entry.resets = false) :
    (run steps db).2.tipHeight =
      .ok (found.toList ++ (run steps db).1.filterMap Entry.accepted?).max? := by
  refine run_keeps (P := fun entries db => (∀ entry ∈ entries, entry.resets = false) →
    db.tipHeight = .ok (found.toList ++ entries.filterMap Entry.accepted?).max?) ?_ ?_ spared ?_ plain
  · intro entries call c reached plain
    have read := reached fun entry member => plain entry (List.mem_append_left _ member)
    obtain ⟨row, present, shows⟩ := tipHeight_eq_ok.mp read
    have last := plain _ (List.mem_append_right entries List.mem_cons_self)
    rw [perform_effect, List.filterMap_append, ← List.append_assoc]
    rcases tip_of_call present last with ⟨same, none⟩ | ⟨block, answer, accepts, succeeded, moved⟩
    · simp only [List.filterMap_cons, none, List.filterMap_nil, List.append_nil]
      rw [tipHeight_congr (same.trans present.symm), read]
    · have accepted : Entry.accepted? ⟨call, (call.perform c).1⟩ = some block.height := by
        simp only at accepts succeeded
        simp only [Entry.accepted?, accepts, succeeded]
      simp only [List.filterMap_cons, accepted, List.filterMap_nil, max?_concat]
      exact tipHeight_eq_ok.mpr ⟨_, moved, shows_raised shows block.height call.now⟩
  · intro entries step db reached spares quiet plain
    have read := reached plain
    exact (tipHeight_congr (tipHeight_of_quiet read spares quiet)).trans read
  · intro _
    rw [readable]
    cases found <;> rfl

private theorem tip_of_step {step : Step} {db : Database} {found : Option Height}
    (readable : db.tipHeight = .ok found) (spares : step.spares .tip = true)
    (plain : ∀ entry, (step.apply db).1 = some entry → entry.resets = false) :
    (step.apply db).2.tip = db.tip ∨
      ∃ call block answer, (step.apply db).1 = some ⟨call, .ok answer⟩ ∧
        call.operation = .acceptBlock block ∧
        (∀ row, db.tip = some (some row) → row.height < block.height.toNat) ∧
        (step.apply db).2.tip = some (some ⟨block.height.toNat, call.now⟩) := by
  obtain ⟨row, present, -⟩ := tipHeight_eq_ok.mp readable
  cases made : (step.apply db).1 with
  | none => exact .inl (tipHeight_of_quiet readable spares made)
  | some entry =>
    rw [apply_of_entry made]
    rcases tip_of_call present (plain entry made) with
      ⟨same, -⟩ | ⟨block, answer, accepts, succeeded, moved⟩
    · exact .inl (same.trans present.symm)
    · obtain ⟨call, _⟩ := entry
      obtain rfl := succeeded
      rw [moved, present]
      cases row with
      | none => exact .inr ⟨call, block, answer, rfl, accepts, by simp, rfl⟩
      | some tip =>
        by_cases reaches : (block.height.toNat : Int) ≤ tip.height
        · rw [raised, if_pos reaches]
          exact .inl rfl
        · rw [raised, if_neg reaches]
          refine .inr ⟨call, block, answer, rfl, accepts, ?_, rfl⟩
          rintro row there
          obtain rfl := Option.some.inj (Option.some.inj there)
          exact not_le.mp reaches

/-- From any state in which the tip can be read, and over any stretch of the history in which nobody
sets the tip and nothing is rolled back: in the end the tip is the greatest of the height it had and
those of the blocks that were accepted. A step leaves its row as it is, unless the step accepts a
block above the tip, or where there was none. -/
theorem tip_of_history {db : Database} {initial : Option Height}
    (readable : db.tipHeight = .ok initial) {earlier stretch : List Step}
    (spared : ∀ step ∈ earlier ++ stretch, step.spares .tip = true)
    (plain : ∀ entry ∈ (run stretch (run earlier db).2).1, entry.resets = false) :
    let start := (run earlier db).2
    let ran := run stretch start
    (∃ found, start.tipHeight = .ok found ∧
      ran.2.tipHeight = .ok (found.toList ++ ran.1.filterMap Entry.accepted?).max?) ∧
    ∀ (before after : List Step) (step : Step), stretch = before ++ step :: after →
      let now := (run before start).2
      let next := (step.apply now).2
      next.tip = now.tip ∨
        ∃ call block answer, (step.apply now).1 = some ⟨call, .ok answer⟩ ∧
          call.operation = .acceptBlock block ∧
          (∀ row, now.tip = some (some row) → row.height < block.height.toNat) ∧
          next.tip = some (some ⟨block.height.toNat, call.now⟩) := by
  intro start ran
  have spared_earlier : ∀ step ∈ earlier, step.spares .tip = true :=
    fun step member => spared step (List.mem_append_left stretch member)
  have spared_stretch : ∀ step ∈ stretch, step.spares .tip = true :=
    fun step member => spared step (List.mem_append_right earlier member)
  obtain ⟨found, read⟩ := readable_run readable spared_earlier
  refine ⟨⟨found, read, tipHeight_of_run read spared_stretch plain⟩, ?_⟩
  intro before after step split now next
  subst split
  have spared_before : ∀ step ∈ before, step.spares .tip = true :=
    fun step member => spared_stretch step (List.mem_append_left _ member)
  obtain ⟨reached, read_now⟩ := readable_run read spared_before
  have spares := spared_stretch step (List.mem_append_right before List.mem_cons_self)
  refine tip_of_step read_now spares fun entry made => plain entry ?_
  have first : entry ∈ (run (step :: after) now).1 := by
    have applied : (step.apply now).1 = some entry := made
    simp [run, applied]
  simp only [run_append]
  exact List.mem_append_right _ first

private def settings : List Step := [.call Layout.fresh ⟨.setTip 10, false, 1⟩]

/-- A block below the tip, one above it that comes without the tip, one that raises the tip and is
removed, and one that is refused. -/
private def climb : List Step :=
  let accept (height : Height) (now : Int) : Step :=
    .call Layout.fresh ⟨.acceptBlock ⟨height, "ab", "", false, []⟩, false, now⟩
  [accept 5 2, .call Layout.fresh ⟨.putBlock ⟨20, "ab", "", false, []⟩, false, 3⟩, accept 12 4,
    .call Layout.fresh ⟨.removeBlock 12, false, 5⟩,
    .interfere (.reject ⟨.tip, .update, "no", none⟩), accept 30 6]

theorem climbed_tip_of_history :
    (Layout.laidOut .blank).tipHeight = .ok none ∧
      (∀ step ∈ settings ++ climb, step.spares .tip = true) ∧
      (∀ entry ∈ (run climb (run settings (Layout.laidOut .blank)).2).1, entry.resets = false) ∧
      (run climb (run settings (Layout.laidOut .blank)).2).1.filterMap Entry.accepted? = [5, 12] ∧
      (run settings (Layout.laidOut .blank)).2.tipHeight = .ok (some 10) ∧
      (run climb (run settings (Layout.laidOut .blank)).2).2.tipHeight = .ok (some 12) := by
  have readable : (Layout.laidOut .blank).tipHeight = .ok none := rfl
  have spared : ∀ step ∈ settings ++ climb, step.spares .tip = true := by decide
  have plain : ∀ entry ∈ (run climb (run settings (Layout.laidOut .blank)).2).1,
      entry.resets = false := by decide +kernel
  have accepted : (run climb (run settings (Layout.laidOut .blank)).2).1.filterMap
      Entry.accepted? = [5, 12] := by decide +kernel
  have set : (run settings (Layout.laidOut .blank)).2.tipHeight = .ok (some 10) := by
    decide +kernel
  obtain ⟨found, start, final⟩ := (tip_of_history readable spared plain).1
  rw [set] at start
  obtain rfl := Except.ok.inj start
  rw [accepted] at final
  exact ⟨readable, spared, plain, accepted, set, final⟩

end ChainStore.Cache
