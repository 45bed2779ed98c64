import ChainStore.CommandLine.Run
import ChainStore.Proofs.Files.Opening
import ChainStore.Proofs.Range.Stretch

set_option autoImplicit false
set_option relaxedAutoImplicit false

/-!
What the command that lists a range prints. Its loop hears one answer after the other, prints a line
for each block and counts it, and measures the range when it has heard the end; it is written down
here with a subtraction that does not wrap, so that a range measured the wrong way round would be
seen to crash. The loop does not know of the log, which goes to the same output.
-/

namespace ChainStore.CommandLine

open Files (Disk Link)
open Range (Item Poll Race told ready Settled lookUp heights sequential stored)

/-- The way from one height up to another. To go below zero is a crash. -/
def distance (first last : Height) : Except Failure UInt32 :=
  if last < first then .error .crash else .ok (last - first)

def admission (first last : Height) (limit : UInt32) : Except Failure Unit :=
  if last < first then .error (.error (.invalidRange first last))
  else
    match distance first last with
    | .error failure => .error failure
    | .ok steps =>
      if limit.toNat < steps.toNat + 1 then .error (.error (.rangeTooLarge first last limit))
      else .ok ()

/-- The loop of the command over the answers to its questions, with what it has printed and how many
blocks it has counted so far. While nothing has ended the range, the command is not over. -/
def recite (first last : Height) (printed : String) (count : Nat) : List Poll → Option Outcome
  | [] => none
  | .pending :: answers => recite first last printed count answers
  | .item item :: answers => recite first last (printed ++ itemLine item) (count + 1) answers
  | .failed e :: _ => some (.finished (.failure printed (errorReport e)))
  | .ended :: _ =>
    match distance first last with
    | .error _ => some .crash
    | .ok steps =>
      some (.finished (.success
        (printed ++ s!"range: {count} of {steps.toNat + 1} heights stored\n")))

def listing (limits : Limits) (first last : Height) (answers : List Poll) : Option Outcome :=
  match admission first last limits.maxRangeSpan with
  | .error (.error e) => some (.finished (.failure "" (errorReport e)))
  | .error .crash => some .crash
  | .ok _ => recite first last "" 0 answers

variable {first last : Height}

theorem distance_of_le (ordered : first ≤ last) : distance first last = .ok (last - first) :=
  if_neg (UInt32.not_lt.mpr ordered)

theorem admission_eq (first last : Height) (limit : UInt32) :
    admission first last limit = (Range.check first last limit).mapError .error := by
  unfold admission Range.check
  by_cases inverted : last < first
  · rw [if_pos inverted, if_pos inverted]
    rfl
  · rw [if_neg inverted, if_neg inverted, distance_of_le (UInt32.not_lt.mp inverted)]
    simp only
    split <;> rfl

theorem woven_of_blank {asides : Nat → String} (blank : ∀ n, asides n = "") (n : Nat)
    (lines : List String) : woven asides n lines = String.join lines := by
  induction lines generalizing n with
  | nil => exact blank n
  | cons line lines ih =>
    rw [woven, blank, ih, String.join_cons, String.empty_append]

theorem Log.written_of_terse {log : Log} (terse : log.Terse) (ending : Option Error)
    (lines : List String) :
    log.written ending lines = String.join (log.warned ending lines) :=
  woven_of_blank terse 0 _

theorem Log.warned_of_quiet {log : Log} {ending : Option Error}
    (quiet : ending.bind log.warning? = none) (lines : List String) :
    log.warned ending lines = lines := by
  rw [warned, quiet]

theorem Log.written_silent (ending : Option Error) (lines : List String) :
    Log.silent.written ending lines = String.join lines := by
  have quiet : ending.bind Log.silent.warning? = none := by cases ending <;> rfl
  rw [Log.written_of_terse (fun _ => rfl), Log.warned_of_quiet quiet]

theorem recite_ready (printed : String) (count : Nat) (answers more : List Poll) :
    recite first last printed count (answers ++ more) =
      recite first last printed count (ready answers ++ more) := by
  induction answers generalizing printed count with
  | nil => rfl
  | cons answer answers ih =>
    cases answer with
    | pending => exact ih printed count
    | item item => exact ih (printed ++ itemLine item) (count + 1)
    | failed e | ended => rfl

theorem recite_told (ordered : first ≤ last) (before items : List Item) (ending : Option Error)
    {count : Nat} (enough : items.length < count) :
    recite first last (String.join (before.map itemLine)) before.length
        ((List.range count).map (told (items, ending))) =
      some (.finished (rangeOutput .silent first last (before ++ items) ending)) := by
  obtain ⟨count, rfl⟩ := Nat.exists_eq_add_one_of_ne_zero (Nat.ne_zero_of_lt enough)
  induction items generalizing before count with
  | nil =>
    rw [Range.told_farewell, List.append_nil]
    cases ending with
    | some e => simp only [Range.farewell, recite, rangeOutput, Log.written_silent]
    | none =>
      simp only [Range.farewell, recite, distance_of_le ordered, rangeOutput, Log.written_silent,
        String.join_append, String.join_cons, String.join_nil, String.append_empty]
      rfl
  | cons item items ih =>
    have printed : String.join (before.map itemLine) ++ itemLine item =
        String.join ((before ++ [item]).map itemLine) := by
      rw [List.map_append, String.join_append, List.map_singleton, String.join_cons,
        String.join_nil, String.append_empty]
    have counted : before.length + 1 = (before ++ [item]).length := by simp
    have fewer : items.length < count := by
      rw [List.length_cons] at enough
      omega
    obtain ⟨count, rfl⟩ := Nat.exists_eq_add_one_of_ne_zero (Nat.ne_zero_of_lt fewer)
    rw [Range.told_item, recite, printed, counted, ih _ count fewer,
      List.append_assoc]
    rfl

/-! ### The command -/

theorem limits_settings (invocation : Invocation) (loaded : Settings) :
    (invocation.settings loaded).limits = loaded.limits := by
  unfold Invocation.settings
  split <;> rfl

variable {limits : Limits} {now : Int} {c : Storage.Connection}

theorem execute_refused {e : Error}
    (refused : Range.check first last limits.maxRangeSpan = .error e) (log : Log) :
    Command.execute (.range first last) log limits now c =
      (.finished (.failure (log.written none []) (errorReport e)), c) := by
  simp only [Command.execute, Range.accept, refused]

theorem execute_admitted (admitted : Range.check first last limits.maxRangeSpan = .ok ())
    (room : 0 < limits.streamBuffer.toNat)
    (made : limits.streamBuffer.toNat ≤ Range.maxCapacity) (log : Log) :
    let found := sequential (Cache.rangeRead c) (heights first last)
    Command.execute (.range first last) log limits now c =
      (.finished (rangeOutput log first last found.1 found.2), c) := by
  intro found
  simp only [Command.execute, Range.accept_of_made room made, admitted]
  rw [Range.drain_start _ first last room 0]

/-- However the two sides of an admitted range interleave, the loop prints what reading its heights
one after the other finds. -/
private theorem listing_admitted (admitted : Range.check first last limits.maxRangeSpan = .ok ())
    (room : 0 < limits.streamBuffer.toNat) {items : List Item} {ending : Option Error}
    (found : sequential (Cache.rangeRead c) (heights first last) = (items, ending))
    (moves : List Range.Move) (ahead count : Nat) (calm : ∀ move ∈ moves, move.calm = true) :
    let ran := Race.run (Race.steady (Cache.rangeRead c) moves)
      (.start first last limits.streamBuffer.toNat)
    last.toNat - first.toNat + 1 < (ready ran.1).length + count →
      listing limits first last
          (ran.1 ++ ran.2.pipeline.asked ahead (Cache.rangeRead c) count) =
        some (.finished (rangeOutput .silent first last items ending)) := by
  intro ran enough
  have ordered : first ≤ last := UInt32.le_iff_toNat_le.mpr (Range.check_eq_ok.mp admitted).1
  have hears : ready ran.1 ++ ran.2.pipeline.asked ahead (Cache.rangeRead c) count = _ :=
    Range.answers_of_calm (Range.forthright_rangeRead c) first last room calm ahead count
  have fewer : items.length < (ready ran.1).length + count := by
    have counted := (Range.sublist_sequential (Cache.rangeRead c) (heights first last)).length_le
    rw [found] at counted
    simp only [heights, List.length_map, List.length_range'] at counted
    omega
  rw [listing, admission_eq, admitted]
  simp only [Except.mapError]
  rw [recite_ready, hears, found]
  exact recite_told ordered [] items ending fewer

/-- A run prints lines, and the log writes between them. Where the filter lets nothing pass but
warnings, that is the warning about an error that ends the run; and where this does not pass either,
or there is no such error, it is nothing. -/
structure Prints (log : Log) (outcome : Outcome) (own : Output) (printed : List String)
    (ending : Option Error) : Prop where
  alone : own.stdout = String.join printed
  written : outcome = .finished { own with stdout := log.written ending printed }
  warned : log.Terse →
    outcome = .finished { own with stdout := String.join (log.warned ending printed) }
  quiet : log.Terse → ending.bind log.warning? = none → outcome = .finished own

theorem Prints.of_written {log : Log} {outcome : Outcome} {own : Output} {printed : List String}
    {ending : Option Error} (alone : own.stdout = String.join printed)
    (written : outcome = .finished { own with stdout := log.written ending printed }) :
    Prints log outcome own printed ending := by
  have warned (terse : log.Terse) :
      outcome = .finished { own with stdout := String.join (log.warned ending printed) } := by
    rw [written, Log.written_of_terse terse]
  refine ⟨alone, written, warned, fun terse quiet => ?_⟩
  rw [warned terse, Log.warned_of_quiet quiet, ← alone]

/-- A listing of a range accounts for every height of it. A range that is not admitted is refused
with nothing printed, and without a measure that goes below zero, whatever there is to be heard. Of
an admitted range every block whose row can be read is printed, one line each in ascending order, up
to the end and with a summary behind them, or up to the first height that cannot be read. However
the two sides of the range interleave, the loop prints the same, and does not crash. With the log
filtered out that is all there is on the output. What a wider filter lets pass stands between these
lines: where that is nothing but warnings, one line about a height that cannot be read. -/
theorem range_accounts_for_heights {arguments : List String} {invocation : Invocation}
    {disk found : Disk} {loaded : Settings} {link : Link}
    (sensible : invocation? arguments = some invocation)
    (ranged : invocation.command = .range first last)
    (read : Settings.load invocation.settingsFile disk = .ok loaded)
    (opened : Files.openCache (invocation.settings loaded) [] disk = (.ok link, found))
    (made : loaded.limits.streamBuffer.toNat ≤ Range.maxCapacity) (log : Log) (now : Int) :
    let c := link.connection found
    let limits := loaded.limits
    let span := last.toNat - first.toNat + 1
    let ran := (run arguments log now disk).1
    ∃ (own : Output) (printed : List String) (ending : Option Error),
      Prints log ran own printed ending ∧
      (¬ (first.toNat ≤ last.toNat ∧ span ≤ limits.maxRangeSpan.toNat) →
        ending = none ∧ printed = [] ∧ own.code = 1 ∧
        own.stderr = "Error: " ++ errorReport (if last.toNat < first.toNat
          then .invalidRange first last else .rangeTooLarge first last limits.maxRangeSpan)
            ++ "\n" ∧
        ∀ answers, listing limits first last answers = some (.finished own)) ∧
      (first.toNat ≤ last.toNat → span ≤ limits.maxRangeSpan.toNat →
        (∀ (moves : List Range.Move) (ahead count : Nat), (∀ move ∈ moves, move.calm = true) →
          let ran := Race.run (Race.steady (Cache.rangeRead c) moves)
            (.start first last limits.streamBuffer.toNat)
          span < (ready ran.1).length + count →
            listing limits first last
                (ran.1 ++ ran.2.pipeline.asked ahead (Cache.rangeRead c) count) =
              some (.finished own)) ∧
        ((∀ height : Height, first.toNat ≤ height.toNat → height.toNat ≤ last.toNat →
            Settled c height) ∧
          ending = none ∧ own.code = 0 ∧ own.stderr = "" ∧
          (∃ items, List.Forall₂ Item.Shows items
              (c.database.stretch first.toNat (last.toNat + 1)) ∧
            printed = items.map itemLine ++
              [s!"range: {items.length} of {span} heights stored\n"]) ∨
        ∃ (bad : Height) (fault : Storage.Fault),
          first.toNat ≤ bad.toNat ∧ bad.toNat ≤ last.toNat ∧
          (∀ height : Height, first.toNat ≤ height.toNat → height.toNat < bad.toNat →
            Settled c height) ∧
          lookUp c bad = .error (.storage (.readingBlock bad) fault) ∧
          let e : Error := .storage (.readingForRange bad) fault
          ending = some e ∧ own.code = 1 ∧
          own.stderr = "Error: " ++ errorReport e ++ "\n" ∧
          ∃ items, List.Forall₂ Item.Shows items
              (c.database.stretch first.toNat bad.toNat) ∧
            printed = items.map itemLine)) := by
  intro c limits span ran
  have same : (invocation.settings loaded).limits = limits := limits_settings invocation loaded
  have room : 0 < limits.streamBuffer.toNat :=
    Nat.pos_of_ne_zero (same ▸ Range.room_of_valid (Files.valid_of_openCache opened))
  have executed : ran = (Command.execute (.range first last) log limits now c).1 := by
    simp only [ran]
    rw [run_of_invocation? sensible]
    simp only [Invocation.run, read, opened, ranged, same]
    rfl
  by_cases within : first.toNat ≤ last.toNat ∧ span ≤ limits.maxRangeSpan.toNat
  · have admitted : Range.check first last limits.maxRangeSpan = .ok () :=
      Range.check_eq_ok.mpr within
    rw [execute_admitted admitted room made] at executed
    rcases Range.sequential_shows c within.1 with
      ⟨settled, items, found, shows⟩ |
      ⟨bad, fault, low, high, settled, looked, items, found, shows⟩
    · have measured : (last - first).toNat + 1 = span := by
        rw [UInt32.toNat_sub_of_le _ _ (UInt32.le_iff_toNat_le.mpr within.1)]
      rw [found] at executed
      refine ⟨rangeOutput .silent first last items none, _, none,
        .of_written (Log.written_silent none _) executed, fun refused => absurd within refused,
        fun _ _ => ⟨listing_admitted admitted room found, .inl ⟨settled, rfl, rfl, rfl, items,
          shows, ?_⟩⟩⟩
      rw [← measured]
      rfl
    · rw [found] at executed
      exact ⟨rangeOutput .silent first last items (some _), _, some _,
        .of_written (Log.written_silent _ _) executed, fun refused => absurd within refused,
        fun _ _ => ⟨listing_admitted admitted room found, .inr ⟨bad, fault, low, high, settled,
          looked, rfl, rfl, rfl, items, shows, rfl⟩⟩⟩
  · have refused := Range.check_of_refused within
    rw [execute_refused refused] at executed
    refine ⟨.failure "" _, [], none, .of_written rfl executed,
      fun _ => ⟨rfl, rfl, rfl, rfl, fun answers => ?_⟩, fun low high => absurd ⟨low, high⟩ within⟩
    rw [listing, admission_eq, refused]
    rfl

/-- A cache with a block and, at the last height of all, a row whose payload is a number. -/
private def gappy : Storage.Database :=
  let block : Block := ⟨4294967293, "ab", "", false, [7]⟩
  let row : Storage.BlockRow := ⟨4294967295, .text "cd", .text "ab", .int 0, .int 3⟩
  { Cache.Layout.fresh.database with
    blocks := some ((Storage.BlockTable.empty.put (.ofBlock block)).put row) }

private def gappyPlace : Files.Place := Disk.empty.home ++ [Files.Name.ofText "d"]

private def gappyDisk : Disk := Disk.empty.set gappyPlace (.file (.database gappy gappy))

/-- A log that tells of the opening, and warns when all lines in front of the failure are out. -/
private def gappyLog : Log := ⟨fun _ => some "WARN\n", 5, fun n => if n = 0 then "INFO\n" else ""⟩

theorem gappy_range_accounts_for_heights :
    let arguments := ["--db", "d", "range", "4294967290", "4294967295"]
    let invocation : Invocation := ⟨"cache.toml", some "d", .range 4294967290 4294967295⟩
    let link : Link := { location := .file gappyPlace, known := gappy.tables }
    let found := gappyDisk.setDatabase gappyPlace { gappy with logged := true }
    invocation? arguments = some invocation ∧ Settings.load "cache.toml" gappyDisk = .ok {} ∧
      Files.openCache (invocation.settings {}) [] gappyDisk = (.ok link, found) ∧
      ({} : Limits).streamBuffer.toNat ≤ Range.maxCapacity ∧
      ∃ own printed ending,
        Prints gappyLog (run arguments gappyLog 0 gappyDisk).1 own printed ending ∧
        own.code = 1 ∧
        gappyLog.written ending printed = "INFO\n4294967293  1 bytes\nWARN\n" := by
  intro arguments invocation link found
  have sensible : invocation? arguments = some invocation := by decide +kernel
  have read : Settings.load "cache.toml" gappyDisk = .ok {} := by decide +kernel
  have opened : Files.openCache (invocation.settings {}) [] gappyDisk = (.ok link, found) := by
    decide +kernel
  have made : ({} : Limits).streamBuffer.toNat ≤ Range.maxCapacity := by decide
  obtain ⟨own, printed, ending, prints, -, listed⟩ :=
    range_accounts_for_heights sensible rfl read opened made gappyLog 0
  refine ⟨sensible, read, opened, made, own, printed, ending, prints, ?_⟩
  rcases (listed (by decide) (by decide)).2 with
    ⟨settled, -⟩ | ⟨bad, fault, -, -, -, -, -, code, -⟩
  · have unreadable : lookUp (link.connection found) 4294967295 =
        .error (.storage (.readingBlock 4294967295) (.wrongKind 0 "payload" .integer)) := by
      decide +kernel
    rcases settled 4294967295 (by decide) (by decide) with ⟨payload, seen⟩ | missing
    · cases unreadable.symm.trans seen
    · cases unreadable.symm.trans missing
  · -- The report is left alone: it is long to compute.
    have shown : (match (run arguments gappyLog 0 gappyDisk).1 with
        | .finished output => output.stdout
        | _ => "") = "INFO\n4294967293  1 bytes\nWARN\n" := by
      decide +kernel
    rw [prints.written] at shown
    exact ⟨code, shown⟩

end ChainStore.CommandLine
