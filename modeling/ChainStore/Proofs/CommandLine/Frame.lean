import ChainStore.Proofs.Cache.Failures
import ChainStore.Proofs.Cache.History
import ChainStore.Proofs.CommandLine.Listing
import ChainStore.Proofs.Files.Keeping
import ChainStore.Proofs.Session.Crashes

set_option autoImplicit false
set_option relaxedAutoImplicit false

/-!
What a command line may change, and what its exit code says. The rows of a cache are changed by a
rollback that exits with zero and by nothing else, and then as the operation of the cache changes
them. The exit code is zero exactly if the settings are loaded, the cache is opened and the
operation behind the command succeeds.
-/

namespace ChainStore.Cache

open Storage (Connection Database)

/-- A rollback that succeeds with the log switched on succeeds as well without it, counts the same
and makes the same of the database. -/
theorem rollBack_before_log {c after : Connection} {db : Database} {height : Height} {now : Int}
    {n : Nat} (logs : db.Logs c.database)
    (rolled : Call.perform ⟨.rollBack height, false, now⟩ c = (.ok (.count n), after)) :
    ∃ early, Call.perform ⟨.rollBack height, false, now⟩ (c.holding db) = (.ok (.count n), early) ∧
      early.database.Logs after.database := by
  rcases logs with same | logged
  · exact ⟨after, by rw [← same]; exact rolled, .inl rfl⟩
  · obtain ⟨_, ran, same⟩ := Storage.Task.map_ok (perform_ok rolled)
    cases same
    have outcome := outcome_rollBack c height now
    rw [ran] at outcome
    cases outcome with
    | rolled free cut purged lowered =>
      -- The log keeps out those who do not heed locks, so here locks are heeded.
      have free' : ¬ (c.holding db).KeptOut := by
        unfold Connection.KeptOut at free ⊢
        rw [logged] at free
        cases heeds : c.heedsLocks <;> simp_all [Connection.holding]
      rw [logged] at cut purged lowered
      have outcome := outcome_rollBack (c.holding db) height now
      cases again : (rollBack height now).run (c.holding db) with
      | mk result early =>
        rw [again] at outcome
        cases outcome with
        | keptOut kept => exact absurd kept free'
        | blocksStay _ barred => exact absurd barred cut
        | transactionsStay _ _ barred => exact absurd barred purged
        | inconsistent _ _ _ barred => exact absurd barred lowered
        | rolled =>
          obtain ⟨table, row, transactions, blocks, tip, filed, counted, left⟩ := rollBack_ok ran
          obtain ⟨table', row', transactions', blocks', tip', filed', counted', left'⟩ :=
            rollBack_ok again
          rw [logged] at blocks tip filed left
          obtain rfl : table = table' := Option.some.inj (blocks.symm.trans blocks')
          obtain rfl : row = row' := Option.some.inj (tip.symm.trans tip')
          obtain rfl : transactions = transactions' := Option.some.inj (filed.symm.trans filed')
          refine ⟨early, ?_, .inr (by rw [left, left']; rfl)⟩
          show (Answer.count <$> rollBack height now).run (c.holding db) = _
          rw [Storage.Task.run_map, again, counted, counted']

end ChainStore.Cache

namespace ChainStore.CommandLine

open Cache (Call Operation)
open Files (Disk Link)
open Storage (Connection Database)

/-! ### What a command asks for -/

inductive TransactionQuery.Selects : TransactionQuery → TransactionKey → Prop where
  | hash {query : TransactionQuery} {hash : String} (given : query.hash = some hash) :
    Selects query (.hash hash)
  | position {query : TransactionQuery} {height : Height} {index : UInt32}
    (unhashed : query.hash = none) (placed : query.height = some height)
    (indexed : query.index = some index) : Selects query (.position height index)
  | inBlock {query : TransactionQuery} {blockHash : String} {index : UInt32}
    (unhashed : query.hash = none) (unplaced : query.height = none)
    (held : query.blockHash = some blockHash) (indexed : query.index = some index) :
    Selects query (.inBlock blockHash index)

theorem TransactionQuery.key?_eq_some {query : TransactionQuery} {key : TransactionKey} :
    query.key? = some key ↔ query.Selects key := by
  obtain ⟨hash, height, blockHash, index⟩ := query
  constructor
  · intro selected
    cases hash with
    | some hash =>
      cases selected
      exact .hash rfl
    | none =>
      cases height with
      | some height =>
        cases index with
        | some index =>
          cases selected
          exact .position rfl rfl rfl
        | none => cases selected
      | none =>
        cases blockHash with
        | some blockHash =>
          cases index with
          | some index =>
            cases selected
            exact .inBlock rfl rfl rfl rfl
          | none => cases selected
        | none => cases selected
  · rintro (given | ⟨unhashed, placed, indexed⟩ | ⟨unhashed, unplaced, held, indexed⟩) <;>
      simp_all [key?]

def Answers (operation : Operation) (now : Int) (c : Connection) : Prop :=
  ∃ answer, (Call.perform ⟨operation, false, now⟩ c).1 = .ok answer

/-- The operation behind a command succeeds. For a range that is its admission and reading it to its
end, however far the producer runs ahead. -/
def Command.Succeeds (limits : Limits) (now : Int) (c : Connection) : Command → Prop
  | .tip => Answers .tip now c
  | .block height _ => Answers (.blockAt height) now c
  | .blockByHash hash => Answers (.blockWithHash hash) now c
  | .transaction query => ∃ key, query.Selects key ∧ Answers (.transaction key) now c
  | .range first last => ∃ pipeline, Range.accept limits first last = .ok pipeline ∧
      ∀ ahead, ∃ items, pipeline.collect ahead (Cache.rangeRead c) false = .ok items
  | .rollback height => Answers (.rollBack height) now c

def Invocation.Succeeds (invocation : Invocation) (now : Int) (disk : Disk) : Prop :=
  ∃ loaded link opened, Settings.load invocation.settingsFile disk = .ok loaded ∧
    Files.openCache (invocation.settings loaded) [] disk = (.ok link, opened) ∧
    invocation.command.Succeeds loaded.limits now (link.connection opened)

/-! ### Exit codes -/

def Outcome.exitCode : Outcome → Nat
  | .finished output => output.code
  | .usage => 2
  | .crash => 134

/-- The exit code is zero in a certain case, and one in every other. -/
structure Outcome.ExitsZeroIf (outcome : Outcome) (case : Prop) : Prop where
  succeeded : case → outcome.exitCode = 0
  failed : ¬ case → outcome.exitCode = 1

theorem Outcome.ExitsZeroIf.congr {outcome : Outcome} {case other : Prop}
    (exits : outcome.ExitsZeroIf case) (same : other ↔ case) : outcome.ExitsZeroIf other :=
  ⟨fun held => exits.succeeded (same.mp held), fun fails => exits.failed (same.not.mp fails)⟩

theorem exits_success {case : Prop} (held : case) (stdout : String) :
    (Outcome.finished (.success stdout)).ExitsZeroIf case :=
  ⟨fun _ => rfl, fun fails => absurd held fails⟩

theorem exits_failure {case : Prop} (fails : ¬ case) (stdout report : String) :
    (Outcome.finished (.failure stdout report)).ExitsZeroIf case :=
  ⟨fun held => absurd held fails, fun _ => rfl⟩

theorem exits_carryOut (operation : Operation) (log : Log) (payload : Bool) (now : Int)
    (c : Connection) : (carryOut operation log payload now c).1.ExitsZeroIf (Answers operation now c) := by
  unfold carryOut Answers
  cases Call.perform ⟨operation, false, now⟩ c with
  | mk answer after =>
    cases answer with
    | ok answer => exact exits_success ⟨answer, rfl⟩ _
    | error e => exact exits_failure (fun ⟨_, wrong⟩ => nomatch wrong) _ _

variable {limits : Limits} {log : Log}

theorem exits_range (first last : Height) (now : Int) (c : Connection)
    (room : 0 < limits.streamBuffer.toNat) (made : limits.streamBuffer.toNat ≤ Range.maxCapacity) :
    (Command.execute (.range first last) log limits now c).1.ExitsZeroIf
      ((Command.range first last).Succeeds limits now c) := by
  unfold Command.Succeeds
  cases checked : Range.check first last limits.maxRangeSpan with
  | error e =>
    have refused : Range.accept limits first last = .error (.error e) := by
      rw [Range.accept_of_made room made, checked]
    rw [execute_refused checked]
    refine exits_failure ?_ _ _
    rintro ⟨pipeline, accepted, -⟩
    cases refused.symm.trans accepted
  | ok u =>
    have accepted : Range.accept limits first last =
        .ok (.start first last limits.streamBuffer.toNat) := by
      rw [Range.accept_of_made room made, checked]
    have collects := Range.collect_start (Cache.rangeRead c) first last room
    rw [execute_admitted checked room made]
    cases found : Range.sequential (Cache.rangeRead c) (Range.heights first last) with
    | mk items ending =>
      rw [found] at collects
      cases ending with
      | none => exact exits_success ⟨_, accepted, fun ahead => ⟨items, collects ahead⟩⟩ _
      | some e =>
        refine exits_failure ?_ _ _
        rintro ⟨pipeline, same, read⟩
        obtain rfl := Except.ok.inj (accepted.symm.trans same)
        obtain ⟨items, collected⟩ := read 0
        cases (collects 0).symm.trans collected

theorem exits_execute (command : Command) (now : Int) (c : Connection)
    (room : 0 < limits.streamBuffer.toNat) (made : limits.streamBuffer.toNat ≤ Range.maxCapacity) :
    (command.execute log limits now c).1.ExitsZeroIf (command.Succeeds limits now c) := by
  cases command with
  | tip => exact exits_carryOut .tip log false now c
  | block height payload => exact exits_carryOut (.blockAt height) log payload now c
  | blockByHash hash => exact exits_carryOut (.blockWithHash hash) log false now c
  | rollback height => exact exits_carryOut (.rollBack height) log false now c
  | range first last => exact exits_range first last now c room made
  | transaction query =>
    unfold Command.execute Command.Succeeds
    simp only [← TransactionQuery.key?_eq_some]
    cases query.key? with
    | some key => exact (exits_carryOut (.transaction key) log false now c).congr (by simp)
    | none => exact exits_failure (by simp) _ _

/-! ### What changes -/

theorem database_execute (command : Command) (log : Log) (limits : Limits) (now : Int)
    (c : Connection)
    (idle : ∀ height, command = .rollback height →
      (command.execute log limits now c).1.exitCode ≠ 0) :
    (command.execute log limits now c).2.database = c.database := by
  cases command with
  | tip => exact Cache.perform_reads ⟨.tip, false, now⟩ c rfl
  | block height payload => exact Cache.perform_reads ⟨.blockAt height, false, now⟩ c rfl
  | blockByHash hash => exact Cache.perform_reads ⟨.blockWithHash hash, false, now⟩ c rfl
  | transaction query =>
    unfold Command.execute
    simp only
    split
    · rename_i key selected
      exact Cache.perform_reads ⟨.transaction key, false, now⟩ c rfl
    · rfl
  | range first last =>
    unfold Command.execute
    simp only
    split <;> rfl
  | rollback height =>
    have nonzero := idle height rfl
    unfold Command.execute carryOut at nonzero ⊢
    simp only at nonzero ⊢
    cases ran : Call.perform ⟨.rollBack height, false, now⟩ c with
    | mk answer after =>
      rw [ran] at nonzero
      cases answer with
      | ok answer => exact absurd rfl nonzero
      | error e => exact Cache.perform_error ran

theorem execute_rollback {height : Height} {now : Int} {c : Connection}
    (zero : (Command.execute (.rollback height) log limits now c).1.exitCode = 0) :
    ∃ n after, Call.perform ⟨.rollBack height, false, now⟩ c = (.ok (.count n), after) ∧
      Command.execute (.rollback height) log limits now c =
        (.finished (.success (log.written none [s!"rollback: removed {n} blocks\n"])), after) := by
  unfold Command.execute carryOut at zero ⊢
  simp only at zero ⊢
  cases ran : Call.perform ⟨.rollBack height, false, now⟩ c with
  | mk answer after =>
    rw [ran] at zero
    cases answer with
    | error e => cases zero
    | ok answer =>
      obtain ⟨n, -, rfl⟩ := Storage.Task.map_ok (Cache.perform_ok ran)
      exact ⟨n, after, rfl, rfl⟩

theorem timeout_settings (invocation : Invocation) (loaded : Settings) :
    (invocation.settings loaded).file.busyTimeoutMs = loaded.file.busyTimeoutMs := by
  unfold Invocation.settings
  split <;> rfl

theorem Invocation.succeeds_iff {invocation : Invocation} {now : Int} {disk opened : Disk}
    {loaded : Settings} {link : Link}
    (read : Settings.load invocation.settingsFile disk = .ok loaded)
    (opening : Files.openCache (invocation.settings loaded) [] disk = (.ok link, opened)) :
    invocation.Succeeds now disk ↔
      invocation.command.Succeeds loaded.limits now (link.connection opened) := by
  constructor
  · rintro ⟨loaded', link', opened', read', opening', succeeds⟩
    obtain rfl := Except.ok.inj (read.symm.trans read')
    cases opening.symm.trans opening'
    exact succeeds
  · exact fun succeeds => ⟨loaded, link, opened, read, opening, succeeds⟩

theorem Invocation.run_cases (invocation : Invocation) (log : Log) (now : Int) (disk : Disk)
    (patient : ∀ loaded, Settings.load invocation.settingsFile disk = .ok loaded →
      loaded.file.busyTimeoutMs.toNat ≤ Files.maxTimeoutMs) :
    (¬ invocation.Succeeds now disk ∧ disk.Keeps (invocation.run log now disk).2 ∧
        ∃ printed report,
          (invocation.run log now disk).1 = .finished (.failure printed report)) ∨
      ∃ loaded link opened, Settings.load invocation.settingsFile disk = .ok loaded ∧
        Files.openCache (invocation.settings loaded) [] disk = (.ok link, opened) ∧
        let ran := invocation.command.execute log loaded.limits now (link.connection opened)
        invocation.run log now disk = (ran.1, (link.after ran.2 opened).2) := by
  unfold Invocation.run
  cases read : Settings.load invocation.settingsFile disk with
  | error e =>
    refine .inl ⟨?_, .refl disk, _, _, rfl⟩
    rintro ⟨loaded, link, opened, read', -⟩
    cases read.symm.trans read'
  | ok loaded =>
    have keeps := Files.keeps_openCache (invocation.settings loaded) [] disk
    simp only
    cases opening : Files.openCache (invocation.settings loaded) [] disk with
    | mk outcome opened =>
      rw [opening] at keeps
      cases outcome with
      | ok link =>
        refine .inr ⟨loaded, link, opened, rfl, opening, ?_⟩
        rw [← limits_settings invocation loaded]
      | error failure =>
        have fails : ¬ invocation.Succeeds now disk := by
          rintro ⟨loaded', link, opened', read', opening', -⟩
          obtain rfl := Except.ok.inj (read.symm.trans read')
          cases opening.symm.trans opening'
        cases failure with
        | error e => exact .inl ⟨fails, keeps, _, _, rfl⟩
        | crash =>
          have long := (Files.openCache_eq_crash.mp (congrArg Prod.fst opening)).2
          rw [timeout_settings] at long
          exact absurd (patient loaded read) (Nat.not_le.mpr long)

/-- A rollback through a link makes of the database in a file what the same operation makes of it as
it was found, and leaves every other database alone. -/
theorem rollback_through_link {disk opened : Disk} {link : Link} {place : Files.Place}
    {height : Height} {now : Int} {n : Nat} {after : Connection}
    (stores : opened.Stores place (disk.databaseAt place))
    (rolled : Call.perform ⟨.rollBack height, false, now⟩ (link.connection opened) =
      (.ok (.count n), after)) :
    if link.location = .file place then
      ∃ early, Call.perform ⟨.rollBack height, false, now⟩ (link.connection disk) =
          (.ok (.count n), early) ∧
        early.database.Logs ((link.after after opened).2.databaseAt place)
    else (disk.databaseAt place).Logs ((link.after after opened).2.databaseAt place) := by
  split
  · rename_i filed
    obtain ⟨early, ran, logs⟩ :=
      Cache.rollBack_before_log (Files.logs_of_link stores filed) rolled
    have before : (link.connection opened).holding (disk.databaseAt place) =
        link.connection disk := by
      simp only [Link.connection, Link.database, filed, Connection.holding]
    obtain ⟨found, settled, there, -⟩ := stores
    have left : (link.after after opened).2.databaseAt place = after.database := by
      simp only [Link.after, filed]
      exact Files.databaseAt_setDatabase there _
    rw [before] at ran
    exact ⟨early, ran, left ▸ logs⟩
  · rename_i elsewhere
    exact (Files.stores_after stores fun filed => absurd filed elsewhere).databaseAt

/-- The settings of a command line, if it has any that can be loaded, are within what the machine
takes. -/
def WithinMachine (arguments : List String) (disk : Disk) : Prop :=
  ∀ invocation loaded, parse arguments = .ok invocation →
    Settings.load invocation.settingsFile disk = .ok loaded →
      loaded.file.busyTimeoutMs.toNat ≤ Files.maxTimeoutMs ∧
        loaded.limits.streamBuffer.toNat ≤ Range.maxCapacity

/-- A command line changes data through a rollback alone, and then exactly as the operation of the
cache does. A mistake in its use and a request for help leave the disk as it is. -/
theorem only_rollback_changes_data {arguments : List String} {disk : Disk}
    (bounded : WithinMachine arguments disk) (log : Log) (now : Int) :
    let ran := run arguments log now disk
    (parse arguments = .error .mistake → ran.1.exitCode = 2 ∧ ran.2 = disk) ∧
    (∀ topic, parse arguments = .error (.help topic) → ran.1.exitCode = 0 ∧ ran.2 = disk) ∧
    ∀ invocation, parse arguments = .ok invocation →
      ran.1.ExitsZeroIf (invocation.Succeeds now disk) ∧
      ((∀ height, invocation.command = .rollback height → ran.1.exitCode ≠ 0) →
        disk.Keeps ran.2) ∧
      ∀ height, invocation.command = .rollback height → ran.1.exitCode = 0 →
        ∃ loaded link opened n, Settings.load invocation.settingsFile disk = .ok loaded ∧
          Files.openCache (invocation.settings loaded) [] disk = (.ok link, opened) ∧
          ran.1 = .finished (.success (log.written none [s!"rollback: removed {n} blocks\n"])) ∧
          (Call.perform ⟨.rollBack height, false, now⟩ (link.connection opened)).1 =
            .ok (.count n) ∧
          ∀ place, (disk.databaseAt place).Initialised →
            if link.location = .file place then
              ∃ after, Call.perform ⟨.rollBack height, false, now⟩ (link.connection disk) =
                  (.ok (.count n), after) ∧
                after.database.Logs (ran.2.databaseAt place)
            else (disk.databaseAt place).Logs (ran.2.databaseAt place) := by
  intro ran
  refine ⟨fun mistaken => ?_, fun topic asked => ?_, fun invocation sensible => ?_⟩
  · have usage : ran = (.usage, disk) := by simp only [ran, run, mistaken]
    rw [usage]
    exact ⟨rfl, rfl⟩
  · have help : ran = (.finished (.success (helpText topic)), disk) := by
      simp only [ran, run, asked]
    rw [help]
    exact ⟨rfl, rfl⟩
  have started : ran = invocation.run log now disk := by simp only [ran, run, sensible]
  rw [started]
  rcases invocation.run_cases log now disk
    fun loaded read => (bounded invocation loaded sensible read).1
    with ⟨fails, keeps, printed, report, failed⟩ | ⟨loaded, link, opened, read, opening, carried⟩
  · rw [failed]
    exact ⟨exits_failure fails _ _, fun _ => keeps, fun _ _ zero => absurd zero Nat.one_ne_zero⟩
  · rw [carried]
    have room : 0 < loaded.limits.streamBuffer.toNat := by
      rw [← limits_settings invocation loaded]
      exact Nat.pos_of_ne_zero (Range.room_of_valid (Files.valid_of_openCache opening))
    have stores (place : Files.Place) (initialised : (disk.databaseAt place).Initialised) :
        opened.Stores place (disk.databaseAt place) := by
      have kept := Files.stores_openCache (Files.Disk.stores_of_initialised initialised) initialised
        (invocation.settings loaded) []
      rwa [opening] at kept
    refine ⟨(exits_execute _ now _ room (bounded invocation loaded sensible read).2).congr
        (Invocation.succeeds_iff read opening),
      fun idle place initialised => ?_, fun height command zero => ?_⟩
    · refine (Files.stores_after (stores place initialised) fun filed => ?_).databaseAt
      rw [database_execute _ log _ now _ idle]
      exact Files.logs_of_link (stores place initialised) filed
    · rw [command] at zero ⊢
      obtain ⟨n, after, rolled, ended⟩ := execute_rollback zero
      rw [ended]
      exact ⟨loaded, link, opened, n, read, opening, rfl, congrArg Prod.fst rolled,
        fun place initialised => rollback_through_link (stores place initialised) rolled⟩

private def tall : Database :=
  let blocks := (Storage.BlockTable.empty.put (.ofBlock ⟨5, "ab", "", false, [7]⟩)).put
    (.ofBlock ⟨8, "cd", "ab", true, []⟩)
  { Cache.Layout.fresh.database with blocks := some blocks, tip := some (some ⟨8, 1⟩) }

private def tallPlace : Files.Place := Disk.empty.home ++ [Files.Name.ofText "d"]

private def tallDisk : Disk := Disk.empty.set tallPlace (.file (.database tall tall))

theorem tall_only_rollback_changes_data :
    let arguments := ["--db", "d", "rollback", "5"]
    let link : Link := { location := .file tallPlace, known := tall.tables }
    WithinMachine arguments tallDisk ∧ (run arguments .silent 9 tallDisk).1.exitCode = 0 ∧
      (tallDisk.databaseAt tallPlace).Initialised ∧
      ∃ n after, Call.perform ⟨.rollBack 5, false, 9⟩ (link.connection tallDisk) =
          (.ok (.count n), after) ∧
        after.database.Logs ((run arguments .silent 9 tallDisk).2.databaseAt tallPlace) ∧
        (run arguments .silent 9 tallDisk).1 =
          .finished (.success s!"rollback: removed {n} blocks\n") := by
  intro arguments link
  let invocation : Invocation := ⟨"cache.toml", some "d", .rollback 5⟩
  have sensible : parse arguments = .ok invocation :=
    invocation?_eq_some.mp (by decide +kernel)
  have read : Settings.load "cache.toml" tallDisk = .ok {} := by decide +kernel
  have bounded : WithinMachine arguments tallDisk := by
    intro invocation' loaded sensible' read'
    obtain rfl := Except.ok.inj (sensible.symm.trans sensible')
    obtain rfl := Except.ok.inj (read.symm.trans read')
    decide
  have zero : (run arguments .silent 9 tallDisk).1.exitCode = 0 := by decide +kernel
  have initialised : (tallDisk.databaseAt tallPlace).Initialised := ⟨"1", by decide +kernel⟩
  refine ⟨bounded, zero, initialised, ?_⟩
  obtain ⟨-, -, sense⟩ := only_rollback_changes_data bounded .silent 9
  obtain ⟨loaded, link', opened, n, read', opening, printed, -, each⟩ :=
    (sense invocation sensible).2.2 5 rfl zero
  obtain rfl := Except.ok.inj (read.symm.trans read')
  have here : (Files.openCache (invocation.settings {}) [] tallDisk).1 = .ok link := by
    decide +kernel
  rw [opening] at here
  obtain rfl := Except.ok.inj here
  obtain ⟨after, rolled, logs⟩ := (if_pos rfl).mp (each tallPlace initialised)
  rw [Log.written_silent, String.join_cons, String.join_nil, String.append_empty] at printed
  exact ⟨n, after, rolled, logs, printed⟩

end ChainStore.CommandLine
