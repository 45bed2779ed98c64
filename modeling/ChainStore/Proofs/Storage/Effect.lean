import ChainStore.Storage.Statement

set_option autoImplicit false
set_option relaxedAutoImplicit false

/-!
What statements do to a database. A statement that succeeds has done exactly one thing, which its
lemma names; a task is `Still` when it never changes the database, and `Clean` when it leaves the
database alone whenever it fails.
-/

namespace ChainStore.Storage

namespace Task

variable {ε ε' α β : Type}

theorem bind_ok {task : Task ε α} {next : α → Task ε β} {c after : Connection} {b : β}
    (succeeded : (task >>= next).run c = (.ok b, after)) :
    ∃ a middle, task.run c = (.ok a, middle) ∧ (next a).run middle = (.ok b, after) := by
  rw [run_bind] at succeeded
  split at succeeded
  · rename_i a middle first
    exact ⟨a, middle, first, succeeded⟩
  · simp at succeeded

theorem map_ok {f : α → β} {task : Task ε α} {c after : Connection} {b : β}
    (succeeded : (f <$> task).run c = (.ok b, after)) :
    ∃ a, task.run c = (.ok a, after) ∧ b = f a := by
  rw [run_map] at succeeded
  split at succeeded
  · rename_i a middle first
    simp only [Prod.mk.injEq, Except.ok.injEq] at succeeded
    exact ⟨a, by rw [first, succeeded.2], succeeded.1.symm⟩
  · simp at succeeded

theorem mapFailure_ok {report : ε → ε'} {task : Task ε α} {c after : Connection} {a : α}
    (succeeded : (task.mapFailure report).run c = (.ok a, after)) :
    task.run c = (.ok a, after) := by
  unfold mapFailure at succeeded
  simp only at succeeded
  split at succeeded <;> simp_all

def Still (task : Task ε α) : Prop := ∀ c, (task.run c).2.database = c.database

/-- The task leaves the database alone when it fails. -/
def Clean (task : Task ε α) : Prop :=
  ∀ c e after, task.run c = (.error e, after) → after.database = c.database

theorem Still.clean {task : Task ε α} (still : Still task) : Clean task := by
  intro c e after failed
  rw [← still c, failed]

theorem still_pure (a : α) : Still (pure a : Task ε α) := fun _ => rfl

theorem still_fail (e : ε) : Still (fail e : Task ε α) := fun _ => rfl

theorem Still.bind {task : Task ε α} {next : α → Task ε β} (first : Still task)
    (second : ∀ a, Still (next a)) : Still (task >>= next) := by
  intro c
  rw [run_bind]
  have same := first c
  split
  · rename_i a middle ran
    rw [ran] at same
    rw [second a middle, same]
  · rename_i e middle ran
    rw [ran] at same
    exact same

theorem Still.mapFailure {task : Task ε α} (still : Still task) (report : ε → ε') :
    Still (task.mapFailure report) := by
  intro c
  have same := still c
  unfold Task.mapFailure
  simp only
  split <;> simp_all

theorem Still.map {task : Task ε α} (still : Still task) (f : α → β) : Still (f <$> task) :=
  still.bind fun a => still_pure (f a)

theorem clean_atomically (task : Task ε α) : Clean (atomically task) :=
  fun _ _ _ failed => atomically_error failed

theorem Clean.mapFailure {task : Task ε α} (clean : Clean task) (report : ε → ε') :
    Clean (task.mapFailure report) := by
  intro c e after failed
  unfold Task.mapFailure at failed
  simp only at failed
  split at failed
  · simp at failed
  · rename_i fault middle ran
    simp only [Prod.mk.injEq] at failed
    rw [← failed.2]
    exact clean c fault middle ran

theorem Clean.map {task : Task ε α} (clean : Clean task) (f : α → β) : Clean (f <$> task) := by
  intro c e after failed
  rw [run_map] at failed
  split at failed
  · simp at failed
  · rename_i fault middle ran
    simp only [Prod.mk.injEq] at failed
    rw [← failed.2]
    exact clean c fault middle ran

end Task

/-! ### Single statements -/

theorem still_query {α : Type} (read : Database → Except Fault α) : (query read).Still := by
  intro c
  unfold query
  simp only
  split <;> rfl

theorem query_ok {α : Type} {read : Database → Except Fault α} {c after : Connection} {a : α}
    (succeeded : (query read).run c = (.ok a, after)) :
    read c.database = .ok a ∧ after.database = c.database := by
  have same := still_query read c
  rw [succeeded] at same
  refine ⟨?_, same⟩
  unfold query at succeeded
  simp only at succeeded
  split at succeeded
  · simp at succeeded
  · exact (Prod.mk.inj succeeded).1

theorem still_beginWrite : beginWrite.Still := by
  intro c
  unfold beginWrite
  simp only
  split
  · rfl
  · split <;> rfl

variable {τ α : Type}

theorem clean_change (table : Table) (contents : Database → Option τ)
    (act : Database → τ → Except Fault α × Database) : (change table contents act).Clean :=
  Task.clean_atomically _

theorem change_ok {table : Table} {contents : Database → Option τ}
    {act : Database → τ → Except Fault α × Database} {c after : Connection} {a : α}
    (succeeded : (change table contents act).run c = (.ok a, after)) :
    ∃ t, contents c.database = some t ∧ act c.database t = (.ok a, after.database) := by
  have ran := Task.atomically_ok succeeded
  simp only at ran
  split at ran
  · split at ran
    · simp at ran
    · split at ran
      · simp at ran
      · rename_i t found
        simp only [Connection.database_seek] at found ran
        simp only [Prod.mk.injEq] at ran
        refine ⟨t, found, Prod.ext ran.1 ?_⟩
        rw [← ran.2]
        rfl
  · simp at ran

end ChainStore.Storage
