import ChainStore.Proofs.Cache.Tip
import ChainStore.Proofs.Session.Databases

set_option autoImplicit false
set_option relaxedAutoImplicit false

/-!
The tip of every cache of a session keeps step with its blocks, as long as the clients leave the
operations alone that move only one of the two.
-/

namespace ChainStore.Session

open Storage (Database)

theorem lasting_tipOnTop : Files.Lasting Database.TipOnTop where
  blank := Storage.onTop_empty
  prepared _ := Cache.tipOnTop_prepare
  logged _ onTop := onTop
  unlocked _ onTop := onTop

/-- The commands that keep the tip of a cache and its blocks in step. Of the operations the three
that touch one of them alone are left out, of the interferences those that touch either, and so are
files that are written from outside with a database in them. -/
def Command.keepsStep : Command → Bool
  | .call _ _ operation => operation.keepsStep
  | .interfere _ interference => interference.sparesChain
  | .writeFile _ content => (Database.ofBytes? content).isNone
  | _ => true

private theorem keeps_tipOnTop {command : Command} (keeps : command.keepsStep = true) :
    command.Keeps Database.TipOnTop := by
  cases command with
  | call name token operation =>
    exact fun fired now c onTop => Cache.tipOnTop_perform ⟨operation, fired, now⟩ keeps onTop
  | interfere path interference => exact fun db onTop => Storage.tipOnTop_apply keeps onTop
  | writeFile path content =>
    intro db read
    rw [Command.keepsStep, read] at keeps
    cases keeps
  | commandLine arguments =>
    exact fun height fired now c onTop =>
      Cache.tipOnTop_perform ⟨.rollBack height, fired, now⟩ rfl onTop
  | _ => trivial

/-- At every moment of a history that begins with an empty disk, the tip of every cache is missing
exactly when it stores no block, and else names the greatest height at which it stores one. -/
theorem tip_on_top {home : Files.Place} {script : List (Int × Command)}
    (keeps : ∀ entry ∈ script, entry.2.keepsStep = true) {seen : List (Int × Command)}
    (moment : seen <+: script) :
    let s := ((State.start (.bare home)).run seen).2
    (∀ handle, (s.database handle).TipOnTop) ∧ ∀ place, (s.disk.databaseAt place).TipOnTop := by
  intro s
  have each : ∀ entry ∈ seen, entry.2.Keeps Database.TipOnTop :=
    fun entry member => keeps_tipOnTop (keeps entry (moment.subset member))
  have has : s.Has Database.TipOnTop :=
    (State.has_start (Files.Disk.has_bare home)).run lasting_tipOnTop each
  exact ⟨has.database lasting_tipOnTop, has.disk.databaseAt lasting_tipOnTop.blank⟩

/-- A file in which updates of the tip are refused for a while and which is locked for a while, with
two handles, one of them opened anew, and a range that is being read. -/
private def disturbed : List (Int × Command) :=
  let settings : Settings := { file := { path := "c" } }
  let accept (name : String) (height : Height) : Command :=
    .call name none (.acceptBlock ⟨height, "ab", "", false, []⟩)
  [(1, .openFile "main" settings), (2, accept "main" 9), (3, .copy "main" "second"),
    (4, .interfere "c" (.reject ⟨.tip, .update, "no", none⟩)), (5, accept "second" 12),
    (6, .interfere "c" .lock), (7, .call "main" none (.rollBack 3)), (8, .unlock "c"),
    (9, .interfere "c" (.allow .tip .update)), (10, .close "main"), (11, .openFile "main" settings),
    (12, accept "second" 4), (13, .streamOpen "main" "s" none 0 20), (14, .streamNext "s" 2),
    (15, .call "main" none (.rollBack 8))]

theorem disturbed_tip_on_top :
    (∀ entry ∈ disturbed, entry.2.keepsStep = true) ∧ disturbed <+: disturbed ∧
      (((State.start .empty).run disturbed).2.database ⟨0, 0, {}⟩).tip = some (some ⟨4, 15⟩) ∧
      (((State.start .empty).run disturbed).2.database ⟨0, 0, {}⟩).TipOnTop :=
  ⟨by decide, List.prefix_refl _, by decide +kernel,
    (tip_on_top (by decide) (List.prefix_refl _)).1 ⟨0, 0, {}⟩⟩

end ChainStore.Session
