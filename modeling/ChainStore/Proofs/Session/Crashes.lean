import ChainStore.Proofs.Files.Opening
import ChainStore.Proofs.Range.Admission
import ChainStore.Session.Command
import Mathlib.Data.List.Basic

set_option autoImplicit false
set_option relaxedAutoImplicit false

/-!
Settings that the machine does not take. They are found out only when they are handed on, and end in
a crash then; nothing else does.
-/

namespace ChainStore.Files

def Reaches (path : String) (pools : List Link) (disk : Disk) : Prop :=
  (makeParents path disk).1 = .ok () ∧
    ∃ linked, openLink path pools (makeParents path disk).2 = .ok linked

theorem openCache_eq_crash {settings : Settings} {pools : List Link} {disk : Disk} :
    (openCache settings pools disk).1 = .error .crash ↔
      Reaches settings.file.path pools disk ∧
        maxTimeoutMs < settings.file.busyTimeoutMs.toNat := by
  have outcome := outcome_openCache settings pools disk
  have reaches {address : Address} {link : Link} {found : Disk}
      (finds : Finds settings.file.path pools disk address link found) :
      Reaches settings.file.path pools disk := by
    obtain ⟨made, parents, linked⟩ := finds
    exact ⟨by rw [parents], _, by rw [parents, linked]⟩
  generalize openCache settings pools disk = result at outcome ⊢
  cases outcome with
  | unparented blocked =>
    refine iff_of_false (by simp) fun ⟨⟨parents, _⟩, _⟩ => ?_
    rw [blocked] at parents
    cases parents
  | unlinked made failed =>
    refine iff_of_false (by simp) fun ⟨⟨_, linked, opened⟩, _⟩ => ?_
    rw [made, failed] at opened
    cases opened
  | impatient finds long => exact iff_of_true rfl ⟨reaches finds, long⟩
  | unlogged finds short failed => exact iff_of_false (by simp) fun past => short past.2
  | unready finds short started refused => exact iff_of_false (by simp) fun past => short past.2
  | opened finds short started made => exact iff_of_false (by simp) fun past => short past.2

end ChainStore.Files

namespace ChainStore.Session

open Range (room_of_valid)

def Reply.Answers (reply : Reply) : Prop := reply = .done ∨ ∃ e, reply = .failed e

/-- The reply is a crash exactly in a certain case, and in every other one a success or an error. -/
structure Reply.CrashesIf (reply : Reply) (case : Prop) : Prop where
  crashed : case → reply = .crashed
  answers : ¬ case → reply.Answers

private theorem answers_ofResult {α : Type} (result : Except Error α) :
    (Reply.ofResult (fun _ => .done) result).Answers := by
  cases result with
  | ok a => exact .inl rfl
  | error e => exact .inr ⟨e, rfl⟩

private theorem crashesIf_ofAttempt {α : Type} {attempt : Except Failure α} {case : Prop}
    (crash_iff : attempt = .error .crash ↔ case) :
    (Reply.ofAttempt (fun _ => .done) attempt).CrashesIf case where
  crashed past := by rw [crash_iff.mpr past]; rfl
  answers within := by
    cases attempt with
    | ok a => exact .inl rfl
    | error failure =>
      cases failure with
      | error e => exact .inr ⟨e, rfl⟩
      | crash => exact absurd (crash_iff.mp rfl) within

namespace State

private theorem openCache_eq_crash {s : State} {name : String} {settings : Settings} :
    (s.openCache name settings).1 = .error .crash ↔
      Files.Reaches settings.file.path s.pools s.disk ∧
        Files.maxTimeoutMs < settings.file.busyTimeoutMs.toNat := by
  rw [← Files.openCache_eq_crash]
  unfold openCache
  split
  · rename_i failure disk opened
    rw [opened]
    simp
  · rename_i link disk opened
    rw [opened]
    simp

private theorem opening_streamOpen {s : State} {name : String} {handle : Handle}
    (named : s.handles.lookup name = some handle) (now : Int) (stream : String)
    (token : Option String) (first last : Height) :
    (s.carryOut now (.streamOpen name stream token first last)).1 =
      Reply.ofAttempt (fun _ => .done) (Range.accept handle.limits first last) := by
  simp only [carryOut, withHandle, named, streamOpen]
  split <;> simp_all [Reply.ofAttempt]

/-- What comes of settings that pass their validation. A cache in memory is opened, or there is an
error. So it is with a cache in a file, except that its opening crashes when the file has been
reached and the timeout is longer than the machine takes; and with a range of such a cache, except
that its opening crashes when the range is admitted and its channel larger than the machine makes. -/
theorem crash_iff_past_limits {settings : Settings} (valid : settings.validate = .ok ())
    (s : State) (now : Int) :
    (∀ name, (s.carryOut now (.openMemory name settings)).1.Answers) ∧
    (∀ name, (s.carryOut now (.openFile name settings)).1.CrashesIf
      (Files.Reaches settings.file.path s.pools s.disk ∧
        Files.maxTimeoutMs < settings.file.busyTimeoutMs.toNat)) ∧
    ∀ (name stream : String) (token : Option String) (first last : Height) (handle : Handle),
      s.handles.lookup name = some handle → handle.limits = settings.limits →
        (s.carryOut now (.streamOpen name stream token first last)).1.CrashesIf
          (Range.check first last settings.limits.maxRangeSpan = .ok () ∧
            Range.maxCapacity < settings.limits.streamBuffer.toNat) := by
  refine ⟨fun name => answers_ofResult _, fun name => crashesIf_ofAttempt openCache_eq_crash, ?_⟩
  intro name stream token first last handle named limits
  rw [opening_streamOpen named, limits]
  refine crashesIf_ofAttempt (Range.accept_eq_crash.trans ?_)
  rw [or_iff_right (room_of_valid valid)]

/-- A timeout that is just not too long, and a channel that is just too large. -/
private def spacious : Settings :=
  { file := { path := "c", busyTimeoutMs := 2147483647 }, limits := ⟨1, 2305843009213693952⟩ }

theorem spacious_crash_iff_past_limits :
    let s := ((State.start .empty).carryOut 0 (.openMemory "main" spacious)).2
    spacious.validate = .ok () ∧ s.handles.lookup "main" = some ⟨0, 0, spacious.limits⟩ ∧
      (s.carryOut 1 (.openFile "second" spacious)).1.Answers ∧
      (s.carryOut 1 (.streamOpen "main" "s" none 5 6)).1.Answers ∧
      (s.carryOut 1 (.streamOpen "main" "s" none 5 5)).1 = .crashed := by
  intro s
  have valid : spacious.validate = .ok () := by decide +kernel
  have named : s.handles.lookup "main" = some ⟨0, 0, spacious.limits⟩ := by decide +kernel
  obtain ⟨-, files, ranges⟩ := crash_iff_past_limits valid s 1
  refine ⟨valid, named, (files "second").answers fun past => absurd past.2 (by decide), ?_, ?_⟩
  · exact (ranges "main" "s" none 5 6 _ named rfl).answers
      fun past => absurd past.1 (by decide)
  · exact (ranges "main" "s" none 5 5 _ named rfl).crashed ⟨by decide, by decide⟩

/-- Settings may pass their validation and be more than the machine takes all the same. -/
theorem valid_settings_crash :
    let patient : Settings := { file := { busyTimeoutMs := 2147483648 } }
    let roomy : Settings := { limits := { streamBuffer := 2305843009213693952 } }
    let s := State.start .empty
    let opened := (s.carryOut 0 (.openMemory "main" roomy)).2
    patient.validate = .ok () ∧ roomy.validate = .ok () ∧
      (s.carryOut 0 (.openFile "main" patient)).1 = .crashed ∧
      opened.handles.lookup "main" = some ⟨0, 0, roomy.limits⟩ ∧
      (opened.carryOut 1 (.streamOpen "main" "s" none 1 1)).1 = .crashed := by
  intro patient roomy s opened
  have crash : (s.openCache "main" patient).1 = .error .crash :=
    openCache_eq_crash.mpr (Files.openCache_eq_crash.mp (by decide +kernel))
  have named : opened.handles.lookup "main" = some ⟨0, 0, roomy.limits⟩ := by decide +kernel
  have unmade : Range.accept roomy.limits 1 1 = .error .crash := by decide
  refine ⟨by decide +kernel, by decide +kernel, ?_, named, ?_⟩
  · exact congrArg (Reply.ofAttempt fun _ => .done) crash
  · rw [opening_streamOpen named, unmade]
    rfl

end State

end ChainStore.Session
