import ChainStore.Proofs.Toml.Keys
import ChainStore.Settings.Document
import Mathlib.Data.List.Basic

set_option autoImplicit false
set_option relaxedAutoImplicit false

/-!
What loading a settings file comes to, said of the document in it: which of its fields are given, by
name or by position, and which settings have just these. Nothing else in the document counts.
-/

namespace ChainStore.Files

/-- A path leads to a file whose content is a text. The file of a database that has nothing in it
yet is empty. -/
inductive Disk.Holds (disk : Disk) (path text : String) : Prop where
  | bytes {bytes : List UInt8} : disk.nodeAt? path = some (.file (.bytes bytes)) →
    ByteArray.mk bytes.toArray = text.toUTF8 → Holds disk path text
  | database {db settled : Storage.Database} :
    disk.nodeAt? path = some (.file (.database db settled)) → db.logged = false → db.tables = [] →
    text = "" → Holds disk path text

end ChainStore.Files

namespace ChainStore.Settings

open Toml (Value Entries Distinct)

variable {entries : Entries}

/-! ### Fields -/

/-- A field of the settings: the section it belongs to, its name and its position there, how its
values are written, and where the settings have it. -/
structure Field (α : Type) where
  heading : String
  name : String
  position : Nat
  write : α → Value
  get : Settings → α

def pathField : Field String := ⟨"database", "path", 0, .string, (·.file.path)⟩

def busyTimeoutField : Field UInt64 :=
  ⟨"database", "busy_timeout_ms", 1, fun n => .integer n.toNat, (·.file.busyTimeoutMs)⟩

def maxRangeSpanField : Field UInt32 :=
  ⟨"limits", "max_range_span", 0, fun n => .integer n.toNat, (·.limits.maxRangeSpan)⟩

def streamBufferField : Field UInt64 :=
  ⟨"limits", "stream_buffer", 1, fun n => .integer n.toNat, (·.limits.streamBuffer)⟩

namespace Field

variable {α : Type} {field : Field α}

/-- The document gives a value of the field, by its name in a table or by its position in an
array. -/
inductive Gives (field : Field α) (entries : Entries) (v : Value) : Prop where
  | byName {fields : Entries} : (field.heading, .table fields) ∈ entries →
    (field.name, v) ∈ fields → Gives field entries v
  | byPosition {elements : List Value} : (field.heading, .array elements) ∈ entries →
    elements[field.position]? = some v → Gives field entries v

def Readable (field : Field α) (entries : Entries) : Prop :=
  ∀ v, field.Gives entries v → ∃ a, v = field.write a

structure Filled (field : Field α) (entries : Entries) (a : α) : Prop where
  given : ∀ v, field.Gives entries v → v = field.write a
  default : (∀ v, ¬ field.Gives entries v) → a = field.get {}

theorem Filled.readable {a : α} (filled : field.Filled entries a) : field.Readable entries :=
  fun v gives => ⟨a, filled.given v gives⟩

private def find (field : Field α) : Option Value → Option Value
  | some (.table fields) => fields.lookup field.name
  | some (.array elements) => elements[field.position]?
  | _ => none

private theorem find_eq_some (tidy : (Value.table entries).Tidy) {v : Value} :
    field.find (entries.lookup field.heading) = some v ↔ field.Gives entries v := by
  constructor
  · intro found
    unfold find at found
    split at found
    · rename_i fields there
      have member := (Toml.lookup_eq_some tidy.distinct).mp there
      exact .byName member ((Toml.lookup_eq_some (tidy.of_entry member).distinct).mp found)
    · rename_i elements there
      exact .byPosition ((Toml.lookup_eq_some tidy.distinct).mp there) found
    · cases found
  · intro gives
    cases gives with
    | byName member given =>
      rw [(Toml.lookup_eq_some tidy.distinct).mpr member]
      exact (Toml.lookup_eq_some (tidy.of_entry member).distinct).mpr given
    | byPosition member given =>
      rw [(Toml.lookup_eq_some tidy.distinct).mpr member]
      exact given

private theorem Readable.exists_filled (tidy : (Value.table entries).Tidy)
    (readable : field.Readable entries) : ∃ a, field.Filled entries a := by
  by_cases given : ∃ v, field.Gives entries v
  · obtain ⟨v, given⟩ := given
    obtain ⟨a, written⟩ := readable v given
    refine ⟨a, fun w also => ?_, fun none => absurd given (none v)⟩
    have same := ((find_eq_some tidy).mpr also).symm.trans ((find_eq_some tidy).mpr given)
    exact (Option.some.inj same).trans written
  · exact ⟨field.get {}, fun v gives => absurd ⟨v, gives⟩ given, fun _ => rfl⟩

private theorem field?_eq_some (tidy : (Value.table entries).Tidy) {read : Value → Option α}
    (reads : ∀ v a, read v = some a ↔ v = field.write a) {a : α} :
    field? read (field.get {}) (field.find (entries.lookup field.heading)) = some a ↔
      field.Filled entries a := by
  cases found : field.find (entries.lookup field.heading) with
  | none =>
    have absent : ∀ v, ¬ field.Gives entries v := fun v gives => by
      rw [(find_eq_some tidy).mpr gives] at found
      cases found
    constructor
    · intro read
      exact ⟨fun v gives => absurd gives (absent v), fun _ => (Option.some.inj read).symm⟩
    · intro filled
      rw [filled.default absent]
      rfl
  | some v =>
    have gives : field.Gives entries v := (find_eq_some tidy).mp found
    refine (reads v a).trans ⟨fun written => ⟨fun w also => ?_, fun none => absurd gives (none v)⟩,
      fun filled => filled.given v gives⟩
    rw [(find_eq_some tidy).mpr also] at found
    exact (Option.some.inj found).trans written

end Field

/-! ### Documents -/

/-- If there is a section of this name, it is a table or an array. -/
def Sectioned (entries : Entries) (heading : String) : Prop :=
  ∀ v, (heading, v) ∈ entries → (∃ fields, v = .table fields) ∨ ∃ elements, v = .array elements

def Undated (entries : Entries) (heading : String) : Prop :=
  ∀ moment, (heading, .datetime moment) ∉ entries

structure WellShaped (entries : Entries) : Prop where
  database : Sectioned entries "database"
  limits : Sectioned entries "limits"
  path : pathField.Readable entries
  busyTimeout : busyTimeoutField.Readable entries
  maxRangeSpan : maxRangeSpanField.Readable entries
  streamBuffer : streamBufferField.Readable entries

/-- The settings have every field as it is given, and every other one at its default. -/
structure Describes (entries : Entries) (settings : Settings) : Prop where
  path : pathField.Filled entries settings.file.path
  busyTimeout : busyTimeoutField.Filled entries settings.file.busyTimeoutMs
  maxRangeSpan : maxRangeSpanField.Filled entries settings.limits.maxRangeSpan
  streamBuffer : streamBufferField.Filled entries settings.limits.streamBuffer

theorem WellShaped.exists_describes (tidy : (Value.table entries).Tidy)
    (shaped : WellShaped entries) : ∃ settings, Describes entries settings := by
  obtain ⟨path, hasPath⟩ := shaped.path.exists_filled tidy
  obtain ⟨busyTimeout, hasTimeout⟩ := shaped.busyTimeout.exists_filled tidy
  obtain ⟨maxRangeSpan, hasSpan⟩ := shaped.maxRangeSpan.exists_filled tidy
  obtain ⟨streamBuffer, hasBuffer⟩ := shaped.streamBuffer.exists_filled tidy
  exact ⟨⟨⟨path, busyTimeout⟩, ⟨maxRangeSpan, streamBuffer⟩⟩,
    hasPath, hasTimeout, hasSpan, hasBuffer⟩

/-! ### Reading the settings -/

private theorem text?_eq_some (v : Value) (s : String) : text? v = some s ↔ v = .string s := by
  cases v <;> simp [text?]

private theorem natural?_eq_some {bound : Nat} {v : Value} {n : Nat} :
    natural? bound v = some n ↔ n < bound ∧ v = .integer n := by
  cases v with
  | integer m =>
    rw [Value.integer.injEq]
    change (if 0 ≤ m ∧ m < (bound : Int) then some m.toNat else none) = some n ↔ _
    split
    · rw [Option.some.injEq]
      omega
    · exact iff_of_false nofun (by omega)
  | _ => simp [natural?]

private theorem word_eq_some {α : Type} {size : Nat} {ofNat : Nat → α} {toNat : α → Nat}
    (below : ∀ a, toNat a < size) (ofNat_toNat : ∀ a, ofNat (toNat a) = a)
    (toNat_ofNat : ∀ n, n < size → toNat (ofNat n) = n) (v : Value) (a : α) :
    (natural? size v).map ofNat = some a ↔ v = .integer (toNat a) := by
  rw [Option.map_eq_some_iff]
  constructor
  · rintro ⟨n, read, rfl⟩
    obtain ⟨fits, rfl⟩ := natural?_eq_some.mp read
    rw [toNat_ofNat n fits]
  · intro written
    exact ⟨toNat a, natural?_eq_some.mpr ⟨below a, written⟩, ofNat_toNat a⟩

private theorem word32_eq_some (v : Value) (n : UInt32) :
    (natural? UInt32.size v).map UInt32.ofNat = some n ↔ v = .integer n.toNat :=
  word_eq_some UInt32.toNat_lt_size (fun _ => UInt32.ofNat_toNat)
    (fun _ => UInt32.toNat_ofNat_of_lt') v n

private theorem word64_eq_some (v : Value) (n : UInt64) :
    (natural? UInt64.size v).map UInt64.ofNat = some n ↔ v = .integer n.toNat :=
  word_eq_some UInt64.toNat_lt_size (fun _ => UInt64.ofNat_toNat)
    (fun _ => UInt64.toNat_ofNat_of_lt') v n

private theorem section?_eq_some {α β γ : Type} (first : Field β) (second : Field γ)
    (front : first.position = 0) (behind : second.position = 1)
    (tidy : (Value.table entries).Tidy) (undated : Undated entries first.heading)
    {build : Option Value → Option Value → Option α} {a : α} :
    (section? build first.name second.name (entries.lookup first.heading)) = some a ↔
      Sectioned entries first.heading ∧
        build (first.find (entries.lookup first.heading))
          (second.find (entries.lookup first.heading)) = some a := by
  have found_iff : ∀ v, entries.lookup first.heading = some v ↔ (first.heading, v) ∈ entries :=
    fun v => Toml.lookup_eq_some tidy.distinct
  cases found : entries.lookup first.heading with
  | none =>
    refine (and_iff_right fun v member => ?_).symm
    exact absurd member (Toml.lookup_eq_none.mp found v)
  | some v =>
    have only : ∀ w, (first.heading, w) ∈ entries → w = v := fun w member =>
      Option.some.inj (((found_iff w).mpr member).symm.trans found)
    cases v with
    | table fields =>
      exact (and_iff_right fun w member => .inl ⟨fields, only w member⟩).symm
    | array elements =>
      have sectioned : Sectioned entries first.heading :=
        fun w member => .inr ⟨elements, only w member⟩
      rw [and_iff_right sectioned]
      unfold section? Field.find
      rw [front, behind]
    -- Reading would go on here, as in a table without fields.
    | datetime moment => exact absurd ((found_iff _).mp found) (undated moment)
    | _ =>
      refine iff_of_false nofun fun ⟨sectioned, _⟩ => ?_
      rcases sectioned _ ((found_iff _).mp found) with ⟨_, same⟩ | ⟨_, same⟩ <;> cases same

private theorem fileSection?_eq_some {path busyTimeoutMs : Option Value} {file : FileSettings} :
    fileSection? path busyTimeoutMs = some file ↔
      field? text? (pathField.get {}) path = some file.path ∧
        field? (fun v => (natural? UInt64.size v).map UInt64.ofNat) (busyTimeoutField.get {})
          busyTimeoutMs = some file.busyTimeoutMs := by
  cases file
  simp [fileSection?, pathField, busyTimeoutField, Option.bind_eq_some_iff]

private theorem limitsSection?_eq_some {maxRangeSpan streamBuffer : Option Value}
    {limits : Limits} :
    limitsSection? maxRangeSpan streamBuffer = some limits ↔
      field? (fun v => (natural? UInt32.size v).map UInt32.ofNat) (maxRangeSpanField.get {})
          maxRangeSpan = some limits.maxRangeSpan ∧
        field? (fun v => (natural? UInt64.size v).map UInt64.ofNat) (streamBufferField.get {})
          streamBuffer = some limits.streamBuffer := by
  cases limits
  simp [limitsSection?, maxRangeSpanField, streamBufferField, Option.bind_eq_some_iff]

private theorem file_eq_some (tidy : (Value.table entries).Tidy)
    (undated : Undated entries "database") {file : FileSettings} :
    (section? fileSection? "path" "busy_timeout_ms" (entries.lookup "database")) = some file ↔
      Sectioned entries "database" ∧ pathField.Filled entries file.path ∧
        busyTimeoutField.Filled entries file.busyTimeoutMs := by
  refine (section?_eq_some pathField busyTimeoutField rfl rfl tidy undated).trans
    (and_congr_right fun _ => fileSection?_eq_some.trans (and_congr ?_ ?_))
  · exact Field.field?_eq_some tidy text?_eq_some
  · exact Field.field?_eq_some tidy word64_eq_some

private theorem limits_eq_some (tidy : (Value.table entries).Tidy)
    (undated : Undated entries "limits") {limits : Limits} :
    (section? limitsSection? "max_range_span" "stream_buffer" (entries.lookup "limits")) =
        some limits ↔
      Sectioned entries "limits" ∧ maxRangeSpanField.Filled entries limits.maxRangeSpan ∧
        streamBufferField.Filled entries limits.streamBuffer := by
  refine (section?_eq_some maxRangeSpanField streamBufferField rfl rfl tidy undated).trans
    (and_congr_right fun _ => limitsSection?_eq_some.trans (and_congr ?_ ?_))
  · exact Field.field?_eq_some tidy word32_eq_some
  · exact Field.field?_eq_some tidy word64_eq_some

theorem ofEntries?_eq_some (tidy : (Value.table entries).Tidy)
    (database : Undated entries "database") (limits : Undated entries "limits")
    {settings : Settings} :
    ofEntries? entries = some settings ↔ WellShaped entries ∧ Describes entries settings := by
  have parts : ofEntries? entries = some settings ↔
      (section? fileSection? "path" "busy_timeout_ms" (entries.lookup "database")) =
          some settings.file ∧
        (section? limitsSection? "max_range_span" "stream_buffer" (entries.lookup "limits")) =
          some settings.limits := by
    cases settings
    simp [ofEntries?, Option.bind_eq_some_iff]
  rw [parts, file_eq_some tidy database, limits_eq_some tidy limits]
  constructor
  · rintro ⟨⟨table, path, busyTimeout⟩, ranges, maxRangeSpan, streamBuffer⟩
    exact ⟨⟨table, ranges, path.readable, busyTimeout.readable, maxRangeSpan.readable,
      streamBuffer.readable⟩, path, busyTimeout, maxRangeSpan, streamBuffer⟩
  · rintro ⟨shaped, path, busyTimeout, maxRangeSpan, streamBuffer⟩
    exact ⟨⟨shaped.database, path, busyTimeout⟩, shaped.limits, maxRangeSpan, streamBuffer⟩

theorem ofEntries?_eq_none (tidy : (Value.table entries).Tidy)
    (database : Undated entries "database") (limits : Undated entries "limits") :
    ofEntries? entries = none ↔ ¬ WellShaped entries := by
  constructor
  · intro none shaped
    obtain ⟨settings, describes⟩ := shaped.exists_describes tidy
    rw [(ofEntries?_eq_some tidy database limits).mpr ⟨shaped, describes⟩] at none
    cases none
  · intro misshaped
    cases read : ofEntries? entries with
    | none => rfl
    | some settings =>
      exact absurd ((ofEntries?_eq_some tidy database limits).mp read).1 misshaped

/-! ### Files -/

theorem validate_eq_error {settings : Settings} {e : Error} (wrong : settings.validate = .error e) :
    ∃ reason, e = .settings reason := by
  unfold Settings.validate at wrong
  repeat' split at wrong
  all_goals cases wrong
  all_goals exact ⟨_, rfl⟩

theorem load_eq_ofText {path text : String} {disk : Files.Disk}
    (holds : disk.Holds path text) : load path disk = ofText path text := by
  cases holds with
  | bytes there content =>
    have decoded : String.fromUTF8? text.toUTF8 = some text := dif_pos text.isValidUTF8
    simp only [load, there, content, decoded]
  | database there unlogged without empty => simp [load, there, unlogged, without, empty]

structure Decodes (entries : Entries) (path : String) (outcome : Except Error Settings) : Prop where
  loaded : ∀ settings, outcome = .ok settings ↔
    WellShaped entries ∧ Describes entries settings ∧ settings.validate = .ok ()
  determined : WellShaped entries → ∃! settings, Describes entries settings
  misshaped : ¬ WellShaped entries → outcome = .error (.settings (.unreadable path))
  invalid : ∀ settings e, WellShaped entries → Describes entries settings →
    settings.validate = .error e → outcome = .error e ∧ ∃ reason, e = .settings reason

private theorem ofText_of_misshaped {path text : String}
    (read : Toml.document? text = some entries) (none : ofEntries? entries = none) :
    ofText path text = .error (.settings (.unreadable path)) := by
  simp only [ofText, read, Option.bind_some, none]

theorem ofText_of_settings {path text : String} {settings : Settings}
    (read : Toml.document? text = some entries) (some : ofEntries? entries = some settings) :
    ofText path text = settings.validate.map fun _ => settings := by
  simp only [ofText, read, Option.bind_some, some]
  cases settings.validate <;> rfl

private theorem ofText_decodes {path text : String} (read : Toml.document? text = some entries)
    (database : Undated entries "database") (limits : Undated entries "limits") :
    Decodes entries path (ofText path text) := by
  have tidy := Toml.document?_tidy read
  have some_iff : ∀ settings, ofEntries? entries = some settings ↔
      WellShaped entries ∧ Describes entries settings :=
    fun _ => ofEntries?_eq_some tidy database limits
  cases found : ofEntries? entries with
  | none =>
    have misshaped := (ofEntries?_eq_none tidy database limits).mp found
    rw [ofText_of_misshaped read found]
    exact {
      loaded := fun _ => iff_of_false nofun fun fine => misshaped fine.1
      determined := fun shaped => absurd shaped misshaped
      misshaped := fun _ => rfl
      invalid := fun _ _ shaped => absurd shaped misshaped }
  | some settings =>
    obtain ⟨shaped, describes⟩ := (some_iff settings).mp found
    have only : ∀ other, Describes entries other → other = settings := fun other also =>
      Option.some.inj (((some_iff other).mpr ⟨shaped, also⟩).symm.trans found)
    rw [ofText_of_settings read found]
    exact {
      loaded := fun other => by
        constructor
        · intro loaded
          cases valid : settings.validate with
          | error e =>
            rw [valid] at loaded
            cases loaded
          | ok u =>
            rw [valid] at loaded
            cases loaded
            exact ⟨shaped, describes, valid⟩
        · rintro ⟨-, also, valid⟩
          rw [only other also] at valid ⊢
          rw [valid]
          rfl
      determined := fun _ => ⟨settings, describes, only⟩
      misshaped := fun not => absurd shaped not
      invalid := fun other e _ also wrong => by
        rw [only other also] at wrong
        rw [wrong]
        exact ⟨rfl, validate_eq_error wrong⟩ }

/-- Loading a settings file. Where there is none, the defaults hold, and where the file holds no
document, the settings are said to be unreadable. Otherwise the document settles everything, as long
as neither section is a date or a time. -/
theorem load_decodes (path : String) (disk : Files.Disk) :
    (disk.nodeAt? path = none → load path disk = .ok {}) ∧
    ∀ text, disk.Holds path text →
      (Toml.document? text = none → load path disk = .error (.settings (.unreadable path))) ∧
      ∀ entries, Toml.document? text = some entries → Undated entries "database" →
        Undated entries "limits" → Decodes entries path (load path disk) := by
  refine ⟨fun nothing => by rw [load, nothing], fun text holds => ?_⟩
  rw [load_eq_ofText holds]
  refine ⟨fun none => ?_, fun entries read database limits => ofText_decodes read database limits⟩
  rw [ofText, none]
  rfl

private def desk : Files.Disk :=
  let place (name : String) := Files.Disk.empty.home ++ [Files.Name.ofText name]
  (Files.Disk.empty.set (place "torn") (.file (.bytes "[database".toUTF8.data.toList))).set
    (place "whole") (.file (.bytes
      "limits=[7,9,1]\n[database]\nx=1\npath='p'\n".toUTF8.data.toList))

theorem desk_load_decodes :
    let entries : Entries := [("limits", .array [.integer 7, .integer 9, .integer 1]),
      ("database", .table [("x", .integer 1), ("path", .string "p")])]
    load "absent" desk = .ok {} ∧
      load "torn" desk = .error (.settings (.unreadable "torn")) ∧
      load "whole" desk = .ok ⟨⟨"p", 5000⟩, ⟨7, 9⟩⟩ ∧
      WellShaped entries ∧ Describes entries ⟨⟨"p", 5000⟩, ⟨7, 9⟩⟩ := by
  intro entries
  have torn : desk.Holds "torn" "[database" := .bytes (by decide +kernel) rfl
  have whole : desk.Holds "whole" "limits=[7,9,1]\n[database]\nx=1\npath='p'\n" :=
    .bytes (by decide +kernel) rfl
  have read : Toml.document? "limits=[7,9,1]\n[database]\nx=1\npath='p'\n" = some entries := by
    refine (Toml.document?_of_unmarked (by simp only [String.reduceToList]; rfl) ?_).trans ?_
    · decide
    · rfl
  have broken : Toml.document? "[database" = none :=
    Option.isNone_iff_eq_none.mp (by decide +kernel)
  have undated : ∀ heading, Undated entries heading := by simp [Undated, entries]
  have loaded : load "whole" desk = .ok ⟨⟨"p", 5000⟩, ⟨7, 9⟩⟩ := by decide +kernel
  obtain ⟨shaped, describes, -⟩ :=
    (((load_decodes "whole" desk).2 _ whole).2 entries read (undated _) (undated _)).loaded _
      |>.mp loaded
  exact ⟨(load_decodes "absent" desk).1 (by decide +kernel),
    ((load_decodes "torn" desk).2 _ torn).1 broken, loaded, shaped, describes⟩

end ChainStore.Settings
