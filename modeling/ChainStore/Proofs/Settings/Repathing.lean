import ChainStore.Proofs.Files.Rewriting
import ChainStore.Proofs.Settings.Decoding
import Mathlib.Data.String.Basic

set_option autoImplicit false
set_option relaxedAutoImplicit false

/-!
Settings documents that differ in the path of the database and in nothing else: what is read of them
differs in the path alone, and so does the verdict on it, unless one of the paths is empty.
-/

namespace ChainStore.Toml

/-- Entries with the value of one key changed, if there is an entry of it. -/
def adjust (key : String) (change : Value → Value) (entries : Entries) : Entries :=
  entries.map fun entry => (entry.1, if entry.1 = key then change entry.2 else entry.2)

theorem lookup_adjust (key : String) (change : Value → Value) (entries : Entries) (other : String) :
    (adjust key change entries).lookup other =
      (entries.lookup other).map fun v => if other = key then change v else v := by
  induction entries with
  | nil => rfl
  | cons entry entries ih =>
    unfold adjust at ih ⊢
    rw [List.map_cons, List.lookup_cons, List.lookup_cons]
    split
    · rename_i same
      rw [← eq_of_beq same]
      rfl
    · exact ih

private theorem lines?_of_character {c : Char} (small : c.toNat < 128) :
    (lines? ([c].length + 1) [c]).all List.isEmpty = true := by
  have silent : ∀ n : Fin 128, (lines? 2 [Char.ofNat n]).all List.isEmpty = true := by
    decide +kernel
  simpa only [Char.ofNat_toNat, List.length_singleton] using silent ⟨c.toNat, small⟩

theorem document?_of_short {text : String} (short : text.utf8ByteSize ≤ 1) {entries : Entries}
    (read : document? text = some entries) : entries = [] := by
  obtain ⟨cs, rfl⟩ : ∃ cs, text = String.ofList cs := ⟨text.toList, by simp⟩
  rw [String.utf8ByteSize_ofList] at short
  match cs with
  | [] =>
    cases read
    rfl
  | [c] =>
    rw [String.utf8Len_cons, String.utf8Len_nil, Nat.zero_add] at short
    have small : c.toNat < 128 := Nat.lt_succ_of_le
      (Char.utf8Size_eq_one_iff.mp (Nat.le_antisymm short c.utf8Size_pos))
    have quiet := lines?_of_character small
    -- A byte-order mark takes more than one byte.
    have unmarked : [c].head? ≠ some '\ufeff' := fun marked => by
      rw [Option.some.inj marked] at small
      exact absurd small (by decide)
    rw [document?_of_unmarked String.toList_ofList unmarked] at read
    obtain ⟨lines, found, assembled⟩ := Option.bind_eq_some_iff.mp read
    rw [found] at quiet
    obtain rfl := List.isEmpty_iff.mp quiet
    cases assembled
    rfl
  | c :: d :: cs =>
    have one := c.utf8Size_pos
    have two := d.utf8Size_pos
    simp only [String.utf8Len] at short
    omega

end ChainStore.Toml

namespace ChainStore.Settings

open Toml (Value Entries)

/-! ### Documents -/

/-- A section with another path, where it gives one. -/
def sectionWithPath (path : String) : Value → Value
  | .table fields => .table (Toml.adjust pathField.name (fun _ => .string path) fields)
  | .array elements => .array (elements.set pathField.position (.string path))
  | v => v

def withPath (path : String) (entries : Entries) : Entries :=
  Toml.adjust pathField.heading (sectionWithPath path) entries

def repath (settings : Settings) (path : String) : Settings :=
  { settings with file := { settings.file with path := path } }

variable {entries : Entries} {path : String}

private theorem fileSection?_string (path : String) (timeout : Option Value) :
    fileSection? (some (.string path)) timeout =
      (fileSection? none timeout).map fun file => { file with path := path } := by
  unfold fileSection?
  cases field? (fun v => (natural? UInt64.size v).map UInt64.ofNat)
    ({} : FileSettings).busyTimeoutMs timeout <;> rfl

private theorem section_withPath (tidy : (Value.table entries).Tidy)
    (gives : pathField.Gives entries (.string path)) :
    ∃ timeout, (section? fileSection? "path" "busy_timeout_ms" (entries.lookup "database")) =
        fileSection? (some (.string path)) timeout ∧
      ∀ path', (section? fileSection? "path" "busy_timeout_ms"
        ((withPath path' entries).lookup "database")) =
          fileSection? (some (.string path')) timeout := by
  cases gives with
  | @byName fields member given =>
    have found : entries.lookup "database" = some (.table fields) :=
      (Toml.lookup_eq_some tidy.distinct).mpr member
    have written : fields.lookup "path" = some (.string path) :=
      (Toml.lookup_eq_some (tidy.of_entry member).distinct).mpr given
    refine ⟨fields.lookup "busy_timeout_ms", by rw [found, section?, written], fun path' => ?_⟩
    rw [withPath, Toml.lookup_adjust, found]
    simp only [Option.map_some, pathField, if_true, sectionWithPath, section?, Toml.lookup_adjust,
      written]
    simp
  | @byPosition elements member given =>
    have found : entries.lookup "database" = some (.array elements) :=
      (Toml.lookup_eq_some tidy.distinct).mpr member
    have written : elements[0]? = some (.string path) := given
    refine ⟨elements[1]?, by rw [found, section?, written], fun path' => ?_⟩
    rw [withPath, Toml.lookup_adjust, found]
    simp only [Option.map_some, pathField, if_true, sectionWithPath, section?]
    rw [List.getElem?_set_self (List.getElem?_eq_some_iff.mp written).1,
      List.getElem?_set_ne Nat.zero_ne_one]

/-- Of a document with another path the same settings are read, but for the path. -/
theorem ofEntries?_withPath {settings : Settings} (tidy : (Value.table entries).Tidy)
    (gives : pathField.Gives entries (.string path)) (read : ofEntries? entries = some settings) :
    settings.file.path = path ∧
      ∀ path', ofEntries? (withPath path' entries) = some (settings.repath path') := by
  obtain ⟨timeout, one, others⟩ := section_withPath tidy gives
  have limits (path' : String) :
      (withPath path' entries).lookup "limits" = entries.lookup "limits" := by
    rw [withPath, Toml.lookup_adjust]
    simp [pathField]
  unfold ofEntries? at read ⊢
  rw [one, fileSection?_string, Option.bind_eq_bind, Option.bind_eq_some_iff] at read
  obtain ⟨_, there, rest⟩ := read
  obtain ⟨file, read, rfl⟩ := Option.map_eq_some_iff.mp there
  rw [Option.bind_eq_bind, Option.bind_eq_some_iff] at rest
  obtain ⟨ranges, read', rest⟩ := rest
  cases rest
  refine ⟨rfl, fun path' => ?_⟩
  rw [others, fileSection?_string, read, limits, read']
  rfl

theorem validate_repath {settings : Settings} (both : settings.file.path = "" ↔ path = "") :
    (settings.repath path).validate = settings.validate := by
  unfold validate repath
  simp only [String.isEmpty_iff, both]

theorem validate_of_unset {settings : Settings} (unset : settings.file.path = "") :
    settings.validate = .error (.settings .pathUnset) := by
  rw [validate, unset]
  rfl

/-! ### Files -/

/-- Two texts from which settings can be read, and which differ in the path of the database alone.
-/
inductive Repathed (text text' path path' : String) : Prop where
  | intro {entries : Entries} {settings : Settings} : Toml.document? text = some entries →
    pathField.Gives entries (.string path) → ofEntries? entries = some settings →
    Toml.document? text' = some (withPath path' entries) → Repathed text text' path path'

namespace Repathed

variable {text text' path path' : String}

theorem load (repathed : Repathed text text' path path') {file file' : String}
    {disk other : Files.Disk} (holds : disk.Holds file text) (holds' : other.Holds file' text') :
    ∃ settings : Settings, settings.file.path = path ∧
      Settings.load file disk = settings.validate.map (fun _ => settings) ∧
      Settings.load file' other =
        (settings.repath path').validate.map (fun _ => settings.repath path') := by
  obtain ⟨document, gives, read, document'⟩ := repathed
  obtain ⟨given, others⟩ := ofEntries?_withPath (Toml.document?_tidy document) gives read
  exact ⟨_, given, (load_eq_ofText holds).trans (ofText_of_settings document read),
    (load_eq_ofText holds').trans (ofText_of_settings document' (others path'))⟩

theorem foreign (repathed : Repathed text text' path path') (rewrites : Files.Place → Prop) :
    (Files.Disk.Rewriting.ofTexts rewrites text text').Foreign := by
  cases repathed with
  | @intro entries settings document gives read document' =>
    have filled : entries ≠ [] := by
      rintro rfl
      cases gives with
      | byName member given => cases member
      | byPosition member given => cases member
    have filled' : withPath path' entries ≠ [] := by
      simpa [withPath, Toml.adjust] using filled
    have long {text : String} {found : Entries} (filled : found ≠ [])
        (read : Toml.document? text = some found) : 2 ≤ text.toUTF8.data.toList.length :=
      Nat.lt_of_not_le fun short => filled (Toml.document?_of_short short read)
    exact ⟨Files.toDatabase_of_long (long filled document),
      Files.toDatabase_of_long (long filled' document')⟩

end Repathed

end ChainStore.Settings
