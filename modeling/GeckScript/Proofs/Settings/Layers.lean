import GeckScript.Proofs.Settings.Order
import GeckScript.Proofs.Settings.Overrides
import GeckScript.Proofs.Toml.Keys

/-!
Settings in layers. A loader is built by calls that add files and overrides in any order. When the
files are sound and the overrides have the types of their fields, each field ends up with the value
of its last override, or else with the value in the last file that sets it, or else with its
default.
-/

namespace GeckScript

/-! ### Files -/

def Field.find? (f : Field) (entries : Entries Toml.Value) : Option Toml.Value :=
  match entries.get? f.home.key with
  | some (.table inner) => Entries.get? inner f.name
  | _ => none

def Field.ofToml? : Field → Toml.Value → Option Scalar
  | feature _, .boolean b => some (.boolean b)
  | feature _, _ => none
  | _, .text s => some (.text s)
  | _, _ => none

namespace Toml

def Value.IsPlainTable : Value → Prop
  | .table entries => ∀ entry ∈ entries, IsPlainKey entry.1
  | _ => False

instance : DecidablePred Value.IsPlainTable
  | .table entries => inferInstanceAs (Decidable (∀ entry ∈ entries, IsPlainKey entry.1))
  | .text _ | .integer _ | .float _ | .boolean _ | .dateTime _ | .array _ => isFalse id

/-- A document of plain keys, in which the sections are tables and the fields have their types. What
else there is may be of any kind. -/
structure IsSound (entries : Entries Value) : Prop where
  keys : ∀ entry ∈ entries, IsPlainKey entry.1
  sections : ∀ sec ∈ [highlightSection, docsSection], ∀ v ∈ entries.get? sec.key, v.IsPlainTable
  fields : ∀ f : Field, ∀ v ∈ f.find? entries, (f.ofToml? v).isSome

instance : DecidablePred IsSound := fun entries =>
  decidable_of_iff ((∀ entry ∈ entries, IsPlainKey entry.1) ∧
      (∀ sec ∈ [highlightSection, docsSection], ∀ v ∈ entries.get? sec.key, v.IsPlainTable) ∧
      ∀ f ∈ Field.all, ∀ v ∈ f.find? entries, (f.ofToml? v).isSome)
    ⟨fun h => ⟨h.1, h.2.1, fun f => h.2.2 f f.mem_all⟩,
      fun h => ⟨h.keys, h.sections, fun f _ => h.fields f⟩⟩

end Toml

namespace SettingsFile

/-- A file that is there if it has to be, and whose content is sound if it is there. -/
def Sound (files : Files) (file : SettingsFile) : Prop :=
  (file.required → (files.find? file.path).isSome) ∧
    ∀ found ∈ files.find? file.path,
      ∃ entries ∈ (Toml.parse found.2).toOption, Toml.IsSound entries

instance (files : Files) : DecidablePred (Sound files) := fun file =>
  inferInstanceAs (Decidable ((file.required → (files.find? file.path).isSome) ∧
    ∀ found ∈ files.find? file.path,
      ∃ entries ∈ (Toml.parse found.2).toOption, Toml.IsSound entries))

def value? (files : Files) (f : Field) (file : SettingsFile) : Option Scalar := do
  let (_, content) ← files.find? file.path
  let entries ← (Toml.parse content).toOption
  f.ofToml? (← f.find? entries)

end SettingsFile

section Documents

variable {f : Field} {entries : Entries Toml.Value}

theorem Field.fits_of_ofToml? {v : Toml.Value} {s : Scalar} (h : f.ofToml? v = some s)
    (path : String) : f.Fits s ∧ Setting.ofToml path v = .scalar s path := by
  rcases f with f | _ | _ | _ <;> cases v <;> cases h <;>
    exact ⟨⟨_, rfl⟩, by rw [Setting.ofToml]⟩

theorem Toml.IsSound.exists_table (h : IsSound entries) {v : Value}
    (hget : entries.get? f.home.key = some v) :
    ∃ inner, v = .table inner ∧ ∀ entry ∈ inner, IsPlainKey entry.1 := by
  have hplain := h.sections f.home f.home_mem v hget
  cases v with
  | table inner => exact ⟨inner, rfl, hplain⟩
  | _ => exact hplain.elim

theorem Toml.IsSound.field?_eq (h : IsSound entries) (hkeyed : Entries.Keyed Value.Keyed entries)
    (order : Order) (layer : Layer) (path : String) (f : Field) :
    (Setting.table (order.arrangeEntries layer [] (Setting.entriesOfToml path entries)) none).field?
        f.home.key f.name =
      ((f.find? entries).bind f.ofToml?).map fun s => .scalar s path := by
  have hfields := h.fields f
  have hnodup : ((Setting.entriesOfToml path entries).map Prod.fst).Nodup := by
    rw [Setting.map_fst_entriesOfToml]
    exact hkeyed.nodup
  show ((order.arrangeEntries layer [] (Setting.entriesOfToml path entries)).get?
    f.home.key).bind _ = _
  rw [Order.get?_arrangeEntries hnodup, Setting.get?_entriesOfToml]
  unfold Field.find? at hfields ⊢
  cases hget : entries.get? f.home.key with
  | none => rfl
  | some v =>
    obtain ⟨inner, rfl, -⟩ := h.exists_table hget
    have hinner : ((Setting.entriesOfToml path inner).map Prod.fst).Nodup := by
      rw [Setting.map_fst_entriesOfToml]
      exact (hkeyed.of_get? hget).nodup_of_table
    simp only [hget, Option.map_some, Option.bind_some, Setting.ofToml, Order.arrange_table,
      Setting.entries, Order.get?_arrangeEntries hinner, Setting.get?_entriesOfToml] at hfields ⊢
    cases hvalue : Entries.get? inner f.name with
    | none => rfl
    | some value =>
      obtain ⟨s, hs⟩ := Option.isSome_iff_exists.1 (hfields value hvalue)
      simp only [Option.map_some, Option.bind_some, hs, (Field.fits_of_ofToml? hs path).2,
        Order.arrange_scalar]

/-- A sound document changes the fields that it sets, in whatever order. -/
theorem Setting.Holds.putAll {root : Setting} {v : Field → Scalar} (hroot : root.Holds v)
    (h : Toml.IsSound entries) (hkeyed : Entries.Keyed Toml.Value.Keyed entries) (order : Order)
    (layer : Layer) (path : String) :
    (root.putAll (order.arrangeEntries layer [] (entriesOfToml path entries))).Holds fun f =>
      ((f.find? entries).bind f.ofToml?).getD (v f) := by
  intro f
  have hfield := h.field?_eq hkeyed order layer path f
  have hplain : ∀ entry ∈ order.arrangeEntries layer [] (entriesOfToml path entries),
      IsPlainKey entry.1 :=
    Order.forall_key_arrangeEntries (isPlainKey_of_mem_entriesOfToml h.keys)
  have hnodup : ((entriesOfToml path entries).map Prod.fst).Nodup := by
    rw [map_fst_entriesOfToml]
    exact hkeyed.nodup
  rw [field?_putAll hplain (Order.map_fst_arrangeEntries_perm.nodup_iff.2 hnodup), hfield]
  · -- the value of the document, or else what was there
    beta_reduce
    cases hvalue : (f.find? entries).bind f.ofToml? with
    | none => exact hroot f
    | some s =>
      obtain ⟨value, -, hs⟩ := Option.bind_eq_some_iff.1 hvalue
      exact ⟨(Field.fits_of_ofToml? hs path).1, path, rfl⟩
  · -- the section is a table, of plain keys that are all different
    intro s hs
    rw [Order.get?_arrangeEntries hnodup, get?_entriesOfToml, Option.map_map,
      Option.map_eq_some_iff] at hs
    obtain ⟨value, hvalue, rfl⟩ := hs
    obtain ⟨inner, rfl, hinner⟩ := h.exists_table hvalue
    refine ⟨_, _, by rw [Function.comp_apply, ofToml, Order.arrange_table], ?_, ?_⟩
    · exact Order.forall_key_arrangeEntries (isPlainKey_of_mem_entriesOfToml hinner)
    · refine Order.map_fst_arrangeEntries_perm.nodup_iff.2 ?_
      rw [map_fst_entriesOfToml]
      exact (hkeyed.of_get? hvalue).nodup_of_table
  · -- and the field is no table that would be merged
    intro s hs
    rw [hfield, Option.map_eq_some_iff] at hs
    obtain ⟨value, -, rfl⟩ := hs
    exact ⟨value, path, rfl⟩

theorem Setting.Holds.mergeFile {files : Files} {file : SettingsFile} {root : Setting}
    {v : Field → Scalar} (hroot : root.Holds v) (h : file.Sound files) (order : Order)
    (place : Nat) : ∃ root', Loader.mergeFile order files root (file, place) = .ok root' ∧
      root'.Holds fun f => (file.value? files f).getD (v f) := by
  obtain ⟨hrequired, hcontent⟩ := h
  unfold Loader.mergeFile SettingsFile.value?
  cases hfind : files.find? file.path with
  | none =>
    -- a file that is not there has no values, and need not be there
    have hoptional : file.required = false := by simpa [hfind] using hrequired
    exact ⟨root, by simp [hoptional], hroot⟩
  | some found =>
    obtain ⟨path, content⟩ := found
    obtain ⟨entries, hentries, hsound⟩ := hcontent _ hfind
    have hparse : Toml.parse content = .ok entries := by
      cases hresult : Toml.parse content <;> simp_all [Except.toOption]
    have hkeyed := Toml.keyed_of_parse hparse
    simp only [hparse]
    refine ⟨_, rfl, ?_⟩
    rw [Loader.setAll_of_plain
      (Order.forall_key_arrangeEntries (isPlainKey_of_mem_entriesOfToml hsound.keys))]
    simpa [hparse, Except.toOption] using hroot.putAll hsound hkeyed order (.file place) path

end Documents

/-! ### Merging layers -/

section Merging

variable {files : Files} {root : Setting} {v : Field → Scalar}

theorem Setting.Holds.foldlM_mergeFile {layers : List SettingsFile} (h : root.Holds v)
    (hlayers : ∀ file ∈ layers, file.Sound files) (order : Order) (place : Nat) :
    ∃ root', (layers.zipIdx place).foldlM (Loader.mergeFile order files) root = .ok root' ∧
      root'.Holds fun f => (layers.reverse.findSome? (SettingsFile.value? files f)).getD (v f) := by
  induction layers generalizing root v place with
  | nil => exact ⟨root, rfl, h⟩
  | cons file rest ih =>
    rw [List.forall_mem_cons] at hlayers
    obtain ⟨next, hnext, hholds⟩ := h.mergeFile hlayers.1 order place
    obtain ⟨root', hroot', hfinal⟩ := ih hholds hlayers.2 (place + 1)
    refine ⟨root', bind_eq_ok_iff.2 ⟨next, hnext, hroot'⟩, ?_⟩
    simpa only [findSome?_reverse_cons, Option.getD_or] using hfinal

theorem Loader.Overrides.exists_load {l : Loader} {o : Field → Option Scalar} (h : l.Overrides o)
    (hfiles : ∀ file ∈ l.files, file.Sound files) (order : Order) :
    ∃ settings, l.load order files = .ok settings ∧ ∀ f, settings.field f =
      (o f).getD ((l.files.reverse.findSome? (SettingsFile.value? files f)).getD
        (Settings.defaults.field f)) := by
  obtain ⟨root, hroot, hholds⟩ := Setting.holds_defaults.foldlM_mergeFile hfiles order 0
  have hoverridden : (l.mergeOverrides order root).Holds fun f => (o f).getD
      ((l.files.reverse.findSome? (SettingsFile.value? files f)).getD
        (Settings.defaults.field f)) := by
    intro f
    beta_reduce
    rcases h.field?_mergeOverrides order root f with ⟨ho, hfield⟩ | ⟨s, source, ho, hfits, hfield⟩
    · rw [ho, hfield]
      exact hholds f
    · rw [ho, hfield]
      exact ⟨hfits, source, rfl⟩
  obtain ⟨settings, hread, hvalues⟩ := Settings.exists_read_of_holds hoverridden
  exact ⟨settings, bind_eq_ok_iff.2 ⟨_, bind_eq_ok_iff.2 ⟨root, hroot, rfl⟩, hread⟩, hvalues⟩

end Merging

end GeckScript
