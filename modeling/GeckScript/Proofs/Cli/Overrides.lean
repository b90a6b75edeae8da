import GeckScript.Cli.Run
import GeckScript.Proofs.Settings.Apart

/-!
The settings that a command asks for: the flags as overrides of the files, and what the order comes
to in which a run goes through the files. A flag that is no feature is reported before any file is
read.
-/

namespace GeckScript.Cli

/-- Some of the names is that of a feature. -/
def Names (names : List String) (f : Feature) : Prop :=
  ∃ name ∈ names, Feature.ofName? name = some f

instance (names : List String) : DecidablePred (Names names) := fun f =>
  inferInstanceAs (Decidable (∃ name ∈ names, Feature.ofName? name = some f))

namespace SettingsRequest

def withoutFlags (s : SettingsRequest) : SettingsRequest :=
  { s with enable := [], disable := [] }

def fileLayers (s : SettingsRequest) : Loader :=
  let l := Loader.defaults.withOptionalFile projectFile
  (s.file.map l.withFile).getD l

def Accepted (s : SettingsRequest) : Prop :=
  ∀ name ∈ s.enable ++ s.disable, (Feature.ofName? name).isSome

instance : DecidablePred Accepted := fun s =>
  inferInstanceAs (Decidable (∀ name ∈ s.enable ++ s.disable, (Feature.ofName? name).isSome))

def Sets (s : SettingsRequest) (f : Feature) : Prop :=
  Names s.enable f ∨ Names s.disable f

instance (s : SettingsRequest) : DecidablePred s.Sets := fun f =>
  inferInstanceAs (Decidable (Names s.enable f ∨ Names s.disable f))

/-- Whether a feature is on under the flags: off if one switches it off, or else on if one switches
it on, or else as it is without them. -/
def switch (s : SettingsRequest) (f : Feature) (on : Bool) : Bool :=
  if Names s.disable f then false else if Names s.enable f then true else on

/-- The first flag that is no feature, where those that switch on come first. -/
def firstUnknown? (s : SettingsRequest) : Option String :=
  (s.enable ++ s.disable).find? fun name => (Feature.ofName? name).isNone

def override? (s : SettingsRequest) : Field → Option Scalar
  | .feature f =>
    if Names s.disable f then some (.boolean false)
    else if Names s.enable f then some (.boolean true)
    else none
  | _ => none

def KeysApart (s : SettingsRequest) (files : Files) : Prop :=
  ∀ f ∈ s.fileLayers.files, f.KeysApart files

instance (s : SettingsRequest) (files : Files) : Decidable (s.KeysApart files) :=
  inferInstanceAs (Decidable (∀ f ∈ s.fileLayers.files, f.KeysApart files))

variable {s : SettingsRequest} {order : Order} {files : Files} {l : Loader}
  {o : Field → Option Scalar}

/-! ### The overrides of flags -/

def flagValue? (field : Field) (flag : String × Bool) : Option Scalar :=
  match field with
  | .feature f => if Feature.ofName? flag.1 = some f then some (.boolean flag.2) else none
  | _ => none

def withSwitch (l : Loader) (f : Feature) (on : Bool) : Loader :=
  ⟨l.files, assign (Field.path (.feature f)) (.scalar (.boolean on) none) l.overrides⟩

theorem overrideFlag_eq {flag : String × Bool} {f : Feature}
    (h : Feature.ofName? flag.1 = some f) :
    overrideFlag l flag = .ok (withSwitch l f flag.2) := by
  have hkey : f.configKey = Field.key (.feature f) := by cases f <;> decide
  rw [overrideFlag, h]
  dsimp only
  rw [hkey, Loader.setOverride_key]
  rfl

theorem overrides_withSwitch (ho : l.Overrides o) {flag : String × Bool} {f : Feature}
    (h : Feature.ofName? flag.1 = some f) :
    (withSwitch l f flag.2).Overrides fun field => (flagValue? field flag).or (o field) := by
  have hupdate : (fun field => (flagValue? field flag).or (o field)) =
      Function.update o (.feature f) (some (.boolean flag.2)) := by
    funext field
    rw [Function.update_apply]
    cases field with
    | feature g =>
      have hnamed : Feature.ofName? flag.1 = some g ↔ Field.feature g = .feature f := by
        rw [h, Option.some_inj, Field.feature.injEq, eq_comm]
      simp only [flagValue?, hnamed]
      split <;> rfl
    | _ => rfl
  have hfits : (Field.feature f).Fits (.boolean flag.2) := ⟨flag.2, rfl⟩
  exact hupdate ▸ ho.assign hfits none

theorem exists_foldlM_overrideFlag (ho : l.Overrides o) {flags : List (String × Bool)}
    (h : ∀ flag ∈ flags, (Feature.ofName? flag.1).isSome) :
    ∃ l', flags.foldlM overrideFlag l = .ok l' ∧ l'.files = l.files ∧
      l'.Overrides fun field => (flags.reverse.findSome? (flagValue? field)).or (o field) := by
  induction flags generalizing l o with
  | nil => exact ⟨l, rfl, rfl, by simpa using ho⟩
  | cons flag rest ih =>
    rw [List.forall_mem_cons] at h
    obtain ⟨f, hf⟩ := Option.isSome_iff_exists.1 h.1
    obtain ⟨l', hl', hfiles, hoverrides⟩ := ih (overrides_withSwitch ho hf) h.2
    refine ⟨l', bind_eq_ok_iff.2 ⟨_, overrideFlag_eq hf, hl'⟩, hfiles, ?_⟩
    simpa only [findSome?_reverse_cons, Option.or_assoc] using hoverrides

theorem findSome?_names (names : List String) (on : Bool) (f : Feature) :
    (names.map (·, on)).reverse.findSome? (flagValue? (.feature f)) =
      if Names names f then some (.boolean on) else none := by
  induction names with
  | nil => simp [Names]
  | cons name rest ih =>
    have hcons : Names (name :: rest) f ↔ Feature.ofName? name = some f ∨ Names rest f := by
      simp [Names]
    rw [List.map_cons, findSome?_reverse_cons, ih]
    simp only [hcons, flagValue?]
    by_cases hrest : Names rest f <;> simp [hrest]

theorem findSome?_flags (field : Field) :
    s.flags.reverse.findSome? (flagValue? field) = s.override? field := by
  cases field with
  | feature f =>
    -- the flags that switch off come last, and so they are found first
    rw [flags, List.reverse_append, List.findSome?_append, findSome?_names, findSome?_names,
      override?]
    split
    · rfl
    · rw [Option.none_or]
  | _ => exact List.findSome?_eq_none_iff.2 fun _ _ => rfl

theorem map_fst_flags : s.flags.map Prod.fst = s.enable ++ s.disable := by
  simp [flags, Function.comp_def]

theorem overrides_fileLayers : s.fileLayers.overrides = [] := by
  unfold fileLayers
  cases s.file <;> rfl

/-- Flags that are features make the overrides, for which switching off wins. -/
theorem Accepted.exists_loader (h : s.Accepted) :
    ∃ l, s.loader = .ok l ∧ l.files = s.fileLayers.files ∧ l.Overrides s.override? := by
  have hflags : ∀ flag ∈ s.flags, (Feature.ofName? flag.1).isSome := by
    intro flag hflag
    refine h flag.1 ?_
    rw [← map_fst_flags]
    exact List.mem_map_of_mem hflag
  have hnone : s.fileLayers.Overrides fun _ => none := by
    refine ⟨?_, ?_, nofun⟩ <;> rw [overrides_fileLayers]
    · exact List.nodup_nil
    · nofun
  obtain ⟨l, hl, hfiles, hoverrides⟩ := exists_foldlM_overrideFlag hnone hflags
  refine ⟨l, hl, hfiles, ?_⟩
  simpa only [findSome?_flags, Option.or_none] using hoverrides

/-- With flags that are features the settings are those of the files with the overrides set. -/
theorem Accepted.exists_load_eq (h : s.Accepted) {root : Setting}
    (hroot : s.fileLayers.merge order files = .ok root) :
    ∃ l : Loader, l.Overrides s.override? ∧
      s.load order files = (Settings.read (l.mergeOverrides order root)).mapError
        .settings := by
  obtain ⟨l, hl, hfiles, hoverrides⟩ := h.exists_loader
  obtain ⟨root', hfold, hmerged⟩ := bind_eq_ok_iff.1 hroot
  rw [Loader.mergeOverrides, overrides_fileLayers, Order.arrangeOverrides_nil] at hmerged
  cases hmerged
  refine ⟨l, hoverrides, ?_⟩
  have hload : s.load order files = (l.load order files).mapError .settings := by
    rw [load, hl]
    rfl
  rw [hload, Loader.load, Loader.merge, hfiles, hfold]
  rfl

theorem exists_merge_of_withoutFlags {settings : Settings}
    (h : s.withoutFlags.load order files = .ok settings) :
    ∃ root, s.fileLayers.merge order files = .ok root ∧ Settings.read root = .ok settings := by
  have hload : s.withoutFlags.load order files =
      (s.fileLayers.load order files).mapError .settings := rfl
  rw [hload, mapError_eq_ok_iff] at h
  exact bind_eq_ok_iff.1 h

/-! ### Flags that are no features -/

theorem foldlM_overrideFlag_of_unknown {flags : List (String × Bool)} {name : String}
    (h : (flags.map Prod.fst).find? (fun name => (Feature.ofName? name).isNone) = some name)
    (l : Loader) : flags.foldlM overrideFlag l = .error (.unknownFlag name) := by
  induction flags generalizing l with
  | nil => cases h
  | cons flag rest ih =>
    rw [List.map_cons, List.find?_cons] at h
    rw [List.foldlM_cons]
    cases hname : Feature.ofName? flag.1 with
    | none =>
      simp only [hname, Option.isNone_none, Option.some_inj] at h
      rw [overrideFlag, hname, h]
      rfl
    | some f =>
      simp only [hname, Option.isNone_some] at h
      rw [overrideFlag_eq hname]
      exact ih h (withSwitch l f flag.2)

/-- A flag that is no feature is reported whatever the files are. -/
theorem load_of_unknown {name : String} (h : s.firstUnknown? = some name) (order : Order)
    (files : Files) :
    s.load order files = .error (.unknownFlag name) := by
  rw [firstUnknown?, ← map_fst_flags] at h
  have hloader : s.loader = .error (.unknownFlag name) :=
    foldlM_overrideFlag_of_unknown h s.fileLayers
  rw [load, hloader]
  rfl

theorem exists_firstUnknown? (h : ¬s.Accepted) : ∃ name, s.firstUnknown? = some name := by
  refine Option.isSome_iff_exists.1 (List.find?_isSome.2 ?_)
  simpa [Accepted] using h

/-! ### Loading in another order -/

/-- Runs that go through the settings in different orders load the same ones if the keys of each
file are apart. -/
theorem load_order (hapart : s.KeysApart files) (order order' : Order) :
    s.load order' files = s.load order files := by
  by_cases haccepted : s.Accepted
  · obtain ⟨l, hl, hfiles, hoverrides⟩ := haccepted.exists_loader
    have hload (order : Order) : s.load order files = (l.load order files).mapError .settings := by
      rw [load, hl]
      rfl
    rw [hload, hload, hoverrides.load_order (hfiles ▸ hapart) order order']
  · obtain ⟨name, hname⟩ := exists_firstUnknown? haccepted
    rw [load_of_unknown hname, load_of_unknown hname]

theorem load_of_agree {order' : Order} (h : order' = order ∨ s.KeysApart files) :
    s.load order' files = s.load order files := by
  rcases h with rfl | hapart
  · rfl
  · exact load_order hapart order order'

end SettingsRequest

end GeckScript.Cli
