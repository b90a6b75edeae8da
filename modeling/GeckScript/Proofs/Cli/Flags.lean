import GeckScript.Proofs.Cli.Lookup

/-!
The settings under the flags of the command line, which override the switches of the files, whatever
their order is.
-/

namespace GeckScript.Cli

namespace SettingsRequest

/-- The files have the switches as a list, which the flags turn into a table with some of them. -/
def Unlists (s : SettingsRequest) (order : Order) (files : Files) : Prop :=
  (∃ root items source, s.fileLayers.merge order files = .ok root ∧
    root.entries.get? highlightSection.key = some (.list items source)) ∧
  (∃ f, s.Sets f) ∧ ∃ f, ¬s.Sets f

variable {s : SettingsRequest} {order : Order} {files : Files} {l : Loader}

/-! ### The switches under the flags -/

section Switches

variable {f : Feature} {root : Setting} {features : FeatureSet}

theorem override?_of_sets (h : s.Sets f) (on : Bool) :
    s.override? (.feature f) = some (.boolean (s.switch f on)) := by
  rw [override?, switch]
  by_cases hoff : Names s.disable f
  · rw [if_pos hoff, if_pos hoff]
  · have hon := h.resolve_right hoff
    rw [if_neg hoff, if_neg hoff, if_pos hon, if_pos hon]

theorem override?_of_not_sets (h : ¬s.Sets f) : s.override? (.feature f) = none := by
  obtain ⟨hon, hoff⟩ := not_or.1 h
  rw [override?, if_neg hoff, if_neg hon]

theorem switch_of_not_sets (h : ¬s.Sets f) (on : Bool) : s.switch f on = on := by
  obtain ⟨hon, hoff⟩ := not_or.1 h
  rw [switch, if_neg hoff, if_neg hon]

theorem readDocs_mergeOverrides (h : l.Overrides s.override?) :
    Settings.readDocs (l.mergeOverrides order root) = Settings.readDocs root := by
  refine Settings.readDocs_congr (h.get?_mergeOverrides order (fun field hfield => ?_) root)
  cases field with
  | feature f => exact absurd hfield (show highlightSection.key ≠ docsSection.key by decide)
  | _ => rfl

theorem readHighlight_mergeOverrides (h : l.Overrides s.override?) (hnone : ∀ f, ¬s.Sets f) :
    Settings.readHighlight (l.mergeOverrides order root) = Settings.readHighlight root := by
  refine Settings.readHighlight_congr (h.get?_mergeOverrides order (fun field hfield => ?_) root)
  cases field with
  | feature f => exact override?_of_not_sets (hnone f)
  | _ => rfl

theorem field?_of_sets (h : l.Overrides s.override?) (root : Setting) (hf : s.Sets f) (on : Bool) :
    ∃ source, (l.mergeOverrides order root).field? highlightSection.key f.name =
      some (.scalar (.boolean (s.switch f on)) source) := by
  rcases h.field?_mergeOverrides order root (.feature f) with
    ⟨hnone, -⟩ | ⟨value, source, hvalue, -, hfield⟩
  · rw [override?_of_sets hf on] at hnone
    cases hnone
  · rw [override?_of_sets hf on] at hvalue
    cases hvalue
    exact ⟨source, hfield⟩

theorem field?_of_not_sets (h : l.Overrides s.override?) (root : Setting) (hf : ¬s.Sets f) :
    (l.mergeOverrides order root).field? highlightSection.key f.name =
      root.field? highlightSection.key f.name := by
  rcases h.field?_mergeOverrides order root (.feature f) with
    ⟨-, hfield⟩ | ⟨value, source, hvalue, -⟩
  · exact hfield
  · rw [override?_of_not_sets hf] at hvalue
    cases hvalue

/-- With some flag the switches are in a table, which has those of the flags and those that a table
of the files has. -/
theorem exists_switches (h : l.Overrides s.override?) (hsets : ∃ f, s.Sets f) (root : Setting) :
    ∃ entries source,
      highlightSection.body (l.mergeOverrides order root) = .ok (.table entries source) ∧
      ∀ f : Feature,
        (s.Sets f → ∀ on, highlightSection.read (.table entries source) Setting.toSwitch f.name =
          .ok (some (s.switch f on))) ∧
        (¬s.Sets f → Entries.get? entries f.name = root.field? highlightSection.key f.name) := by
  -- the override of one flag is in the section, so the section is a table now, whatever it was
  obtain ⟨f₀, hf₀⟩ := hsets
  obtain ⟨_, hfield₀⟩ := field?_of_sets h root hf₀ true
  obtain ⟨entries, source, hget, -⟩ := Setting.exists_table_of_field? hfield₀
  have hentries (f : Feature) : Entries.get? entries f.name =
      (l.mergeOverrides order root).field? highlightSection.key f.name := by
    rw [Setting.field?, hget]
    rfl
  refine ⟨entries, source, Section.body_of_get? hget, fun f => ⟨fun hf on => ?_, fun hf => ?_⟩⟩
  · obtain ⟨origin, hfield⟩ := field?_of_sets h root hf on
    exact Section.read_table_of_get? ((hentries f).trans hfield) fun _ => rfl
  · exact (hentries f).trans (field?_of_not_sets h root hf)

/-- Unless flags for some features take the place of a list, the features are switched as the flags
say, and else as the files do. -/
theorem exists_readHighlight (h : l.Overrides s.override?)
    (hread : Settings.readHighlight root = .ok features)
    (hlist : ∀ items source,
      root.entries.get? highlightSection.key = some (.list items source) →
        (∃ f, s.Sets f) → ∀ f, s.Sets f) :
    ∃ switched, Settings.readHighlight (l.mergeOverrides order root) = .ok switched ∧
      ∀ f, switched.has f = s.switch f (features.has f) := by
  by_cases hsets : ∃ f, s.Sets f
  · obtain ⟨sec, hbody, hreads⟩ := Settings.readHighlight_eq_ok_iff.1 hread
    obtain ⟨entries, source, hbody', hswitches⟩ := exists_switches h hsets root
    let switched : FeatureSet :=
      ⟨s.switch .vegas features.vegas, s.switch .fose features.fose,
        s.switch .nvse features.nvse, s.switch .nx features.nx⟩
    have hhas (f : Feature) : switched.has f = s.switch f (features.has f) := by
      cases f <;> rfl
    refine ⟨switched, Settings.readHighlight_eq_ok_iff.2 ⟨_, hbody', fun f => ?_⟩, hhas⟩
    rw [hhas f]
    by_cases hf : s.Sets f
    · exact (hswitches f).1 hf _
    · -- without a flag the switch is read from the table of the files, where there is one
      rcases Section.get?_of_body hbody with ⟨items, origin, hget⟩ | ⟨before, origin, rfl, hget⟩
      · exact absurd (hlist items origin hget hsets f) hf
      · have hentry : Entries.get? entries f.name = Entries.get? before f.name := by
          rw [(hswitches f).2 hf, Setting.field?, hget]
          rfl
        rw [switch_of_not_sets hf, Section.read_table_congr hentry]
        exact hreads f
  · have hnone (f : Feature) : ¬s.Sets f := fun hf => hsets ⟨f, hf⟩
    refine ⟨features, (readHighlight_mergeOverrides h hnone).trans hread, fun f => ?_⟩
    rw [switch_of_not_sets (hnone f)]

/-- Flags that take the place of a list leave the switches missing that they do not set. -/
theorem readHighlight_of_list (h : l.Overrides s.override?) {items : List Setting}
    {source : Option String}
    (hget : root.entries.get? highlightSection.key = some (.list items source))
    (hsets : ∃ f, s.Sets f) (hf : Feature.all.find? (fun f => ¬s.Sets f) = some f) :
    Settings.readHighlight (l.mergeOverrides order root) = .error (.missingField f.name) := by
  obtain ⟨entries, origin, hbody, hswitches⟩ := exists_switches h hsets root
  have hreads (f : Feature) :
      highlightSection.read (.table entries origin) Setting.toSwitch f.name =
        .ok (if s.Sets f then some (s.switch f true) else none) := by
    by_cases hf : s.Sets f
    · rw [if_pos hf]
      exact (hswitches f).1 hf true
    · rw [if_neg hf]
      -- a list has no fields that could have been kept
      refine Section.read_table_of_missing (((hswitches f).2 hf).trans ?_)
      rw [Setting.field?, hget]
      rfl
  refine Settings.readHighlight_of_missing hbody hreads ?_
  rw [← hf]
  congr 1
  funext f
  by_cases hf : s.Sets f <;> simp [hf]

end Switches

/-! ### Loading under the flags -/

section Load

variable {settings : Settings}

theorem Accepted.exists_load (h : s.Accepted)
    (hbase : s.withoutFlags.load order files = .ok settings) (hlist : ¬s.Unlists order files) :
    ∃ features, s.load order files = .ok ⟨features, settings.docs⟩ ∧
      ∀ f, features.has f = s.switch f (settings.highlight.has f) := by
  obtain ⟨root, hroot, hread⟩ := exists_merge_of_withoutFlags hbase
  obtain ⟨l, hl, hload⟩ := h.exists_load_eq hroot
  obtain ⟨hhighlight, hdocs⟩ := Settings.read_eq_ok_iff.1 hread
  obtain ⟨features, hfeatures, hhas⟩ := exists_readHighlight hl hhighlight
    fun items source hget hsets f => not_not.1 fun hf =>
      hlist ⟨⟨root, items, source, hroot, hget⟩, hsets, f, hf⟩
  have hfinal : Settings.read (l.mergeOverrides order root) = .ok ⟨features, settings.docs⟩ :=
    Settings.read_eq_ok_iff.2 ⟨hfeatures, (readDocs_mergeOverrides hl).trans hdocs⟩
  exact ⟨features, by rw [hload, hfinal]; rfl, hhas⟩

theorem Accepted.load_of_unlists (h : s.Accepted) (hlist : s.Unlists order files) {f : Feature}
    (hf : Feature.all.find? (fun f => ¬s.Sets f) = some f) :
    s.load order files = .error (.settings (.missingField f.name)) := by
  obtain ⟨⟨root, items, source, hroot, hget⟩, hsets, -⟩ := hlist
  obtain ⟨l, hl, hload⟩ := h.exists_load_eq hroot
  rw [hload, Settings.read, readHighlight_of_list hl hget hsets hf]
  rfl

/-- Requests for the same file that switch the same features on and the same ones off load the same
settings. -/
theorem Accepted.load_congr {other : SettingsRequest} (h : s.Accepted) (hother : other.Accepted)
    (hbase : s.withoutFlags.load order files = .ok settings) (hfile : other.file = s.file)
    (henable : ∀ f, Names other.enable f ↔ Names s.enable f)
    (hdisable : ∀ f, Names other.disable f ↔ Names s.disable f) :
    other.load order files = s.load order files := by
  have hsets : other.Sets = s.Sets := funext fun f => propext (or_congr (henable f) (hdisable f))
  have hlayers : other.fileLayers = s.fileLayers := by
    rw [fileLayers, fileLayers, hfile]
  have hwithout : other.withoutFlags = s.withoutFlags := by
    rw [withoutFlags, withoutFlags, hfile]
  have hunlists : other.Unlists order files ↔ s.Unlists order files := by
    rw [Unlists, Unlists, hlayers, hsets]
  by_cases hlist : s.Unlists order files
  · -- the same switch is the first one missing
    obtain ⟨f, hf⟩ : ∃ f, Feature.all.find? (fun f => ¬s.Sets f) = some f := by
      obtain ⟨-, -, f, hf⟩ := hlist
      refine Option.isSome_iff_exists.1 (List.find?_isSome.2 ⟨f, ?_, by simpa using hf⟩)
      cases f <;> decide
    have hf' : Feature.all.find? (fun f => ¬other.Sets f) = some f := by
      simpa only [hsets] using hf
    rw [h.load_of_unlists hlist hf, hother.load_of_unlists (hunlists.2 hlist) hf']
  · obtain ⟨features, hload, hhas⟩ := h.exists_load hbase hlist
    obtain ⟨features', hload', hhas'⟩ :=
      hother.exists_load (hwithout ▸ hbase) (mt hunlists.1 hlist)
    have hfeatures : features' = features := FeatureSet.eq_of_has fun f => by
      rw [hhas, hhas', switch, switch]
      simp only [henable f, hdisable f]
    rw [hload, hload', hfeatures]

end Load

end SettingsRequest

theorem failed_unknownFlag (name : String) : Outcome.failed (.unknownFlag name) =
    ⟨1, "", s!"Error: unknown flag '{name}'\n", [], []⟩ := by
  -- the message and its two ends are put together in another order
  have hmessage : "Error: " ++ ("unknown flag '" ++ name ++ "'") ++ "\n" =
      ("Error: " ++ "unknown flag '") ++ name ++ ("'" ++ "\n") := by
    simp only [String.append_assoc]
  exact congrArg (Outcome.mk 1 "" · [] []) hmessage

theorem run_of_load_error {form : CommandForm}
    (hform : form ∈ [grammarForm, groupsForm, lookupForm]) {args : List String} {a : Arguments}
    (hread : form.read args = .ok a) {env : Surroundings} {e : Failure}
    (hload : (Invocation.settingsOf a).load env.order env.files = .error e) :
    run env (form.name :: args) = .failed e := by
  simp only [List.mem_cons, List.not_mem_nil, or_false] at hform
  rcases hform with rfl | rfl | rfl
  · have hrun := run_grammar env args
    rw [hread] at hrun
    refine hrun.trans ?_
    dsimp only
    rw [runGrammar, hload]
    rfl
  · have hrun := run_groups env args
    rw [hread] at hrun
    refine hrun.trans ?_
    dsimp only
    rw [runGroups, hload]
    rfl
  · have hrun := run_lookup env args
    rw [hread] at hrun
    refine hrun.trans ?_
    dsimp only
    rw [runLookup, hload]
    rfl

/-- Settings that load without flags load with any flags that are features, whatever their order is
and however often they come: a feature is off if a flag switches it off, or else on if one switches
it on, or else as the files say. The exception are files that have the switches as a list, in the
place of which the flags put a table, in which the other switches are missing. Another run comes to
the same if it goes through the settings in the same order or if no two keys of a file come to the
same setting. A flag that is no feature is reported whatever the files are. -/
theorem load_applies_flags (request : SettingsRequest) (order : Order) (files : Files) :
    (∀ settings, request.Accepted → request.withoutFlags.load order files = .ok settings →
      (¬request.Unlists order files →
        ∃ features, request.load order files = .ok ⟨features, settings.docs⟩ ∧
          ∀ f, features.has f = request.switch f (settings.highlight.has f)) ∧
      (request.Unlists order files → ∀ f, Feature.all.find? (fun f => ¬request.Sets f) = some f →
        request.load order files = .error (.settings (.missingField f.name))) ∧
      ∀ other : SettingsRequest, other.file = request.file → other.Accepted →
        (∀ f, Names other.enable f ↔ Names request.enable f) →
        (∀ f, Names other.disable f ↔ Names request.disable f) →
        ∀ order', order' = order ∨ request.KeysApart files →
          other.load order' files = request.load order files) ∧
    (¬request.Accepted → ∃ name, request.firstUnknown? = some name ∧
      request.load order files = .error (.unknownFlag name) ∧
      ∀ form ∈ [grammarForm, groupsForm, lookupForm], ∀ args a programs,
        form.read args = .ok a → Invocation.settingsOf a = request →
        run ⟨files, programs, order⟩ (form.name :: args) =
          ⟨1, "", s!"Error: unknown flag '{name}'\n", [], []⟩) := by
  constructor
  · intro settings haccepted hbase
    refine ⟨haccepted.exists_load hbase, fun hlist f => haccepted.load_of_unlists hlist, ?_⟩
    intro other hfile hother henable hdisable order' horder
    have hapart : other.KeysApart files ↔ request.KeysApart files := by
      rw [SettingsRequest.KeysApart, SettingsRequest.KeysApart, SettingsRequest.fileLayers,
        SettingsRequest.fileLayers, hfile]
    calc
      other.load order' files = other.load order files :=
        SettingsRequest.load_of_agree (horder.imp_right hapart.2)
      _ = request.load order files := haccepted.load_congr hother hbase hfile henable hdisable
  · intro hunknown
    obtain ⟨name, hname⟩ := SettingsRequest.exists_firstUnknown? hunknown
    have hload := SettingsRequest.load_of_unknown hname order files
    refine ⟨name, hname, hload, ?_⟩
    rintro form hform args a programs hread rfl
    rw [← failed_unknownFlag]
    exact run_of_load_error hform hread hload

/-- Flags against each other, a feature that the file switches off, and a flag that is none. The
flags come to the same if they are repeated and the settings are gone through the other way
round. -/
theorem load_applies_flags_mixed :
    let files : Files := [("geck.toml", "'highlight.fose' = false\n[highlight]\nvegas = true\n")]
    let request : SettingsRequest := ⟨none, ["NVSE", "nx"], ["nvse"]⟩
    let repeated : SettingsRequest := ⟨none, ["nx", "nvse", "NX"], ["NVSE"]⟩
    let unknown : SettingsRequest := ⟨none, ["nx", "obse"], ["f4se"]⟩
    (∃ features, request.load .written files = .ok ⟨features, Settings.defaults.docs⟩ ∧
      ∀ f, features.has f = request.switch f (f != .fose)) ∧
    repeated.load .backward files = request.load .written files ∧
    unknown.load .written files = .error (.unknownFlag "obse") := by
  intro files request repeated unknown
  have hbase : request.withoutFlags.load .written files =
      .ok { Settings.defaults with highlight := ⟨true, false, true, true⟩ } := by
    decide +kernel
  have htable : ¬request.Unlists .written files := by
    -- the settings of the file are merged into the table of the defaults
    have hkind : ((request.fileLayers.merge .written files).toOption.bind fun root =>
        (root.entries.get? highlightSection.key).map Setting.describe) = some "map" := by
      decide +kernel
    rintro ⟨⟨root, items, source, hroot, hget⟩, -⟩
    rw [hroot, Except.toOption, Option.bind_some, hget] at hkind
    exact absurd (Option.some_inj.1 hkind) (show "sequence" ≠ "map" by decide)
  have henable (f : Feature) : Names repeated.enable f ↔ Names request.enable f := by
    cases f <;> decide +kernel
  have hdisable (f : Feature) : Names repeated.disable f ↔ Names request.disable f := by
    cases f <;> decide +kernel
  have haccepted : request.Accepted := by decide +kernel
  obtain ⟨hswitches, -, hagain⟩ :=
    (load_applies_flags request .written files).1 _ haccepted hbase
  obtain ⟨features, hload, hhas⟩ := hswitches htable
  obtain ⟨name, hname, hunknown, -⟩ :=
    (load_applies_flags unknown .written files).2 (by decide +kernel)
  refine ⟨⟨features, hload, fun f => ?_⟩, ?_, ?_⟩
  · rw [hhas f]
    cases f <;> rfl
  · have hapart : request.KeysApart files := by decide +kernel
    exact hagain repeated rfl (by decide +kernel) henable hdisable .backward (.inr hapart)
  · have hfirst : unknown.firstUnknown? = some "obse" := by decide +kernel
    rw [hunknown, Option.some_inj.1 (hname.symm.trans hfirst)]

/-- Switches may stand in a list, in their order. A flag for one of them then leaves the others
missing, although the settings load without it. And where two keys of a file come to one switch, a
run in another order comes to other settings. -/
theorem load_over_list_or_colliding_keys :
    let listed : Files := [("geck.toml", "highlight = [true, true, true, true]")]
    let colliding : Files := [("geck.toml", "'highlight.nx' = false\n[highlight]\nnx = true\n")]
    let request : SettingsRequest := ⟨none, ["fose"], []⟩
    let repeated : SettingsRequest := ⟨none, ["fose", "FOSE"], []⟩
    request.Accepted ∧ repeated.Accepted ∧
      request.withoutFlags.load .written listed = .ok Settings.defaults ∧
      (¬∃ settings, request.load .written listed = .ok settings) ∧
      request.withoutFlags.load .written colliding = .ok Settings.defaults ∧
      request.load .written colliding = .ok Settings.defaults ∧
      repeated.load .backward colliding ≠ .ok Settings.defaults := by
  intro listed colliding request repeated
  have hload : request.load .written listed = .error (.settings (.missingField "vegas")) := by
    decide +kernel
  refine ⟨by decide +kernel, by decide +kernel, by decide +kernel, ?_, by decide +kernel,
    by decide +kernel, by decide +kernel⟩
  rintro ⟨settings, hok⟩
  rw [hload] at hok
  cases hok

end GeckScript.Cli
