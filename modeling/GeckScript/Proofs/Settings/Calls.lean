import GeckScript.Proofs.Settings.Layers

/-!
Loaders by the calls that build them. What is loaded depends on the files in their order and on the
overrides in theirs, but not on how the two are mixed.
-/

namespace GeckScript

/-- A call that adds a layer to a loader. -/
inductive LoaderCall where
  | file (path : String)
  | optionalFile (path : String)
  | override (key : String) (value : Setting)

namespace LoaderCall

def apply (l : Loader) : LoaderCall → Except SettingsError Loader
  | file path => .ok (l.withFile path)
  | optionalFile path => .ok (l.withOptionalFile path)
  | override key value => l.setOverride key value

def load (calls : List LoaderCall) (order : Order) (files : Files) :
    Except SettingsError Settings := do
  (← calls.foldlM apply .defaults).load order files

def isOverride : LoaderCall → Bool
  | override _ _ => true
  | _ => false

def file? : LoaderCall → Option SettingsFile
  | file path => some ⟨path, true⟩
  | optionalFile path => some ⟨path, false⟩
  | override _ _ => none

def value? (files : Files) (f : Field) (call : LoaderCall) : Option Scalar :=
  call.file?.bind (·.value? files f)

def override? (f : Field) : LoaderCall → Option Scalar
  | override key (.scalar s _) => if key = f.key then some s else none
  | _ => none

def Sound (files : Files) : LoaderCall → Prop
  | file path => SettingsFile.Sound files ⟨path, true⟩
  | optionalFile path => SettingsFile.Sound files ⟨path, false⟩
  | override key value => ∃ f s source, key = Field.key f ∧ value = .scalar s source ∧ f.Fits s

/-- The value that calls settle a field on: that of its last override, or else that of the last file
that sets it, or else its default. -/
def settled (files : Files) (calls : List LoaderCall) (f : Field) : Scalar :=
  ((calls.reverse.findSome? (override? f)).or (calls.reverse.findSome? (value? files f))).getD
    (Settings.defaults.field f)

variable {files : Files} {calls before after : List LoaderCall} {call : LoaderCall} {f : Field}

/-! ### Building a loader -/

theorem override?_of_key {g : Field} {s : Scalar} {source : Option String} :
    (override g.key (.scalar s source)).override? f = if f = g then some s else none := by
  have hkey : g.key = f.key ↔ f = g := by
    refine ⟨fun h => Field.eq_of_path ?_, fun h => h ▸ rfl⟩
    rw [← Option.some_inj, ← Field.ofString?_key, ← Field.ofString?_key, h]
  simp only [override?, hkey]

theorem Sound.apply (h : call.Sound files) {l : Loader} {o : Field → Option Scalar}
    (ho : l.Overrides o) : ∃ l', call.apply l = .ok l' ∧ l'.files = l.files ++ call.file?.toList ∧
      l'.Overrides fun f => (call.override? f).or (o f) := by
  cases call with
  | file path => exact ⟨l.withFile path, rfl, rfl, ⟨ho.nodup, ho.entries, ho.complete⟩⟩
  | optionalFile path =>
    exact ⟨l.withOptionalFile path, rfl, rfl, ⟨ho.nodup, ho.entries, ho.complete⟩⟩
  | override key value =>
    obtain ⟨g, s, source, rfl, rfl, hfits⟩ := h
    refine ⟨_, Loader.setOverride_key g _, (List.append_nil l.files).symm, ?_⟩
    -- the new override hides what the field was overridden with before
    have hupdate : (fun f => ((override g.key (.scalar s source)).override? f).or (o f)) =
        Function.update o g (some s) := by
      funext f
      rw [override?_of_key, Function.update_apply]
      split <;> rfl
    exact hupdate ▸ ho.assign hfits source

theorem exists_foldlM_apply (h : ∀ call ∈ calls, call.Sound files) {l : Loader}
    {o : Field → Option Scalar} (ho : l.Overrides o) :
    ∃ l', calls.foldlM apply l = .ok l' ∧ l'.files = l.files ++ calls.filterMap file? ∧
      l'.Overrides fun f => (calls.reverse.findSome? (override? f)).or (o f) := by
  induction calls generalizing l o with
  | nil => exact ⟨l, rfl, by simp, by simpa using ho⟩
  | cons call rest ih =>
    rw [List.forall_mem_cons] at h
    obtain ⟨next, hnext, hfiles, hoverrides⟩ := h.1.apply ho
    obtain ⟨l', hl', hfiles', hoverrides'⟩ := ih h.2 hoverrides
    refine ⟨l', bind_eq_ok_iff.2 ⟨next, hnext, hl'⟩, ?_, ?_⟩
    · rw [hfiles', hfiles, List.append_assoc]
      cases hfile : call.file? <;> simp [hfile]
    · simpa only [findSome?_reverse_cons, Option.or_assoc] using hoverrides'

theorem findSome?_filterMap_file? :
    (calls.filterMap file?).reverse.findSome? (SettingsFile.value? files f) =
      calls.reverse.findSome? (value? files f) := by
  induction calls with
  | nil => rfl
  | cons call rest ih =>
    rw [findSome?_reverse_cons, ← ih]
    cases hfile : call.file? with
    | none => simp [value?, hfile]
    | some file =>
      rw [List.filterMap_cons_some hfile, findSome?_reverse_cons]
      simp [value?, hfile]

/-- Sound calls load settings in which each field has the value that they settle it on. -/
theorem exists_load_of_sound (h : ∀ call ∈ calls, call.Sound files) (order : Order) :
    ∃ settings, load calls order files = .ok settings ∧
      ∀ f, settings.field f = settled files calls f := by
  have hdefaults : Loader.defaults.Overrides fun _ => none :=
    ⟨List.nodup_nil, nofun, nofun⟩
  obtain ⟨l, hl, hlayers, hoverrides⟩ := exists_foldlM_apply h hdefaults
  have hfiles : ∀ file ∈ l.files, file.Sound files := by
    intro file hmem
    rw [hlayers] at hmem
    obtain ⟨call, hcall, hfile⟩ := List.mem_filterMap.1 hmem
    have hsound := h call hcall
    cases call <;> cases hfile <;> exact hsound
  obtain ⟨settings, hload, hvalues⟩ := hoverrides.exists_load hfiles order
  refine ⟨settings, bind_eq_ok_iff.2 ⟨l, hl, hload⟩, fun f => ?_⟩
  rw [hvalues f, hlayers, Loader.defaults, List.nil_append, findSome?_filterMap_file?, settled,
    Option.or_none, Option.getD_or]

/-- Sound calls that settle each field on the same value load the same settings, in whatever order
their entries are gone through. -/
theorem load_eq_of_settled {others : List LoaderCall} {files' : Files}
    (h : ∀ call ∈ calls, call.Sound files) (hothers : ∀ call ∈ others, call.Sound files')
    (hsettled : ∀ f, settled files' others f = settled files calls f) (order order' : Order) :
    load others order' files' = load calls order files := by
  obtain ⟨settings, hload, hvalues⟩ := exists_load_of_sound h order
  obtain ⟨settings', hload', hvalues'⟩ := exists_load_of_sound hothers order'
  rw [hload, hload']
  exact congrArg _ (Settings.eq_of_field fun f => by rw [hvalues', hvalues, hsettled])

/-! ### What settles a field -/

/-- A call that does not set a field does not count for it. -/
theorem settled_insert (hvalue : call.value? files f = none) (hoverride : call.override? f = none) :
    settled files (before ++ call :: after) f = settled files (before ++ after) f := by
  simp only [settled, List.reverse_append, List.reverse_cons, List.findSome?_append,
    List.findSome?_singleton, hvalue, hoverride, Option.or_none]

theorem findSome?_reverse_filter {α β : Type} {p : α → Bool} {q : α → Option β} {l : List α}
    (h : ∀ a, p a = false → q a = none) :
    (l.filter p).reverse.findSome? q = l.reverse.findSome? q := by
  induction l with
  | nil => rfl
  | cons a rest ih =>
    rw [findSome?_reverse_cons, ← ih]
    cases hp : p a with
    | false => rw [List.filter_cons_of_neg (by simp [hp]), h a hp, Option.or_none]
    | true => rw [List.filter_cons_of_pos hp, findSome?_reverse_cons]

/-- Only the order of the overrides and that of the files count. -/
theorem settled_eq_of_filter_eq {others : List LoaderCall}
    (hoverrides : others.filter isOverride = calls.filter isOverride)
    (hfiles : others.filter (!·.isOverride) = calls.filter (!·.isOverride)) :
    settled files others f = settled files calls f := by
  -- each of the two searches passes over the calls of the other kind
  have hnot (call : LoaderCall) : isOverride call = false → override? f call = none := by
    cases call <;> simp [isOverride, override?]
  have hnone (call : LoaderCall) : (!isOverride call) = false → value? files f call = none := by
    cases call <;> simp [isOverride, value?, file?]
  have ho : others.reverse.findSome? (override? f) = calls.reverse.findSome? (override? f) := by
    rw [← findSome?_reverse_filter hnot, hoverrides, findSome?_reverse_filter hnot]
  have hv : others.reverse.findSome? (value? files f) =
      calls.reverse.findSome? (value? files f) := by
    rw [← findSome?_reverse_filter hnone, hfiles, findSome?_reverse_filter hnone]
  rw [settled, settled, ho, hv]

theorem mem_of_filter_eq {others : List LoaderCall}
    (hoverrides : others.filter isOverride = calls.filter isOverride)
    (hfiles : others.filter (!·.isOverride) = calls.filter (!·.isOverride))
    (hcall : call ∈ others) : call ∈ calls := by
  cases hkind : call.isOverride with
  | true =>
    have hmem : call ∈ others.filter isOverride := List.mem_filter.2 ⟨hcall, hkind⟩
    rw [hoverrides] at hmem
    exact (List.mem_filter.1 hmem).1
  | false =>
    have hmem : call ∈ others.filter (!·.isOverride) := List.mem_filter.2 ⟨hcall, by simp [hkind]⟩
    rw [hfiles] at hmem
    exact (List.mem_filter.1 hmem).1

/-- Of the files only what they have for a field counts. -/
theorem settled_congr {files' : Files}
    (h : ∀ call ∈ calls, call.value? files' f = call.value? files f) :
    settled files' calls f = settled files calls f := by
  -- the search looks at the values of the calls only
  have hmap (q : LoaderCall → Option Scalar) :
      calls.reverse.findSome? q = (calls.map q).reverse.findSome? id := by
    rw [← List.map_reverse, List.findSome?_map]
    rfl
  rw [settled, settled, hmap (value? files' f), hmap (value? files f), List.map_congr_left h]

/-- Whatever files and overrides with their types are layered in whatever order, the settings load,
and each field has the value of its last override, or else that of the last file that sets it, or
else its default. So a further file leaves the fields alone that it does not set and where the
overrides stand between the files does not matter; neither does an optional file that is not there,
nor what files hold besides the fields, nor the order in which a run goes through the entries. -/
theorem load_last_wins (h : ∀ call ∈ calls, call.Sound files) (order order' : Order) :
    (∃ settings, load calls order files = .ok settings ∧
      (∀ f, settings.field f = settled files calls f) ∧
      ∀ before after call, calls = before ++ after → call.isOverride = false →
        call.Sound files → ∃ changed, load (before ++ call :: after) order' files = .ok changed ∧
          ∀ f, call.value? files f = none → changed.field f = settings.field f) ∧
    (∀ others : List LoaderCall, others.filter isOverride = calls.filter isOverride →
      others.filter (!·.isOverride) = calls.filter (!·.isOverride) →
      load others order' files = load calls order files) ∧
    (∀ before after path, calls = before ++ after → files.find? path = none →
      load (before ++ .optionalFile path :: after) order' files = load calls order files) ∧
    ∀ files' : Files, (∀ call ∈ calls, call.Sound files' ∧
      ∀ f, call.value? files' f = call.value? files f) →
      load calls order' files' = load calls order files := by
  obtain ⟨settings, hload, hvalues⟩ := exists_load_of_sound h order
  have hinsert {before after : List LoaderCall} {call : LoaderCall} (hcall : call.Sound files)
      (hcalls : calls = before ++ after) :
      ∀ other ∈ before ++ call :: after, other.Sound files := by
    rw [hcalls, List.forall_mem_append] at h
    exact List.forall_mem_append.2 ⟨h.1, List.forall_mem_cons.2 ⟨hcall, h.2⟩⟩
  refine ⟨⟨settings, hload, hvalues, ?_⟩, ?_, ?_, ?_⟩
  · intro before after call hcalls hfile hcall
    obtain ⟨changed, hchanged, hnew⟩ := exists_load_of_sound (hinsert hcall hcalls) order'
    refine ⟨changed, hchanged, fun f hvalue => ?_⟩
    have hoverride : call.override? f = none := by
      cases call <;> simp_all [isOverride, override?]
    rw [hnew, hvalues, settled_insert hvalue hoverride, hcalls]
  · intro others hoverrides hfiles
    exact load_eq_of_settled h
      (fun call hcall => h call (mem_of_filter_eq hoverrides hfiles hcall))
      (fun f => settled_eq_of_filter_eq hoverrides hfiles) order order'
  · intro before after path hcalls hmissing
    have hsound : (optionalFile path).Sound files := ⟨nofun, by simp [hmissing]⟩
    have hvalue (f : Field) : (optionalFile path).value? files f = none := by
      simp [value?, file?, SettingsFile.value?, hmissing]
    refine load_eq_of_settled h (hinsert hsound hcalls) (fun f => ?_) order order'
    rw [settled_insert (hvalue f) rfl, hcalls]
  · intro files' hsame
    exact load_eq_of_settled h (fun call hcall => (hsame call hcall).1)
      (fun f => settled_congr fun call hcall => (hsame call hcall).2 f) order order'

/-- Two files, one that is not there, and overrides in between. -/
theorem load_last_wins_mixed :
    let files : Files := [
      ("geck.toml", "[highlight]\nnx = false\nfose = false\n\n[editor]\ntheme = 3\n"),
      ("user.toml", "docs.title_param = \"page\"\n[highlight]\nfose = true\n")]
    let calls := [override "highlight.nvse" (.scalar (.boolean false) none), file "geck.toml",
      optionalFile "missing.toml", override "highlight.nx" (.scalar (.boolean true) none),
      optionalFile "user", override "highlight.nvse" (.scalar (.boolean true) none)]
    (∀ call ∈ calls, call.Sound files) ∧ ∃ settings, load calls .written files = .ok settings ∧
      ∀ f, settings.field f = settled files calls f := by
  intro files calls
  have hproject : SettingsFile.Sound files ⟨"geck.toml", true⟩ := by decide +kernel
  have hmissing : SettingsFile.Sound files ⟨"missing.toml", false⟩ := by decide +kernel
  have huser : SettingsFile.Sound files ⟨"user", false⟩ := by decide +kernel
  have hnvse (b : Bool) : (override "highlight.nvse" (.scalar (.boolean b) none)).Sound files :=
    ⟨.feature .nvse, _, _, by decide, rfl, b, rfl⟩
  have hnx : (override "highlight.nx" (.scalar (.boolean true) none)).Sound files :=
    ⟨.feature .nx, _, _, by decide, rfl, true, rfl⟩
  have hsound : ∀ call ∈ calls, call.Sound files := by
    simp only [calls, List.forall_mem_cons]
    exact ⟨hnvse false, hproject, hmissing, hnx, huser, hnvse true, nofun⟩
  obtain ⟨⟨settings, hload, hvalues, -⟩, -⟩ := load_last_wins hsound .written .written
  exact ⟨hsound, settings, hload, hvalues⟩

end LoaderCall

end GeckScript
