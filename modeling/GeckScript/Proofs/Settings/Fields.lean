import GeckScript.Proofs.Basic
import GeckScript.Proofs.Settings.Merging
import Mathlib.Logic.Basic
import Mathlib.Tactic.Common

/-!
The fields of the settings, and when they can be read: all seven have to be there with a value that
their type takes. A table that holds a value of its own type for each field is read as just these
values.
-/

namespace GeckScript

/-- A field of the settings: the switch of a feature, or one of the texts on the documentation. -/
inductive Field where
  | feature (f : Feature)
  | baseUrl
  | titleParam
  | functionsPage
  deriving Repr, DecidableEq

namespace Field

def all : List Field :=
  Feature.all.map feature ++ [baseUrl, titleParam, functionsPage]

def home : Field → Section
  | feature _ => highlightSection
  | _ => docsSection

def name : Field → String
  | feature f => f.name
  | baseUrl => "base_url"
  | titleParam => "title_param"
  | functionsPage => "functions_page"

def key (f : Field) : String :=
  f.home.key ++ "." ++ f.name

def path (f : Field) : SettingPath :=
  [.name f.home.key, .name f.name]

/-- A value of exactly the type of a field: a switch of a feature, a text of the documentation. -/
def Fits (f : Field) (value : Scalar) : Prop :=
  match f with
  | feature _ => ∃ b, value = .boolean b
  | _ => ∃ t, value = .text t

theorem mem_all (f : Field) : f ∈ all := by
  rcases f with (_ | _ | _ | _) | _ | _ | _ <;> decide

theorem home_mem (f : Field) : f.home ∈ [highlightSection, docsSection] := by
  cases f <;> simp [home]

theorem isPlainKey_home (f : Field) : IsPlainKey f.home.key := by
  rcases f with (_ | _ | _ | _) | _ | _ | _ <;> decide

theorem isPlainKey_name (f : Field) : IsPlainKey f.name := by
  rcases f with (_ | _ | _ | _) | _ | _ | _ <;> decide

theorem ofString?_key (f : Field) : SettingPath.ofString? f.key = some f.path := by
  rcases f with (_ | _ | _ | _) | _ | _ | _ <;> decide +kernel

theorem eq_of_place {f g : Field} (hhome : f.home.key = g.home.key) (hname : f.name = g.name) :
    f = g := by
  rcases f with (_ | _ | _ | _) | _ | _ | _ <;> rcases g with (_ | _ | _ | _) | _ | _ | _ <;>
    first | rfl | exact absurd hhome (by decide) | exact absurd hname (by decide)

theorem eq_of_path {f g : Field} (h : f.path = g.path) : f = g := by
  simp only [path, List.cons.injEq, PathStep.name.injEq, and_true] at h
  exact eq_of_place h.1 h.2

end Field

namespace Settings

def field (s : Settings) : Field → Scalar
  | .feature f => .boolean (s.highlight.has f)
  | .baseUrl => .text s.docs.baseUrl
  | .titleParam => .text s.docs.titleParam
  | .functionsPage => .text s.docs.functionsPage

theorem eq_of_field {s t : Settings} (h : ∀ f, s.field f = t.field f) : s = t := by
  obtain ⟨features, _, _, _⟩ := s
  obtain ⟨features', _, _, _⟩ := t
  have hfeatures : features = features' :=
    FeatureSet.eq_of_has fun f => Scalar.boolean.inj (h (.feature f))
  cases hfeatures
  cases h .baseUrl
  cases h .titleParam
  cases h .functionsPage
  rfl

end Settings

/-! ### Reading sections -/

namespace Section

variable {sec : Section} {s : Setting} {name : String} {α : Type}
  {as : String → Setting → Except SettingsError α} {a : α}

theorem require_eq_ok_iff {found : Option α} :
    sec.require s name found = .ok a ↔ found = some a := by
  cases found with
  | none => exact ⟨nofun, nofun⟩
  | some b => simp [require]

theorem read_eq_ok_some_iff : sec.read s as name = .ok (some a) ↔
    ∃ key value, sec.field? s name = some (key, value) ∧ as key value = .ok a := by
  unfold read
  cases hfield : sec.field? s name with
  | none => simp
  | some found =>
    obtain ⟨key, value⟩ := found
    cases has : as key value with
    | error cause => simp [Except.map, has]
    | ok b => simp [Except.map, has]

theorem body_of_get? {root : Setting} {entries : Entries Setting} {source : Option String}
    (h : root.entries.get? sec.key = some (.table entries source)) :
    sec.body root = .ok (.table entries source) := by
  rw [body, h]

theorem get?_of_body {root : Setting} (h : sec.body root = .ok s) :
    (∃ items source, root.entries.get? sec.key = some (.list items source)) ∨
      ∃ entries source, s = .table entries source ∧
        root.entries.get? sec.key = some (.table entries source) := by
  rw [body] at h
  cases hget : root.entries.get? sec.key with
  | none => simp [hget] at h
  | some found =>
    rw [hget] at h
    cases found with
    | scalar _ _ => cases h
    | list items source => exact .inl ⟨items, source, rfl⟩
    | table entries source =>
      cases h
      exact .inr ⟨entries, source, rfl, rfl⟩

theorem read_table_congr {entries others : Entries Setting} {source source' : Option String}
    (h : others.get? name = entries.get? name) :
    sec.read (.table others source') as name = sec.read (.table entries source) as name := by
  have hfield : sec.field? (.table others source') name = sec.field? (.table entries source) name :=
    congrArg (Option.map _) h
  rw [read, hfield, read]

theorem read_table_of_missing {entries : Entries Setting} {source : Option String}
    (h : entries.get? name = none) : sec.read (.table entries source) as name = .ok none := by
  have hfield : sec.field? (.table entries source) name = none :=
    congrArg (Option.map _) h
  rw [read, hfield]

theorem read_table_of_get? {entries : Entries Setting} {source : Option String} {value : Setting}
    (h : entries.get? name = some value) (has : ∀ key, as key value = .ok a) :
    sec.read (.table entries source) as name = .ok (some a) := by
  refine read_eq_ok_some_iff.2 ⟨s!"{sec.key}.{name}", value, ?_, has _⟩
  exact congrArg (Option.map _) h

end Section

namespace Settings

variable {root : Setting} {features : FeatureSet} {docs : SiteConfig} {settings : Settings}

theorem readHighlight_eq_ok_iff : readHighlight root = .ok features ↔
    ∃ s, highlightSection.body root = .ok s ∧
      ∀ f : Feature, highlightSection.read s Setting.toSwitch f.name =
        .ok (some (features.has f)) := by
  unfold readHighlight
  simp only [bind_eq_ok_iff, Section.require_eq_ok_iff, pure, Except.pure, Except.ok.injEq]
  constructor
  · rintro ⟨s, hbody, _, hvegas, _, hfose, _, hnvse, _, hnx, _, rfl, _, rfl, _, rfl, _, rfl, rfl⟩
    refine ⟨s, hbody, fun f => ?_⟩
    cases f with
    | vegas => exact hvegas
    | fose => exact hfose
    | nvse => exact hnvse
    | nx => exact hnx
  · rintro ⟨s, hbody, hreads⟩
    exact ⟨s, hbody, _, hreads .vegas, _, hreads .fose, _, hreads .nvse, _, hreads .nx,
      _, rfl, _, rfl, _, rfl, _, rfl, rfl⟩

theorem readHighlight_of_missing {s : Setting} {on : Feature → Option Bool} {f : Feature}
    (hbody : highlightSection.body root = .ok s)
    (hreads : ∀ f : Feature, highlightSection.read s Setting.toSwitch f.name = .ok (on f))
    (hf : Feature.all.find? (fun f => (on f).isNone) = some f) :
    readHighlight root = .error (highlightSection.absent s f.name) := by
  have hvegas : highlightSection.read s Setting.toSwitch "vegas" = .ok (on .vegas) := hreads .vegas
  have hfose : highlightSection.read s Setting.toSwitch "fose" = .ok (on .fose) := hreads .fose
  have hnvse : highlightSection.read s Setting.toSwitch "nvse" = .ok (on .nvse) := hreads .nvse
  have hnx : highlightSection.read s Setting.toSwitch "nx" = .ok (on .nx) := hreads .nx
  unfold readHighlight
  rw [hbody]
  simp only [bind, Except.bind, hvegas, hfose, hnvse, hnx]
  -- the switches before the one that is found are there, whatever those behind it are
  cases h1 : on .vegas <;> cases h2 : on .fose <;> cases h3 : on .nvse <;> cases h4 : on .nx <;>
    simp [Feature.all, h1, h2, h3, h4] at hf <;> subst hf <;> rfl

theorem readDocs_eq_ok_iff : readDocs root = .ok docs ↔
    ∃ s, docsSection.body root = .ok s ∧
      docsSection.read s Setting.toText "base_url" = .ok (some docs.baseUrl) ∧
      docsSection.read s Setting.toText "title_param" = .ok (some docs.titleParam) ∧
      docsSection.read s Setting.toText "functions_page" = .ok (some docs.functionsPage) := by
  unfold readDocs
  simp only [bind_eq_ok_iff, Section.require_eq_ok_iff, pure, Except.pure, Except.ok.injEq]
  constructor
  · rintro ⟨s, hbody, _, hurl, _, hparam, _, hpage, _, rfl, _, rfl, _, rfl, rfl⟩
    exact ⟨s, hbody, hurl, hparam, hpage⟩
  · rintro ⟨s, hbody, hurl, hparam, hpage⟩
    exact ⟨s, hbody, _, hurl, _, hparam, _, hpage, _, rfl, _, rfl, _, rfl, rfl⟩

theorem readHighlight_congr {other : Setting}
    (h : other.entries.get? highlightSection.key = root.entries.get? highlightSection.key) :
    readHighlight other = readHighlight root := by
  rw [readHighlight, readHighlight, Section.body, Section.body, h]

theorem readDocs_congr {other : Setting}
    (h : other.entries.get? docsSection.key = root.entries.get? docsSection.key) :
    readDocs other = readDocs root := by
  rw [readDocs, readDocs, Section.body, Section.body, h]

theorem read_eq_ok_iff : read root = .ok settings ↔
    readHighlight root = .ok settings.highlight ∧ readDocs root = .ok settings.docs := by
  unfold read
  simp only [bind_eq_ok_iff, pure, Except.pure, Except.ok.injEq]
  constructor
  · rintro ⟨_, hhighlight, _, hdocs, rfl⟩
    exact ⟨hhighlight, hdocs⟩
  · rintro ⟨hhighlight, hdocs⟩
    exact ⟨_, hhighlight, _, hdocs, rfl⟩

end Settings

/-! ### Settings that hold values -/

/-- Each field is there, with a value of its type. -/
def Setting.Holds (root : Setting) (v : Field → Scalar) : Prop :=
  ∀ f, f.Fits (v f) ∧ ∃ source, root.field? f.home.key f.name = some (.scalar (v f) source)

theorem Setting.holds_defaults : Settings.defaults.toSetting.Holds Settings.defaults.field := by
  rintro ((_ | _ | _ | _) | _ | _ | _) <;> exact ⟨⟨_, rfl⟩, none, rfl⟩

section Holds

variable {root : Setting} {v : Field → Scalar}

theorem Setting.Holds.exists_table (h : root.Holds v) (f : Field) :
    ∃ entries source, f.home.body root = .ok (.table entries source) ∧
      ∀ g : Field, g.home = f.home →
        ∃ origin, Entries.get? entries g.name = some (.scalar (v g) origin) := by
  obtain ⟨-, origin, hfield⟩ := h f
  obtain ⟨entries, source, hget, -⟩ := exists_table_of_field? hfield
  refine ⟨entries, source, Section.body_of_get? hget, fun g hg => ?_⟩
  obtain ⟨-, other, hother⟩ := h g
  rw [Setting.field?, hg, hget] at hother
  exact ⟨other, hother⟩

/-- Settings that hold a value for each field are read as these values. -/
theorem Settings.exists_read_of_holds (h : root.Holds v) :
    ∃ settings, read root = .ok settings ∧ ∀ f, settings.field f = v f := by
  -- the values are switches for the features and texts for the rest, which make up the settings
  choose on hon using fun f : Feature => (h (.feature f)).1
  obtain ⟨url, hurl⟩ := (h .baseUrl).1
  obtain ⟨param, hparam⟩ := (h .titleParam).1
  obtain ⟨page, hpage⟩ := (h .functionsPage).1
  let settings : Settings :=
    ⟨⟨on .vegas, on .fose, on .nvse, on .nx⟩, ⟨url, param, page⟩⟩
  have hhas (f : Feature) : settings.highlight.has f = on f := by
    cases f <;> rfl
  obtain ⟨switches, _, hswitches, hswitch⟩ := h.exists_table (.feature .vegas)
  obtain ⟨texts, _, htexts, htext⟩ := h.exists_table .baseUrl
  have hread {f : Field} {t : String} (hf : f.home = docsSection) (hv : v f = .text t)
      (source : Option String) :
      docsSection.read (.table texts source) Setting.toText f.name = .ok (some t) := by
    obtain ⟨origin, hget⟩ := htext f hf
    rw [hv] at hget
    exact Section.read_table_of_get? hget fun _ => rfl
  refine ⟨settings, read_eq_ok_iff.2 ⟨readHighlight_eq_ok_iff.2 ⟨_, hswitches, fun f => ?_⟩,
    readDocs_eq_ok_iff.2 ⟨_, htexts, hread rfl hurl _, hread rfl hparam _, hread rfl hpage _⟩⟩, ?_⟩
  · obtain ⟨origin, hget⟩ := hswitch (.feature f) rfl
    rw [hon f] at hget
    rw [hhas f]
    exact Section.read_table_of_get? hget fun _ => rfl
  · rintro (f | _ | _ | _)
    · rw [hon f, field, hhas f]
    · exact hurl.symm
    · exact hparam.symm
    · exact hpage.symm

end Holds

end GeckScript
