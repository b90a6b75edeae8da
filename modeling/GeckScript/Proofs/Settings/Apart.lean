import GeckScript.Proofs.Settings.Changes
import GeckScript.Proofs.Settings.Overrides
import Mathlib.Data.List.Perm.Basic

/-!
Settings that do not depend on the order in which a run goes through them: those of files whose keys
set places apart, under overrides of places apart.
-/

namespace GeckScript

open Text Setting

/-! ### Values in order -/

namespace Order

variable {order : Order} {layer : Layer} {keys : List String}

theorem kind_arrange (value : Setting) :
    (order.arrange layer keys value).kind = value.kind := by
  cases value with
  | scalar _ _ => rw [arrange_scalar]
  | list _ _ => rw [arrange_list]
  | table _ _ => rw [arrange_table]; rfl

mutual

theorem changes_arrange : (value : Setting) → (keys : List String) →
    (order.arrange layer keys value).changes.Perm value.changes
  | .scalar _ _, _ => by rw [arrange_scalar]
  | .list _ _, _ => by rw [arrange_list]
  | .table [] source, keys => by
    have hnone : order.arrangeEntries layer keys [] = [] :=
      List.perm_nil.1 (order.entries_perm layer keys [])
    rw [arrange_table, hnone]
  | .table (entry :: rest) source, keys => by
    have hperm := order.entries_perm layer keys (order.arrangeEach layer keys (entry :: rest))
    have hne : order.arrangeEntries layer keys (entry :: rest) ≠ [] := by
      intro hnil
      have hkeys : ((order.arrangeEntries layer keys (entry :: rest)).map Prod.fst).Perm
          ((entry :: rest).map Prod.fst) := map_fst_arrangeEntries_perm
      rw [hnil] at hkeys
      exact List.cons_ne_nil _ _ (List.nil_perm.1 hkeys)
    rw [arrange_table, changes_table_of_ne_nil hne, changes_table_of_ne_nil (List.cons_ne_nil _ _)]
    calc
      _ = (order.arrangeEntries layer keys (entry :: rest)).flatMap _ :=
        changesOfEach_eq_flatMap
      List.Perm _ ((order.arrangeEach layer keys (entry :: rest)).flatMap _) :=
        hperm.flatMap_right _
      _ = changesOfEach (order.arrangeEach layer keys (entry :: rest)) :=
        changesOfEach_eq_flatMap.symm
      List.Perm _ (changesOfEach (entry :: rest)) :=
        changesOfEach_arrangeEach (entry :: rest) keys

theorem changesOfEach_arrangeEach : (entries : List (String × Setting)) → (keys : List String) →
    (changesOfEach (order.arrangeEach layer keys entries)).Perm (changesOfEach entries)
  | [], _ => .refl _
  | (key, value) :: rest, keys => by
    rw [arrangeEach, changesOfEach, changesOfEach]
    exact ((changes_arrange value _).map _).append (changesOfEach_arrangeEach rest keys)

end

end Order

/-- The changes at a path, whatever the order of what is in the value. -/
theorem SettingPath.changes_arrange (order : Order) (layer : Layer) (keys : List String)
    (value : Setting) (path : SettingPath) :
    (path.changes (order.arrange layer keys value)).Perm (path.changes value) := by
  induction path with
  | nil => exact order.changes_arrange value keys
  | cons step rest ih =>
    cases step with
    | name n => exact ih.map _
    | item i =>
      -- of an item only the kind is seen, which the order leaves as it is
      have hkinds (items : List Setting) :
          (changeItem i (SettingPath.set (order.arrange layer keys value) rest) items).map kind =
            (changeItem i (SettingPath.set value rest) items).map kind :=
        map_kind_changeItem rfl (fun s t hst => kind_set (order.kind_arrange value) hst rest) i
      have hchange : SettingPath.changes (order.arrange layer keys value) (.item i :: rest) =
          SettingPath.changes value (.item i :: rest) := by
        simp only [SettingPath.changes, face, hkinds]
      rw [hchange]

theorem SettingPath.ne_nil_of_ofString? {text : String} {path : SettingPath}
    (h : SettingPath.ofString? text = some path) : path ≠ [] := by
  simp only [ofString?] at h
  split at h
  · cases h
  · obtain ⟨rest, -, rfl⟩ := Option.map_eq_some_iff.1 h
    exact List.cons_ne_nil _ _

theorem SettingPath.ofKey_ne_nil (key : String) : SettingPath.ofKey key ≠ [] := by
  rw [ofKey]
  cases hpath : ofString? key with
  | none => exact List.cons_ne_nil _ _
  | some path => exact ne_nil_of_ofString? hpath

theorem SettingPath.ne_nil_of_mem_ofEntries {entries : Entries Setting} :
    ∀ entry ∈ SettingPath.ofEntries entries, entry.1 ≠ [] :=
  List.forall_mem_map.2 fun entry _ => ofKey_ne_nil entry.1

theorem Order.forall_path_arrangeOverrides (order : Order)
    {overrides : List (SettingPath × Setting)} {P : SettingPath → Prop}
    (h : ∀ entry ∈ overrides, P entry.1) :
    ∀ entry ∈ order.arrangeOverrides overrides, P entry.1 :=
  List.forall_mem_map.2 fun entry hentry => h entry ((order.overrides_perm _).mem_iff.1 hentry)

theorem changesAt_ofEntries_arrangeEntries (order : Order) (layer : Layer) (keys : List String)
    (entries : Entries Setting) :
    (changesAt (SettingPath.ofEntries (order.arrangeEntries layer keys entries))).Perm
      (changesAt (SettingPath.ofEntries entries)) := by
  have hchanges (es : Entries Setting) : changesAt (SettingPath.ofEntries es) =
      es.flatMap fun entry => (SettingPath.ofKey entry.1).changes entry.2 := by
    rw [changesAt, SettingPath.ofEntries, List.flatMap_map]
  rw [hchanges, hchanges]
  refine (Order.arrangeEntries_perm.flatMap_right _).trans ?_
  rw [Order.arrangeEach_eq_map, List.flatMap_map]
  exact .flatMap_left _ fun entry _ => SettingPath.changes_arrange order layer _ entry.2 _

theorem changesAt_arrangeOverrides (order : Order) (overrides : List (SettingPath × Setting)) :
    (changesAt (order.arrangeOverrides overrides)).Perm (changesAt overrides) := by
  refine .trans ?_ ((order.overrides_perm overrides).flatMap_right _)
  rw [changesAt, Order.arrangeOverrides, List.flatMap_map]
  exact .flatMap_left _ fun entry _ => SettingPath.changes_arrange order _ [] entry.2 entry.1

/-! ### Settings loaded in another order -/

/-- The places that the keys of a file set are apart, if the file can be read. -/
def SettingsFile.KeysApart (f : SettingsFile) (files : Files) : Prop :=
  ∀ found ∈ files.find? f.path, ∀ entries ∈ (Toml.parse found.2).toOption,
    (placesAt (SettingPath.ofEntries (entriesOfToml found.1 entries))).Pairwise Apart

instance (f : SettingsFile) (files : Files) : Decidable (f.KeysApart files) :=
  inferInstanceAs (Decidable (∀ found ∈ files.find? f.path,
    ∀ entries ∈ (Toml.parse found.2).toOption,
      (placesAt (SettingPath.ofEntries (entriesOfToml found.1 entries))).Pairwise Apart))

namespace Loader

variable {values others : List (SettingPath × Setting)} {s t : Setting} {l : Loader} {files : Files}

/-- Values with the changes of others, of places apart, come to what these come to. -/
theorem at?_setAll_congr (hvalues : ∀ entry ∈ values, entry.1 ≠ [])
    (hothers : ∀ entry ∈ others, entry.1 ≠ [])
    (hperm : (changesAt others).Perm (changesAt values))
    (hapart : (placesAt values).Pairwise Apart) (h : t.at? = s.at?) :
    (setAll others t).at? = (setAll values s).at? := by
  funext names
  rw [at?_setAll hothers, at?_setAll hvalues, congrFun h names]
  rw [← map_place_changesAt] at hapart
  exact Change.actAll_perm hperm hapart

theorem mergeFile_order {f : SettingsFile × Nat} (hapart : f.1.KeysApart files)
    (order order' : Order) (h : t.at? = s.at?) :
    (mergeFile order' files t f).map at? = (mergeFile order files s f).map at? := by
  unfold mergeFile
  cases hfind : files.find? f.1.path with
  | none =>
    dsimp only
    split
    · rfl
    · exact congrArg Except.ok h
  | some found =>
    obtain ⟨path, content⟩ := found
    dsimp only
    cases hparse : Toml.parse content with
    | error position => rfl
    | ok entries =>
      -- each order comes to what the entries come to as they are written
      have hwritten (order : Order) {t : Setting} (h : t.at? = s.at?) :
          (setAll (SettingPath.ofEntries (order.arrangeEntries (.file f.2) []
              (entriesOfToml path entries))) t).at? =
            (setAll (SettingPath.ofEntries (entriesOfToml path entries)) s).at? :=
        at?_setAll_congr SettingPath.ne_nil_of_mem_ofEntries SettingPath.ne_nil_of_mem_ofEntries
          (changesAt_ofEntries_arrangeEntries order _ [] _)
          (hapart (path, content) hfind entries (congrArg Except.toOption hparse)) h
      exact congrArg Except.ok ((hwritten order' h).trans (hwritten order rfl).symm)

theorem foldlM_mergeFile_order {fs : List (SettingsFile × Nat)}
    (hapart : ∀ f ∈ fs, f.1.KeysApart files) (order order' : Order) (h : t.at? = s.at?) :
    (fs.foldlM (mergeFile order' files) t).map at? =
      (fs.foldlM (mergeFile order files) s).map at? := by
  induction fs generalizing s t with
  | nil => exact congrArg Except.ok h
  | cons f rest ih =>
    rw [List.forall_mem_cons] at hapart
    rw [List.foldlM_cons, List.foldlM_cons]
    rcases cases_of_map_eq (mergeFile_order hapart.1 order order' h) with
      ⟨cause, ht, hs⟩ | ⟨t', s', ht, hs, hsame⟩
    · rw [ht, hs]
      rfl
    · rw [ht, hs]
      exact ih hapart.2 hsame

/-- A run with another order loads the same settings, or fails with the same error, where no two
places are one or on the way to each other. -/
theorem load_order (hfiles : ∀ f ∈ l.files, f.KeysApart files)
    (hpaths : ∀ entry ∈ l.overrides, entry.1 ≠ [])
    (hoverrides : (placesAt l.overrides).Pairwise Apart) (order order' : Order) :
    l.load order' files = l.load order files := by
  have hapart : ∀ f ∈ l.files.zipIdx, f.1.KeysApart files := fun f hf =>
    hfiles f.1 (List.fst_mem_of_mem_zipIdx hf)
  have hwritten (order : Order) {s t : Setting} (h : t.at? = s.at?) :
      (l.mergeOverrides order t).at? = (setAll l.overrides s).at? :=
    at?_setAll_congr hpaths (order.forall_path_arrangeOverrides (P := (· ≠ [])) hpaths)
      (changesAt_arrangeOverrides order l.overrides) hoverrides h
  unfold load merge
  rcases cases_of_map_eq (foldlM_mergeFile_order hapart order order' rfl) with
    ⟨cause, ht, hs⟩ | ⟨t, s, ht, hs, hsame⟩
  · rw [ht, hs]
    rfl
  · rw [ht, hs]
    exact Settings.read_of_at?_eq ((hwritten order' hsame).trans (hwritten order rfl).symm)

end Loader

/-! ### Overrides of fields -/

namespace Field

def place (f : Field) : List String :=
  [f.home.key, f.name]

theorem places_path (f : Field) (s : Scalar) (source : Option String) :
    f.path.places (.scalar s source) = [f.place] := by
  simp [path, place, SettingPath.places, Setting.places, f.isPlainKey_home.lowercase_eq,
    f.isPlainKey_name.lowercase_eq]

theorem apart_place {f g : Field} (h : f ≠ g) : Apart f.place g.place := by
  -- of two places as long as each other neither is on the way to the other
  have hplace : f.place ≠ g.place := by
    intro heq
    simp only [place, List.cons.injEq, and_true] at heq
    exact h (eq_of_place heq.1 heq.2)
  constructor
  · intro hfront
    exact hplace (hfront.eq_of_length rfl)
  · intro hfront
    exact hplace (hfront.eq_of_length rfl).symm

end Field

namespace Loader

variable {l : Loader} {files : Files} {o : Field → Option Scalar}

theorem Overrides.pairwise_placesAt (h : l.Overrides o) :
    (placesAt l.overrides).Pairwise Apart := by
  rw [placesAt, List.pairwise_flatMap]
  constructor
  · intro entry hentry
    obtain ⟨f, s, source, rfl, -⟩ := h.entries entry hentry
    simp only [Field.places_path, List.pairwise_singleton]
  · refine (List.pairwise_map.1 h.nodup).imp_of_mem fun {a b} ha hb hne => ?_
    obtain ⟨f, s, source, rfl, -⟩ := h.entries a ha
    obtain ⟨g, s', source', rfl, -⟩ := h.entries b hb
    have hfields : f ≠ g := fun heq => hne (congrArg Field.path heq)
    simpa only [Field.places_path, List.mem_singleton, forall_eq] using Field.apart_place hfields

/-- Over files whose keys are apart, with overrides of fields, no order tells runs apart. -/
theorem Overrides.load_order (h : l.Overrides o)
    (hfiles : ∀ f ∈ l.files, f.KeysApart files) (order order' : Order) :
    l.load order' files = l.load order files := by
  refine Loader.load_order hfiles (fun entry hentry => ?_) h.pairwise_placesAt order order'
  obtain ⟨f, s, source, rfl, -⟩ := h.entries entry hentry
  exact List.cons_ne_nil _ _

end Loader

end GeckScript
