import GeckScript.Proofs.Basic
import GeckScript.Proofs.Text.Word
import GeckScript.Settings.Loader
import Mathlib.Data.List.TakeWhile

/-!
What merging settings does to the fields of their sections. A plain key names the same setting in a
file and in the settings, so each entry of a file lands where it is looked up, and an entry that is
not in a file stays as it was.
-/

namespace GeckScript

open Text

/-! ### Plain keys -/

def isPlainKeyChar (c : Char) : Bool :=
  Toml.isBareKeyChar c && !c.isUpper

/-- A bare key of a document without capital letters. -/
def IsPlainKey (key : String) : Prop :=
  key ≠ "" ∧ key.toList.all isPlainKeyChar

instance : DecidablePred IsPlainKey := fun key =>
  inferInstanceAs (Decidable (key ≠ "" ∧ key.toList.all isPlainKeyChar))

theorem toNat_lt_of_isBareKeyChar {c : Char} (h : Toml.isBareKeyChar c) : c.toNat < 0x80 := by
  have hmem : c.isAlphanum || c ∈ ['-', '_'] := by
    simpa [Toml.isBareKeyChar, or_assoc] using h
  exact toNat_lt_of_isAlphanum_or_mem rfl hmem

theorem lowerChars_of_plain {chars : List Char} (h : ∀ c ∈ chars, isPlainKeyChar c)
    (before : List Char) : lowerChars before chars = chars := by
  have hlower {c : Char} (hc : c.toNat < 0x80) : isPlainKeyChar c → c.toLower = c :=
    of_toNat_lt (p := fun c => isPlainKeyChar c → c.toLower = c) (by decide +kernel) hc
  induction chars generalizing before with
  | nil => rfl
  | cons c rest ih =>
    rw [List.forall_mem_cons] at h
    have hc := toNat_lt_of_isBareKeyChar (Bool.and_eq_true_iff.1 h.1).1
    simp only [lowerChars, if_pos hc, hlower hc h.1, ih h.2, List.singleton_append]

namespace IsPlainKey

variable {key : String}

theorem lowercase_eq (h : IsPlainKey key) : lowercase key = key := by
  rw [lowercase, lowerChars_of_plain (List.all_eq_true.1 h.2), String.ofList_toList]

theorem path_eq (h : IsPlainKey key) : SettingPath.ofString? key = some [.name key] := by
  have hall : key.toList.takeWhile SettingPath.isNameChar = key.toList := by
    refine List.takeWhile_eq_self_iff.2 fun c hc => ?_
    have hbare := (Bool.and_eq_true_iff.1 (List.all_eq_true.1 h.2 c hc)).1
    simp only [Toml.isBareKeyChar, Bool.or_eq_true] at hbare
    simp only [SettingPath.isNameChar, Bool.or_eq_true]
    exact hbare.imp_left (Or.imp_left Or.inl)
  have hne : ¬key.toList.isEmpty := by
    simpa using h.1
  rw [SettingPath.ofString?]
  simp only [hall, if_neg hne, List.drop_length, String.ofList_toList, SettingPath.steps?]
  rfl

end IsPlainKey

/-! ### Merging entries in -/

namespace Setting

variable {target root value : Setting} {key other sec name : String}

/-- What is there once a value is merged in under a name where something may have been. -/
def mergedOnto (old : Option Setting) : Setting → Setting
  | table entries _ => putAll (old.getD (table [] none)) entries
  | value => value

theorem put_eq :
    target.put name value = target.withMember name (value.mergedOnto (target.member? name)) := by
  cases value with
  | table entries source => rw [put, mergedOnto]
  | scalar _ _ => rfl
  | list _ _ => rfl

theorem get?_put (hkey : lowercase key = key) :
    (target.put key value).entries.get? other =
      if key = other then some (value.mergedOnto (target.entries.get? key))
      else target.entries.get? other := by
  rw [put_eq, member?, withMember, hkey]
  exact Entries.get?_set _ _ _ _

theorem get?_putAll {entries : Entries Setting}
    (hkeys : ∀ entry ∈ entries, IsPlainKey entry.1)
    (hnodup : (entries.map Prod.fst).Nodup) :
    (putAll target entries).entries.get? key =
      ((entries.get? key).map (mergedOnto (target.entries.get? key))).or
        (target.entries.get? key) := by
  induction entries generalizing target with
  | nil => rw [putAll]; rfl
  | cons entry rest ih =>
    obtain ⟨k, v⟩ := entry
    rw [List.forall_mem_cons] at hkeys
    rw [List.map_cons, List.nodup_cons] at hnodup
    rw [putAll, ih hkeys.2 hnodup.2, get?_put hkeys.1.lowercase_eq, Entries.get?_cons]
    by_cases hk : k = key
    · -- no later entry has the key, so that this one stays
      subst hk
      simp [Entries.get?_eq_none_of_not_mem hnodup.1]
    · simp [hk]

/-! ### The fields of sections -/

def field? (root : Setting) (sec name : String) : Option Setting :=
  (root.entries.get? sec).bind fun s => s.entries.get? name

theorem exists_table_of_field? (h : root.field? sec name = some value) :
    ∃ entries source, root.entries.get? sec = some (table entries source) ∧
      Entries.get? entries name = some value := by
  obtain ⟨s, hget, hin⟩ := Option.bind_eq_some_iff.1 h
  cases s with
  | scalar _ _ => cases hin
  | list _ _ => cases hin
  | table entries source => exact ⟨entries, source, hget, hin⟩

theorem get?_set_section (hsec : lowercase sec = sec) :
    (SettingPath.set value [.name sec, .name name] root).entries.get? other =
      if sec = other then some (((root.entries.get? sec).getD null).put name value)
      else root.entries.get? other := by
  have hset : SettingPath.set value [.name sec, .name name] root =
      root.withMember sec (((root.member? sec).getD null).put name value) := rfl
  rw [hset, member?, withMember, hsec]
  exact Entries.get?_set _ _ _ _

theorem field?_set_section (root : Setting) (hsec : lowercase sec = sec)
    (hname : lowercase name = name) (s : Scalar) (source : Option String) (sec' name' : String) :
    (SettingPath.set (scalar s source) [.name sec, .name name] root).field? sec' name' =
      if sec = sec' ∧ name = name' then some (scalar s source) else root.field? sec' name' := by
  rw [field?, get?_set_section hsec]
  by_cases h : sec = sec'
  · subst h
    simp only [if_pos, Option.bind_some, get?_put hname, true_and, mergedOnto]
    congr 1
    cases hget : root.entries.get? sec with
    | none => rw [field?, hget]; rfl
    | some section' => rw [field?, hget]; rfl
  · simp only [h, if_false, false_and, field?]

theorem field?_putAll {entries : Entries Setting}
    (hkeys : ∀ entry ∈ entries, IsPlainKey entry.1)
    (hnodup : (entries.map Prod.fst).Nodup)
    (hsec : ∀ s, entries.get? sec = some s → ∃ inner source, s = table inner source ∧
      (∀ entry ∈ inner, IsPlainKey entry.1) ∧ (inner.map Prod.fst).Nodup)
    (hfield : ∀ s, (table entries none).field? sec name = some s →
      ∃ value source, s = scalar value source) :
    (putAll root entries).field? sec name =
      ((table entries none).field? sec name).or (root.field? sec name) := by
  have htop : (table entries none).field? sec name =
      (entries.get? sec).bind fun s => s.entries.get? name := rfl
  rw [htop] at hfield ⊢
  rw [field?, get?_putAll hkeys hnodup]
  cases hget : entries.get? sec with
  | none => rfl
  | some s =>
    obtain ⟨inner, source, rfl, hinner, hinnerNodup⟩ := hsec s hget
    -- what is not a table yet has no fields, like a section that is missing
    have hold : ((root.entries.get? sec).getD (table [] none)).entries.get? name =
        root.field? sec name := by
      rw [field?]
      cases root.entries.get? sec <;> rfl
    rw [hget] at hfield
    simp only [Option.map_some, Option.some_or, Option.bind_some, mergedOnto,
      get?_putAll hinner hinnerNodup, hold]
    change (Option.map _ (Entries.get? inner name)).or _ = (Entries.get? inner name).or _
    cases hvalue : Entries.get? inner name with
    | none => rfl
    | some v =>
      obtain ⟨value, source, rfl⟩ := hfield v hvalue
      rfl

end Setting

theorem Loader.setAll_of_plain {entries : Entries Setting}
    (hkeys : ∀ entry ∈ entries, IsPlainKey entry.1) (root : Setting) :
    setAll (SettingPath.ofEntries entries) root =
      root.putAll entries := by
  induction entries generalizing root with
  | nil => rw [Setting.putAll]; rfl
  | cons entry rest ih =>
    obtain ⟨key, value⟩ := entry
    rw [List.forall_mem_cons] at hkeys
    have hpath : SettingPath.ofKey key = [.name key] := by
      rw [SettingPath.ofKey, hkeys.1.path_eq, Option.getD_some]
    have hrest : setAll (SettingPath.ofEntries ((key, value) :: rest)) root =
        setAll (SettingPath.ofEntries rest) ((SettingPath.ofKey key).set value root) := rfl
    rw [hrest, hpath, ih hkeys.2, Setting.putAll]
    rfl

/-! ### The settings of a document -/

namespace Setting

variable {file key : String} {entries : Entries Toml.Value}

theorem entriesOfToml_eq_map :
    entriesOfToml file entries = entries.map fun entry => (entry.1, ofToml file entry.2) := by
  induction entries with
  | nil => rfl
  | cons entry rest ih => rw [entriesOfToml, ih, List.map_cons]

theorem get?_entriesOfToml :
    (entriesOfToml file entries).get? key = (entries.get? key).map (ofToml file) := by
  induction entries with
  | nil => rfl
  | cons entry rest ih =>
    rw [entriesOfToml, Entries.get?_cons, Entries.get?_cons, ih]
    split <;> rfl

theorem map_fst_entriesOfToml :
    (entriesOfToml file entries).map Prod.fst = entries.map Prod.fst := by
  rw [entriesOfToml_eq_map, List.map_map]
  rfl

theorem isPlainKey_of_mem_entriesOfToml (h : ∀ entry ∈ entries, IsPlainKey entry.1) :
    ∀ entry ∈ entriesOfToml file entries, IsPlainKey entry.1 := by
  rw [entriesOfToml_eq_map]
  exact List.forall_mem_map.2 h

end Setting

end GeckScript
