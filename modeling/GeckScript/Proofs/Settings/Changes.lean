import GeckScript.Proofs.Settings.Places

/-!
Merging values in, as changes at the places that they set: a value where something may be already, a
value at the end of a path, and values at paths one after the other.
-/

namespace GeckScript

open Text

/-! ### The changes of a value -/

namespace Setting

mutual

/-- The places that merging a value in sets, seen from where it is merged in: those of the values in
a table, or else its own. -/
def places : Setting → List (List String)
  | table entries _ => if entries.isEmpty then [[]] else placesOfEach entries
  | _ => [[]]

def placesOfEach : List (String × Setting) → List (List String)
  | [] => []
  | (name, value) :: rest => value.places.map (lowercase name :: ·) ++ placesOfEach rest

end

mutual

/-- The changes that merging a value in comes to. A table without entries takes the place of nothing
that is there. -/
def changes : Setting → List Change
  | table entries _ =>
    if entries.isEmpty then [⟨[], fun old => old.getD (table [] none), true⟩]
    else changesOfEach entries
  | s => [⟨[], fun _ => s.face, false⟩]

def changesOfEach : List (String × Setting) → List Change
  | [] => []
  | (name, value) :: rest =>
    value.changes.map (Change.under (lowercase name)) ++ changesOfEach rest

end

end Setting

/-- A function of what is there, if anything is, makes changes. -/
def Performs (f : Option Setting → Setting) (changes : List Change) : Prop :=
  ∀ old names, (f old).at? names = Change.actAll changes names (old.bind fun s => s.at? names)

namespace Setting

variable {s t value : Setting} {name : String} {names : List String}
  {entries : List (String × Setting)} {changes : List Change}

theorem changes_ne_nil : (s : Setting) → s.changes ≠ []
  | scalar _ _ => List.cons_ne_nil _ _
  | list _ _ => List.cons_ne_nil _ _
  | table [] _ => List.cons_ne_nil _ _
  | table ((name, value) :: rest) _ => by
    simp [Setting.changes, changesOfEach, changes_ne_nil value]

theorem changesOfEach_eq_flatMap : changesOfEach entries =
    entries.flatMap fun (name, value) => value.changes.map (Change.under (lowercase name)) := by
  induction entries with
  | nil => rfl
  | cons entry rest ih => rw [changesOfEach, ih, List.flatMap_cons]

theorem changes_table_of_ne_nil {source : Option String} (h : entries ≠ []) :
    (table entries source).changes = changesOfEach entries := by
  cases entries with
  | nil => exact absurd rfl h
  | cons entry rest => rfl

/-- What is merged into a table under a name, or into what becomes a table, changes what is there
under the name. -/
theorem performs_withMember {f : Option Setting → Setting} (h : Performs f changes)
    (hchanges : changes ≠ []) (name : String) :
    Performs (fun old => (old.getD null).withMember name (f ((old.getD null).member? name)))
      (changes.map (Change.under (lowercase name))) := by
  intro old names
  cases names with
  | nil =>
    -- the changes further down make a table of what is here
    rw [at?_withMember_nil, Change.actAll_under_nil hchanges]
    cases old with
    | none => rfl
    | some s => rw [Option.getD_some, Option.bind_some, at?, Option.bind_some, tableSource_face]
  | cons other rest =>
    have hold : (old.getD null).at? (other :: rest) = old.bind fun s => s.at? (other :: rest) := by
      cases old <;> rfl
    -- under another name nothing changes
    rw [at?_withMember_cons, Change.actAll_under_cons, h, hold]
    by_cases hother : lowercase name = other
    · rw [if_pos hother, if_pos hother, ← hold, at?, member?, hother]
    · rw [if_neg hother, if_neg hother]

theorem performs_put (h : Performs value.mergedOnto value.changes) (name : String) :
    Performs (fun old => (old.getD null).put name value)
      (value.changes.map (Change.under (lowercase name))) := by
  simp only [put_eq]
  exact performs_withMember h value.changes_ne_nil name

theorem at?_put (h : Performs value.mergedOnto value.changes) (name : String) :
    (s.put name value).at? names =
      Change.actAll (value.changes.map (Change.under (lowercase name))) names (s.at? names) :=
  performs_put h name (some s) names

theorem at?_putAll (h : ∀ entry ∈ entries, Performs entry.2.mergedOnto entry.2.changes)
    (s : Setting) : (s.putAll entries).at? names =
      Change.actAll (changesOfEach entries) names (s.at? names) := by
  induction entries generalizing s with
  | nil => rw [putAll]; rfl
  | cons entry rest ih =>
    rw [List.forall_mem_cons] at h
    rw [putAll, ih h.2, at?_put h.1, changesOfEach, Change.actAll_append]

theorem put_empty : (table [] none).put name value = null.put name value := by
  rw [put_eq, put_eq]
  rfl

/-- A single change where a value is merged in. -/
theorem performs_single {f : Option Setting → Setting} {become : Option Setting → Setting}
    {keeps : Bool} (hface : ∀ old, (f old).face = become (old.map face))
    (hbelow : ∀ old name names, (f old).at? (name :: names) =
      if keeps then old.bind fun s => s.at? (name :: names) else none) :
    Performs f [⟨[], become, keeps⟩] := by
  intro old names
  cases names with
  | nil =>
    show some (f old).face = some (become (old.bind fun s => s.at? []))
    rw [hface]
    cases old <;> rfl
  | cons name names =>
    rw [hbelow, Change.actAll, List.foldl_cons, List.foldl_nil, Change.act,
      if_neg (List.cons_ne_nil _ _), if_pos List.nil_prefix]

mutual

theorem performs_mergedOnto : (value : Setting) → Performs value.mergedOnto value.changes
  | scalar _ _ => performs_single (fun _ => rfl) fun _ _ _ => rfl
  | list _ _ => performs_single (fun _ => rfl) fun _ _ _ => rfl
  | table [] _ => by
    refine performs_single (fun old => ?_) fun old name names => ?_
    · cases old <;> rfl
    · cases old <;> rfl
  | table ((name, value) :: rest) source => by
    intro old names
    -- the first entry makes a table, whatever was there, and the others are merged into it
    have hfirst : (table ((name, value) :: rest) source).mergedOnto old =
        ((old.getD null).put name value).putAll rest := by
      rw [mergedOnto, putAll]
      cases old with
      | none => rw [Option.getD_none, put_empty, Option.getD_none]
      | some s => rw [Option.getD_some, Option.getD_some]
    have hchanges : (table ((name, value) :: rest) source).changes =
        value.changes.map (Change.under (lowercase name)) ++ changesOfEach rest := by
      rw [Setting.changes, changesOfEach]
      rfl
    dsimp only
    rw [hfirst, hchanges, at?_putAll (performs_each rest), Change.actAll_append,
      performs_put (performs_mergedOnto value) name old names]

theorem performs_each : (entries : List (String × Setting)) →
    ∀ entry ∈ entries, Performs entry.2.mergedOnto entry.2.changes
  | [] => nofun
  | (_, value) :: rest => List.forall_mem_cons.2 ⟨performs_mergedOnto value, performs_each rest⟩

end

end Setting

/-! ### Paths -/

namespace SettingPath

open Setting

/-- The places that merging a value in at a path sets. What happens behind a position happens in
the list. -/
def places (value : Setting) : SettingPath → List (List String)
  | [] => value.places
  | .name n :: rest => (places value rest).map (lowercase n :: ·)
  | .item _ :: _ => [[]]

def changes (value : Setting) : SettingPath → List Change
  | [] => value.changes
  | .name n :: rest => (changes value rest).map (Change.under (lowercase n))
  | .item i :: rest =>
    [⟨[], fun old =>
      let s := old.getD null
      (list (changeItem i (set value rest) s.items) s.listSource).face, false⟩]

variable {value other s t : Setting} {path : SettingPath}

theorem changes_ne_nil (value : Setting) (path : SettingPath) : path.changes value ≠ [] := by
  induction path with
  | nil => exact value.changes_ne_nil
  | cons step rest ih =>
    cases step with
    | name n => simpa [changes] using ih
    | item i => exact List.cons_ne_nil _ _

theorem kind_put (s : Setting) (name : String) (value : Setting) :
    (s.put name value).kind = table [] s.tableSource := by
  rw [put_eq]
  rfl

/-- What kind of setting there is behind a path depends on kinds alone. -/
theorem kind_set (hvalue : other.kind = value.kind) (hs : t.kind = s.kind) (path : SettingPath) :
    (path.set other t).kind = (path.set value s).kind := by
  have htable : t.tableSource = s.tableSource := by
    rw [← tableSource_kind, hs, tableSource_kind]
  have hlist : t.listSource = s.listSource := by
    rw [← listSource_kind, hs, listSource_kind]
  match path with
  | [] => exact hvalue
  | [.name n] => rw [set, set, kind_put, kind_put, htable]
  | .name n :: step :: rest =>
    show table [] t.tableSource = table [] s.tableSource
    rw [htable]
  | .item i :: rest =>
    show list [] t.listSource = list [] s.listSource
    rw [hlist]

theorem map_kind_modify {items items' : List Setting} {f g : Setting → Setting}
    (hitems : items'.map kind = items.map kind)
    (hchange : ∀ s t : Setting, t.kind = s.kind → (g t).kind = (f s).kind) (n : Nat) :
    (items'.modify n g).map kind = (items.modify n f).map kind := by
  induction items generalizing items' n with
  | nil =>
    rw [List.map_nil, List.map_eq_nil_iff] at hitems
    rw [hitems, List.modify_nil, List.modify_nil]
  | cons s rest ih =>
    cases items' with
    | nil => cases hitems
    | cons t rest' =>
      rw [List.map_cons, List.map_cons, List.cons.injEq] at hitems
      -- the item that changes is the first one or one of the rest
      cases n with
      | zero =>
        rw [List.modify_zero_cons, List.modify_zero_cons, List.map_cons, List.map_cons,
          hchange s t hitems.1, hitems.2]
      | succ n =>
        rw [List.modify_succ_cons, List.modify_succ_cons, List.map_cons, List.map_cons, hitems.1,
          ih hitems.2]

theorem map_kind_changeItem {items items' : List Setting} {f g : Setting → Setting}
    (hitems : items'.map kind = items.map kind)
    (hchange : ∀ s t : Setting, t.kind = s.kind → (g t).kind = (f s).kind) (i : Int) :
    (changeItem i g items').map kind = (changeItem i f items).map kind := by
  have hlength : items'.length = items.length := by
    simpa using congrArg List.length hitems
  unfold changeItem
  simp only [hlength]
  split
  · exact map_kind_modify (by simp only [List.map_append, hitems]) hchange _
  · exact map_kind_modify (by simp only [List.map_append, hitems]) hchange _

theorem performs_set (value : Setting) : (path : SettingPath) → path ≠ [] →
    Performs (fun old => path.set value (old.getD null)) (path.changes value)
  | [], h => absurd rfl h
  | [.name n], _ => performs_put (performs_mergedOnto value) n
  | .name n :: step :: rest, _ => by
    have hrest := performs_set value (step :: rest) (List.cons_ne_nil _ _)
    exact performs_withMember hrest (changes_ne_nil value _) n
  | .item i :: rest, _ => by
    refine performs_single (fun old => ?_) fun old name names => rfl
    have hitems : ((old.map face).getD null).items.map kind = (old.getD null).items.map kind := by
      cases old with
      | none => rfl
      | some s =>
        rw [Option.map_some, Option.getD_some, Option.getD_some, items_face, List.map_map]
        exact List.map_congr_left fun item _ => item.kind_kind
    have hsource : ((old.map face).getD null).listSource = (old.getD null).listSource := by
      cases old with
      | none => rfl
      | some s => exact listSource_face s
    show list _ _ = list _ _
    rw [hsource, map_kind_changeItem hitems.symm fun s t hst => kind_set rfl hst rest]

end SettingPath

/-! ### Values at paths, one after the other -/

theorem Setting.at?_set (value : Setting) {path : SettingPath} (h : path ≠ []) (root : Setting)
    (names : List String) : (path.set value root).at? names =
      Change.actAll (path.changes value) names (root.at? names) :=
  SettingPath.performs_set value path h (some root) names

def changesAt (values : List (SettingPath × Setting)) : List Change :=
  values.flatMap fun (path, value) => path.changes value

def placesAt (values : List (SettingPath × Setting)) : List (List String) :=
  values.flatMap fun (path, value) => path.places value

theorem Loader.at?_setAll {values : List (SettingPath × Setting)}
    (h : ∀ entry ∈ values, entry.1 ≠ []) (root : Setting) (names : List String) :
    (setAll values root).at? names =
      Change.actAll (changesAt values) names (root.at? names) := by
  induction values generalizing root with
  | nil => rfl
  | cons entry rest ih =>
    obtain ⟨path, value⟩ := entry
    rw [List.forall_mem_cons] at h
    have hrest : setAll ((path, value) :: rest) root = setAll rest (path.set value root) := rfl
    rw [hrest, ih h.2, Setting.at?_set value h.1, ← Change.actAll_append]
    rfl

mutual

theorem Setting.map_place_changes : (s : Setting) → s.changes.map Change.place = s.places
  | .scalar _ _ => rfl
  | .list _ _ => rfl
  | .table [] _ => rfl
  | .table (entry :: rest) _ => by
    show (changesOfEach (entry :: rest)).map Change.place = placesOfEach (entry :: rest)
    exact map_place_changesOfEach (entry :: rest)

theorem Setting.map_place_changesOfEach : (entries : List (String × Setting)) →
    (changesOfEach entries).map Change.place = placesOfEach entries
  | [] => rfl
  | (name, value) :: rest => by
    rw [changesOfEach, placesOfEach, List.map_append, map_place_changesOfEach rest,
      ← map_place_changes value, List.map_map, List.map_map]
    rfl

end

theorem SettingPath.map_place_changes (value : Setting) (path : SettingPath) :
    (path.changes value).map Change.place = path.places value := by
  induction path with
  | nil => exact value.map_place_changes
  | cons step rest ih =>
    cases step with
    | name n =>
      rw [changes, places, ← ih, List.map_map, List.map_map]
      rfl
    | item i => rfl

theorem map_place_changesAt (values : List (SettingPath × Setting)) :
    (changesAt values).map Change.place = placesAt values := by
  rw [changesAt, placesAt, List.map_flatMap]
  simp only [SettingPath.map_place_changes]

end GeckScript
