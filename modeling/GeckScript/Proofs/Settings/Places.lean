import GeckScript.Proofs.Settings.Merging
import GeckScript.Proofs.Settings.Order
import Mathlib.Data.List.Pairwise

/-!
The places of settings, told by the names that lead to them. Settings are read off what is seen at
their places. Merging a value in at a path changes what is seen at the places that it sets, makes
tables of what is above them, and clears what is below. So values can be merged in in any order if
none of their places is another one of them or on the way to one.
-/

namespace GeckScript

open Text

namespace Setting

/-! ### What is seen of settings -/

/-- A value without what is inside of it. -/
def kind : Setting → Setting
  | scalar value source => scalar value source
  | list _ source => list [] source
  | table _ source => table [] source

/-- What a reader sees of a value by itself: of a list also what its items are. -/
def face : Setting → Setting
  | list items source => list (items.map kind) source
  | s => s.kind

/-- What is seen at the end of names. -/
def at? : Setting → List String → Option Setting
  | s, [] => some s.face
  | s, name :: rest => (s.entries.get? name).bind fun inner => inner.at? rest

variable {s t target value : Setting} {name : String} {names : List String}

@[simp]
theorem kind_kind (s : Setting) : s.kind.kind = s.kind := by
  cases s <;> rfl

theorem tableSource_kind (s : Setting) : s.kind.tableSource = s.tableSource := by
  cases s <;> rfl

theorem listSource_kind (s : Setting) : s.kind.listSource = s.listSource := by
  cases s <;> rfl

theorem tableSource_face (s : Setting) : s.face.tableSource = s.tableSource := by
  cases s <;> rfl

theorem listSource_face (s : Setting) : s.face.listSource = s.listSource := by
  cases s <;> rfl

theorem items_face (s : Setting) : s.face.items = s.items.map kind := by
  cases s <;> rfl

theorem at?_withMember_nil :
    (target.withMember name value).at? [] = some (table [] target.tableSource) := rfl

theorem at?_withMember_cons {other : String} : (target.withMember name value).at? (other :: names) =
    if lowercase name = other then value.at? names else target.at? (other :: names) := by
  have hget : (target.withMember name value).entries.get? other =
      if lowercase name = other then some value else target.entries.get? other :=
    Entries.get?_set _ _ _ _
  rw [at?, hget]
  split
  · rfl
  · rw [at?]

end Setting

/-! ### What is read of settings -/

namespace Setting

variable {s t : Setting}

theorem face_eq_of_at?_eq (h : t.at? = s.at?) : t.face = s.face :=
  Option.some.inj (congrFun h [])

/-- Settings of which the same is seen have entries of which the same is seen. -/
theorem map_at?_get? (h : t.at? = s.at?) (name : String) :
    (t.entries.get? name).map at? = (s.entries.get? name).map at? := by
  have hat (names : List String) := congrFun h (name :: names)
  simp only [at?] at hat
  cases ht : t.entries.get? name with
  | none =>
    cases hs : s.entries.get? name with
    | none => rfl
    | some inner => simpa [ht, hs, at?] using hat []
  | some inner =>
    cases hs : s.entries.get? name with
    | none => simpa [ht, hs, at?] using hat []
    | some inner' =>
      simp only [ht, hs, Option.bind_some] at hat
      exact congrArg some (funext hat)

theorem exists_items_of_face {items : List Setting} {source : Option String}
    (h : t.face = (list items source).face) :
    ∃ items', t = list items' source ∧ items'.map kind = items.map kind := by
  cases t with
  | list items' source' =>
    rw [face, face, list.injEq] at h
    exact ⟨items', congrArg (list items') h.2, h.1⟩
  | scalar _ _ => nomatch h
  | table _ _ => nomatch h

theorem kind_face (s : Setting) : s.face.kind = s.kind := by
  cases s <;> rfl

theorem kind_eq_of_at?_eq (h : t.at? = s.at?) : t.kind = s.kind := by
  rw [← kind_face, face_eq_of_at?_eq h, kind_face]

theorem map_kind_get? (h : t.at? = s.at?) (name : String) :
    (t.entries.get? name).map kind = (s.entries.get? name).map kind := by
  have hget := map_at?_get? h name
  cases ht : t.entries.get? name <;> cases hs : s.entries.get? name <;> rw [ht, hs] at hget
  · cases hget
  · cases hget
  · exact congrArg some (kind_eq_of_at?_eq (Option.some.inj hget))

theorem toSwitch_kind (key : String) (s : Setting) : s.kind.toSwitch key = s.toSwitch key := by
  cases s <;> rfl

theorem toText_kind (key : String) (s : Setting) : s.kind.toText key = s.toText key := by
  cases s <;> rfl

end Setting

namespace Section

open Setting

variable {sec : Section} {s t : Setting} {name : String} {α : Type}
  {as : String → Setting → Except SettingsError α}

theorem field?_of_not_list (hlist : ∀ items source, s ≠ list items source) (name : String) :
    sec.field? s name = (s.entries.get? name).map fun value => (s!"{sec.key}.{name}", value) := by
  cases s with
  | list items source => exact absurd rfl (hlist items source)
  | scalar _ _ => rfl
  | table _ _ => rfl

theorem map_kind_map (found : Option Setting) (key : String) :
    (found.map fun value => (key, value)).map (Prod.map id kind) =
      (found.map kind).map fun value => (key, value) := by
  rw [Option.map_map, Option.map_map]
  rfl

theorem map_kind_field? (h : t.at? = s.at?) (name : String) :
    (sec.field? t name).map (Prod.map id kind) = (sec.field? s name).map (Prod.map id kind) := by
  have hface := face_eq_of_at?_eq h
  by_cases hlist : ∃ items source, s = list items source
  · obtain ⟨items, source, rfl⟩ := hlist
    obtain ⟨items', rfl, hkinds⟩ := exists_items_of_face hface
    have hitem := congrArg (fun kinds => kinds[sec.fields.idxOf name]?) hkinds
    simp only [List.getElem?_map] at hitem
    rw [field?, field?, map_kind_map, map_kind_map, hitem]
  · have hs (items : List Setting) (source : Option String) : s ≠ list items source :=
      fun heq => hlist ⟨items, source, heq⟩
    have ht (items : List Setting) (source : Option String) : t ≠ list items source := by
      rintro rfl
      obtain ⟨items', heq, -⟩ := exists_items_of_face hface.symm
      exact hs _ _ heq
    rw [field?_of_not_list hs, field?_of_not_list ht, map_kind_map, map_kind_map,
      map_kind_get? h]

theorem read_eq (has : ∀ key s, as key (kind s) = as key s) : sec.read s as name =
    match (sec.field? s name).map (Prod.map id kind) with
    | none => .ok none
    | some (key, value) => (as key value).map some := by
  rw [read]
  cases sec.field? s name with
  | none => rfl
  | some found => exact congrArg (Except.map some) (has found.1 found.2).symm

theorem read_of_at?_eq (has : ∀ key s, as key (kind s) = as key s) (h : t.at? = s.at?) :
    sec.read t as name = sec.read s as name := by
  rw [read_eq has, read_eq has, map_kind_field? h]

theorem absent_face (s : Setting) (name : String) :
    sec.absent s.face name = sec.absent s name := by
  cases s with
  | list items source => rw [face, absent, absent, List.length_map]
  | scalar _ _ => rfl
  | table _ _ => rfl

theorem absent_of_at?_eq (h : t.at? = s.at?) : sec.absent t name = sec.absent s name := by
  rw [← absent_face, face_eq_of_at?_eq h, absent_face]

/-- The section that is found, if it can be one. -/
theorem body_eq (root : Setting) : sec.body root =
    match root.entries.get? sec.key with
    | none => .error (.missingField sec.key)
    | some s =>
      match s.face with
      | .scalar value _ => .error (.wrongShape value.describe sec.title)
      | _ => .ok s := by
  rw [body]
  cases root.entries.get? sec.key with
  | none => rfl
  | some s => cases s <;> rfl

theorem body_of_at?_eq (h : t.at? = s.at?) : (sec.body t).map at? = (sec.body s).map at? := by
  have hget := map_at?_get? h sec.key
  rw [body_eq, body_eq]
  cases ht : t.entries.get? sec.key <;> cases hs : s.entries.get? sec.key <;> rw [ht, hs] at hget
  · cases hget
  · cases hget
  · have hinner := Option.some.inj hget
    dsimp only
    rw [face_eq_of_at?_eq hinner]
    split
    · rfl
    · exact congrArg Except.ok hinner

end Section

namespace Settings

open Setting

variable {s t : Setting}

theorem readHighlight_of_at?_eq (h : t.at? = s.at?) : readHighlight t = readHighlight s := by
  unfold readHighlight
  rcases cases_of_map_eq (highlightSection.body_of_at?_eq h) with
    ⟨cause, ht, hs⟩ | ⟨sec, sec', ht, hs, hsame⟩
  · rw [ht, hs]
  · rw [ht, hs]
    simp only [bind, Except.bind, Section.read_of_at?_eq toSwitch_kind hsame, Section.require,
      Section.absent_of_at?_eq hsame]

theorem readDocs_of_at?_eq (h : t.at? = s.at?) : readDocs t = readDocs s := by
  unfold readDocs
  rcases cases_of_map_eq (docsSection.body_of_at?_eq h) with
    ⟨cause, ht, hs⟩ | ⟨sec, sec', ht, hs, hsame⟩
  · rw [ht, hs]
  · rw [ht, hs]
    simp only [bind, Except.bind, Section.read_of_at?_eq toText_kind hsame, Section.require,
      Section.absent_of_at?_eq hsame]

theorem read_of_at?_eq (h : t.at? = s.at?) : read t = read s := by
  rw [read, read, readHighlight_of_at?_eq h, readDocs_of_at?_eq h]

end Settings

/-! ### Changes -/

/-- What merging a value in does at one place. -/
structure Change where
  place : List String
  /-- What is seen at the place then, by what was seen there. -/
  become : Option Setting → Setting
  /-- Whether what is below the place stays. -/
  keeps : Bool

/-- Neither place is the other one or on the way to it. -/
def Apart (p q : List String) : Prop :=
  ¬p <+: q ∧ ¬q <+: p

instance : DecidableRel Apart := fun p q =>
  inferInstanceAs (Decidable (¬p <+: q ∧ ¬q <+: p))

namespace Change

open Setting

/-- What is seen at the end of names after a change, by what was seen there. -/
def act (c : Change) (names : List String) (old : Option Setting) : Option Setting :=
  if names = c.place then some (c.become old)
  else if c.place <+: names then if c.keeps then old else none
  else if names <+: c.place then some (table [] (old.bind tableSource))
  else old

def actAll (changes : List Change) (names : List String) (old : Option Setting) :
    Option Setting :=
  changes.foldl (fun old c => c.act names old) old

def under (name : String) (c : Change) : Change :=
  { c with place := name :: c.place }

variable {c d : Change} {changes others : List Change} {name other : String} {names : List String}
  {old : Option Setting}

theorem act_of_not_above (h : ¬c.place <+: names) : c.act names old =
    if names <+: c.place then some (table [] (old.bind tableSource)) else old := by
  have hne : names ≠ c.place := by
    rintro rfl
    exact h List.prefix_rfl
  rw [act, if_neg hne, if_neg h]

theorem act_of_apart (h : Apart c.place names) : c.act names old = old := by
  rw [act_of_not_above h.1, if_neg h.2]

theorem actAll_append : actAll (changes ++ others) names old =
    actAll others names (actAll changes names old) :=
  List.foldl_append

theorem act_under_nil : (c.under name).act [] old = some (table [] (old.bind tableSource)) := by
  rw [act_of_not_above (by simp [under]), if_pos List.nil_prefix]

theorem act_under_cons : (c.under name).act (other :: names) old =
    if name = other then c.act names old else old := by
  by_cases h : name = other
  · subst h
    simp only [act, under, List.cons.injEq, List.cons_prefix_cons, true_and, if_pos]
    congr
  · rw [if_neg h]
    refine act_of_apart ⟨?_, ?_⟩
    · simp [under, List.cons_prefix_cons, h]
    · simp [under, List.cons_prefix_cons, Ne.symm h]

theorem actAll_under_nil (h : changes ≠ []) :
    actAll (changes.map (under name)) [] old = some (table [] (old.bind tableSource)) := by
  induction changes generalizing old with
  | nil => exact absurd rfl h
  | cons c rest ih =>
    rw [List.map_cons, actAll, List.foldl_cons, act_under_nil]
    cases rest with
    | nil => rfl
    | cons d rest => exact ih (List.cons_ne_nil d rest)

theorem actAll_under_cons : actAll (changes.map (under name)) (other :: names) old =
    if name = other then actAll changes names old else old := by
  induction changes generalizing old with
  | nil => exact (ite_self old).symm
  | cons c rest ih =>
    rw [List.map_cons, actAll, List.foldl_cons, ← actAll, ih, act_under_cons]
    split <;> rfl

/-- Changes at places apart can be made in either order. -/
theorem act_comm (h : Apart c.place d.place) :
    c.act names (d.act names old) = d.act names (c.act names old) := by
  by_cases hc : c.place <+: names
  · -- what is at one place or below it is apart from the other one
    have hd : Apart d.place names := by
      refine ⟨fun hd => ?_, fun hd => h.1 (hc.trans hd)⟩
      exact (List.prefix_or_prefix_of_prefix hc hd).elim h.1 h.2
    rw [act_of_apart hd, act_of_apart hd]
  by_cases hd : d.place <+: names
  · have hc : Apart c.place names := ⟨hc, fun hc => h.2 (hd.trans hc)⟩
    rw [act_of_apart hc, act_of_apart hc]
  · -- above both of them a table stays the table that it has become
    rw [act_of_not_above hc, act_of_not_above hd, act_of_not_above hc, act_of_not_above hd]
    by_cases hcn : names <+: c.place <;> by_cases hdn : names <+: d.place <;> simp [hcn, hdn]

theorem actAll_perm (hperm : others.Perm changes) (h : (changes.map place).Pairwise Apart) :
    actAll others names old = actAll changes names old := by
  have hsymm : Std.Symm fun c d : Change => Apart c.place d.place := ⟨fun _ _ hcd => hcd.symm⟩
  refine (hperm.symm.foldl_eq' (fun c hc d hd old => ?_) old).symm
  by_cases heq : c = d
  · rw [heq]
  · exact act_comm ((List.pairwise_map.1 h).forall hd hc (Ne.symm heq))

end Change

end GeckScript
