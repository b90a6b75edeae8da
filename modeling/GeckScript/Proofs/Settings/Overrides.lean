import GeckScript.Proofs.Settings.Fields
import GeckScript.Proofs.Settings.Order

/-!
The overrides of a loader. Of two overrides of a field the later one stays, and once the overrides
are merged in, the fields have the values of theirs and the rest of the settings is as it was.
-/

namespace GeckScript

/-- What comes last counts. -/
theorem findSome?_reverse_cons {α β : Type} (p : α → Option β) (a : α) (rest : List α) :
    (a :: rest).reverse.findSome? p = (rest.reverse.findSome? p).or (p a) := by
  rw [List.reverse_cons, List.findSome?_append, List.findSome?_singleton]

namespace Loader

variable {overrides : List (SettingPath × Setting)}

/-- The overrides of a loader are those of some fields, with values that fit them. -/
structure Overrides (l : Loader) (o : Field → Option Scalar) : Prop where
  nodup : (l.overrides.map Prod.fst).Nodup
  entries : ∀ entry ∈ l.overrides, ∃ f s source, entry = (f.path, .scalar s source) ∧
    f.Fits s ∧ o f = some s
  complete : ∀ f, (o f).isSome → f.path ∈ l.overrides.map Prod.fst

variable {l : Loader} {o : Field → Option Scalar}

theorem setOverride_key (f : Field) (value : Setting) : l.setOverride f.key value =
    .ok { l with overrides := assign f.path value l.overrides } := by
  rw [setOverride, f.ofString?_key]

theorem Overrides.assign (h : l.Overrides o) {f : Field} {s : Scalar} (hfits : f.Fits s)
    (source : Option String) :
    Overrides { l with overrides := assign f.path (.scalar s source) l.overrides }
      (Function.update o f (some s)) := by
  refine ⟨nodup_assign h.nodup, fun entry hentry => ?_, fun g hg => ?_⟩
  · -- of two overrides of one path the later one stays
    rcases eq_or_mem_of_mem_assign h.nodup hentry with rfl | ⟨hother, hold⟩
    · exact ⟨f, s, source, rfl, hfits, Function.update_self f _ o⟩
    · obtain ⟨g, t, origin, rfl, hg, ho⟩ := h.entries entry hold
      refine ⟨g, t, origin, rfl, hg, ?_⟩
      rw [Function.update_of_ne (fun heq => hother (congrArg Field.path heq)), ho]
  · rw [mem_map_fst_assign]
    by_cases hgf : g = f
    · exact .inl (congrArg Field.path hgf)
    · rw [Function.update_of_ne hgf] at hg
      exact .inr (h.complete g hg)

/-- The order of the overrides does not count. -/
theorem Overrides.arrange (h : l.Overrides o) (order : Order) :
    Overrides { l with overrides := order.arrangeOverrides l.overrides } o := by
  have hperm := order.overrides_perm l.overrides
  have hpaths : (order.arrangeOverrides l.overrides).map Prod.fst =
      (order.overrides l.overrides).map Prod.fst := by
    rw [Order.arrangeOverrides, List.map_map]
    rfl
  refine ⟨?_, ?_, fun f hf => ?_⟩
  · rw [hpaths]
    exact (hperm.map Prod.fst).nodup_iff.2 h.nodup
  · refine List.forall_mem_map.2 fun entry hentry => ?_
    obtain ⟨f, s, source, rfl, hvalue⟩ := h.entries entry (hperm.mem_iff.1 hentry)
    exact ⟨f, s, source, congrArg (Prod.mk f.path) (Order.arrange_scalar s source), hvalue⟩
  · rw [hpaths]
    exact (hperm.map Prod.fst).mem_iff.2 (h.complete f hf)

theorem field?_set (f : Field) (s : Scalar) (source : Option String) (root : Setting) (g : Field) :
    (f.path.set (.scalar s source) root).field? g.home.key g.name =
      if f = g then some (.scalar s source) else root.field? g.home.key g.name := by
  rw [Field.path, Setting.field?_set_section root f.isPlainKey_home.lowercase_eq
    f.isPlainKey_name.lowercase_eq]
  have hplace : (f.home.key = g.home.key ∧ f.name = g.name) ↔ f = g :=
    ⟨fun h => Field.eq_of_place h.1 h.2, fun h => h ▸ ⟨rfl, rfl⟩⟩
  simp only [hplace]

theorem field?_setAll (hentries : ∀ entry ∈ overrides, ∃ f s source,
      entry = (Field.path f, .scalar s source) ∧ f.Fits s ∧ o f = some s) (root : Setting)
    (f : Field) :
    (f.path ∉ overrides.map Prod.fst ∧
      (setAll overrides root).field? f.home.key f.name = root.field? f.home.key f.name) ∨
    ∃ s source, o f = some s ∧ f.Fits s ∧
      (setAll overrides root).field? f.home.key f.name = some (.scalar s source) := by
  -- the rest is merged in behind the first override, and only what it leaves alone shows the first
  induction overrides generalizing root with
  | nil => exact .inl ⟨List.not_mem_nil, rfl⟩
  | cons entry rest ih =>
    rw [List.forall_mem_cons] at hentries
    obtain ⟨⟨g, s, source, rfl, hfits, ho⟩, hrest⟩ := hentries
    rcases ih hrest (g.path.set (.scalar s source) root) with ⟨hnot, hfield⟩ | hset
    · rw [field?_set] at hfield
      by_cases hgf : g = f
      · subst hgf
        rw [if_pos rfl] at hfield
        exact .inr ⟨s, source, ho, hfits, hfield⟩
      · rw [if_neg hgf] at hfield
        refine .inl ⟨?_, hfield⟩
        rw [List.map_cons, List.mem_cons, not_or]
        exact ⟨fun hpath => hgf (Field.eq_of_path hpath).symm, hnot⟩
    · exact .inr hset

/-- A field that is overridden has the value of its override, and another one keeps its value. -/
theorem Overrides.field?_mergeOverrides (h : l.Overrides o) (order : Order) (root : Setting)
    (f : Field) :
    (o f = none ∧ (l.mergeOverrides order root).field? f.home.key f.name =
      root.field? f.home.key f.name) ∨
    ∃ s source, o f = some s ∧ f.Fits s ∧
      (l.mergeOverrides order root).field? f.home.key f.name =
        some (.scalar s source) := by
  have harranged := h.arrange order
  refine (Loader.field?_setAll harranged.entries root f).imp_left fun ⟨hnot, hfield⟩ => ⟨?_, hfield⟩
  exact Option.not_isSome_iff_eq_none.1 fun hsome => hnot (harranged.complete f hsome)

theorem get?_setAll {sec : String}
    (hentries : ∀ entry ∈ overrides, ∃ f value, entry = (Field.path f, value) ∧ f.home.key ≠ sec)
    (root : Setting) : (setAll overrides root).entries.get? sec = root.entries.get? sec := by
  induction overrides generalizing root with
  | nil => rfl
  | cons entry rest ih =>
    rw [List.forall_mem_cons] at hentries
    obtain ⟨⟨f, value, rfl, hother⟩, hrest⟩ := hentries
    refine (ih hrest _).trans ?_
    rw [Field.path, Setting.get?_set_section f.isPlainKey_home.lowercase_eq, if_neg hother]

theorem Overrides.get?_mergeOverrides (h : l.Overrides o) (order : Order) {sec : String}
    (hsec : ∀ f : Field, f.home.key = sec → o f = none) (root : Setting) :
    (l.mergeOverrides order root).entries.get? sec = root.entries.get? sec := by
  refine Loader.get?_setAll (fun entry hentry => ?_) root
  obtain ⟨f, s, source, rfl, -, ho⟩ := (h.arrange order).entries entry hentry
  exact ⟨f, _, rfl, fun hhome => by simp [hsec f hhome] at ho⟩

end Loader

end GeckScript
