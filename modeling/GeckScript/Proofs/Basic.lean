import GeckScript.Entries

/-!
Lemmas that the rest builds on: when steps that can fail succeed, and pairs of keys and values in
which no key comes twice, which setting the value of a key keeps so.
-/

namespace GeckScript

variable {ε δ α β : Type}

theorem bind_eq_ok_iff {x : Except ε α} {f : α → Except ε β} {b : β} :
    (x >>= f) = .ok b ↔ ∃ a, x = .ok a ∧ f a = .ok b := by
  cases x with
  | error cause => simp [bind, Except.bind]
  | ok a => simp [bind, Except.bind]

theorem mapError_eq_ok_iff {x : Except ε α} {f : ε → δ} {a : α} :
    x.mapError f = .ok a ↔ x = .ok a := by
  cases x with
  | error cause => exact ⟨nofun, nofun⟩
  | ok b =>
    constructor
    · rintro ⟨⟩
      rfl
    · rintro ⟨⟩
      rfl

/-- Results that look alike through a function are the same error, or values that look alike. -/
theorem cases_of_map_eq {x y : Except ε α} {f : α → β} (h : x.map f = y.map f) :
    (∃ cause, x = .error cause ∧ y = .error cause) ∨ ∃ a b, x = .ok a ∧ y = .ok b ∧ f a = f b := by
  cases x with
  | error cause =>
    cases y with
    | error other => exact .inl ⟨cause, rfl, congrArg _ (Except.error.inj h).symm⟩
    | ok b => cases h
  | ok a =>
    cases y with
    | error other => cases h
    | ok b => exact .inr ⟨a, b, rfl, rfl, Except.ok.inj h⟩

section Pairs

variable {κ α : Type} [DecidableEq κ] {key : κ} {value : α} {pairs : List (κ × α)}

theorem mem_map_fst_assign {other : κ} :
    other ∈ (assign key value pairs).map Prod.fst ↔ other = key ∨ other ∈ pairs.map Prod.fst := by
  induction pairs with
  | nil => simp [assign]
  | cons pair rest ih =>
    obtain ⟨k, v⟩ := pair
    by_cases hk : k = key
    · subst hk
      simp [assign]
    · simp only [assign, if_neg hk, List.map_cons, List.mem_cons, ih]
      exact or_left_comm

theorem nodup_assign (h : (pairs.map Prod.fst).Nodup) :
    ((assign key value pairs).map Prod.fst).Nodup := by
  induction pairs with
  | nil => simp [assign]
  | cons pair rest ih =>
    obtain ⟨k, v⟩ := pair
    rw [List.map_cons, List.nodup_cons] at h
    by_cases hk : k = key
    · rw [assign, if_pos hk]
      exact List.nodup_cons.2 (hk ▸ h)
    · rw [assign, if_neg hk, List.map_cons, List.nodup_cons, mem_map_fst_assign]
      exact ⟨not_or.2 ⟨hk, h.1⟩, ih h.2⟩

/-- A key that is set keeps no other value. -/
theorem eq_or_mem_of_mem_assign (h : (pairs.map Prod.fst).Nodup) {pair : κ × α}
    (hpair : pair ∈ assign key value pairs) :
    pair = (key, value) ∨ pair.1 ≠ key ∧ pair ∈ pairs := by
  induction pairs with
  | nil => exact .inl (List.mem_singleton.1 hpair)
  | cons first rest ih =>
    obtain ⟨k, v⟩ := first
    rw [List.map_cons, List.nodup_cons] at h
    by_cases hk : k = key
    · rw [assign, if_pos hk, List.mem_cons] at hpair
      rcases hpair with rfl | hrest
      · exact .inl rfl
      · -- another pair with the key would have it twice
        refine .inr ⟨fun heq => h.1 ?_, List.mem_cons_of_mem _ hrest⟩
        rw [hk, ← heq]
        exact List.mem_map.2 ⟨pair, hrest, rfl⟩
    · rw [assign, if_neg hk, List.mem_cons] at hpair
      rcases hpair with rfl | hrest
      · exact .inr ⟨hk, List.mem_cons_self⟩
      · exact (ih h.2 hrest).imp_right fun hin => ⟨hin.1, List.mem_cons_of_mem _ hin.2⟩

end Pairs

namespace Entries

variable {α : Type}

/-- No key comes twice, and all values have a property. -/
structure Keyed (P : α → Prop) (entries : Entries α) : Prop where
  nodup : (entries.map Prod.fst).Nodup
  values : ∀ entry ∈ entries, P entry.2

variable {P : α → Prop} {entries : Entries α} {key : String} {value : α}

theorem Keyed.nil : Keyed P [] :=
  ⟨List.nodup_nil, by simp⟩

theorem mem_of_get? (h : entries.get? key = some value) : (key, value) ∈ entries := by
  obtain ⟨⟨k, v⟩, hfind, rfl⟩ := Option.map_eq_some_iff.1 h
  have hkey := List.find?_some hfind
  rw [beq_iff_eq] at hkey
  subst hkey
  exact List.mem_of_find?_eq_some hfind

theorem get?_eq_none_of_not_mem (h : key ∉ entries.map Prod.fst) : entries.get? key = none := by
  cases hget : entries.get? key with
  | none => rfl
  | some value => exact absurd (List.mem_map_of_mem (mem_of_get? hget)) h

theorem get?_eq_some_iff (h : (entries.map Prod.fst).Nodup) :
    entries.get? key = some value ↔ (key, value) ∈ entries := by
  refine ⟨mem_of_get?, fun hmem => ?_⟩
  induction entries with
  | nil => cases hmem
  | cons entry rest ih =>
    obtain ⟨k, v⟩ := entry
    rw [List.map_cons, List.nodup_cons] at h
    rw [get?_cons]
    rcases List.mem_cons.1 hmem with heq | hrest
    · cases heq
      rw [if_pos rfl]
    · -- the key is not that of the first entry, which it would repeat
      have hne : k ≠ key := by
        rintro rfl
        exact h.1 (List.mem_map.2 ⟨(k, value), hrest, rfl⟩)
      rw [if_neg hne]
      exact ih h.2 hrest

/-- Where no key comes twice the order does not matter. -/
theorem get?_perm {others : Entries α} (hperm : others.Perm entries)
    (h : (entries.map Prod.fst).Nodup) : others.get? key = entries.get? key := by
  have hothers : (others.map Prod.fst).Nodup := (hperm.map Prod.fst).nodup_iff.2 h
  apply Option.ext
  intro value
  rw [get?_eq_some_iff hothers, get?_eq_some_iff h, hperm.mem_iff]

theorem Keyed.of_get? (h : Keyed P entries) (hget : entries.get? key = some value) : P value :=
  h.values _ (mem_of_get? hget)

theorem Keyed.set (h : Keyed P entries) (key : String) (hvalue : P value) :
    Keyed P (entries.set key value) := by
  refine ⟨nodup_assign h.nodup, fun entry hentry => ?_⟩
  rcases eq_or_mem_of_mem_assign h.nodup hentry with rfl | ⟨-, hold⟩
  · exact hvalue
  · exact h.values entry hold

end Entries

end GeckScript
