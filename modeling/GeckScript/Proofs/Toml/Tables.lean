import GeckScript.Proofs.Basic
import GeckScript.Toml.Table

/-!
Tables in which no key comes twice, at any depth. Every change of a table at the end of a path keeps
them so, and so does taking their value in the end.
-/

namespace GeckScript.Toml

inductive Value.Keyed : Value → Prop
  | text (s : String) : Keyed (.text s)
  | integer (n : Int) : Keyed (.integer n)
  | float (x : Binary64) : Keyed (.float x)
  | boolean (b : Bool) : Keyed (.boolean b)
  | dateTime (t : DateTime) : Keyed (.dateTime t)
  | array {items : List Value} (each : ∀ v ∈ items, Keyed v) : Keyed (.array items)
  | table {entries : Entries Value} (nodup : (entries.map Prod.fst).Nodup)
      (each : ∀ entry ∈ entries, Keyed entry.2) : Keyed (.table entries)

theorem Value.Keyed.nodup_of_table {entries : Entries Value} (h : Keyed (.table entries)) :
    (entries.map Prod.fst).Nodup := by
  cases h with
  | table nodup _ => exact nodup

inductive Item.Keyed : Item → Prop
  | value {v : Value} (h : v.Keyed) : Keyed (.value v)
  | table {entries : Table} (made : Making) (nodup : (entries.map Prod.fst).Nodup)
      (each : ∀ entry ∈ entries, Keyed entry.2) : Keyed (.table made entries)
  | tables {each : List Table} (nodup : ∀ entries ∈ each, (entries.map Prod.fst).Nodup)
      (inner : ∀ entries ∈ each, ∀ entry ∈ entries, Keyed entry.2) : Keyed (.tables each)

abbrev Table.Keyed (t : Table) : Prop :=
  Entries.Keyed Item.Keyed t

theorem Item.Keyed.of_table {made : Making} {t : Table} (h : Item.Keyed (.table made t)) :
    t.Keyed := by
  cases h with
  | table _ nodup each => exact ⟨nodup, each⟩

theorem Table.Keyed.toItem {t : Table} (h : t.Keyed) (made : Making) :
    Item.Keyed (.table made t) :=
  .table made h.nodup h.values

theorem Item.keyed_tables_iff {each : List Table} :
    Item.Keyed (.tables each) ↔ ∀ t ∈ each, t.Keyed := by
  constructor
  · rintro (_ | _ | ⟨nodup, inner⟩) t ht
    exact ⟨nodup t ht, inner t ht⟩
  · intro h
    exact .tables (fun t ht => (h t ht).nodup) fun t ht => (h t ht).values

/-! ### The value of a table -/

theorem entriesToValues_eq_map (t : Table) :
    entriesToValues t = t.map fun entry => (entry.1, entry.2.toValue) := by
  induction t with
  | nil => rfl
  | cons entry rest ih => rw [entriesToValues, ih, List.map_cons]

theorem tablesToValues_eq_map (each : List Table) :
    tablesToValues each = each.map fun t => .table (entriesToValues t) := by
  induction each with
  | nil => rfl
  | cons t rest ih => rw [tablesToValues, ih, List.map_cons]

theorem map_fst_entriesToValues (t : Table) :
    (entriesToValues t).map Prod.fst = t.map Prod.fst := by
  rw [entriesToValues_eq_map, List.map_map]
  rfl

theorem Item.Keyed.toValue {item : Item} (h : item.Keyed) : item.toValue.Keyed := by
  have hentries {t : Table} (ih : ∀ entry ∈ t, entry.2.toValue.Keyed) :
      ∀ entry ∈ entriesToValues t, entry.2.Keyed := by
    rw [entriesToValues_eq_map]
    exact List.forall_mem_map.2 ih
  induction h with
  | value h => exact h
  | @table t _ nodup _ ih =>
    rw [Item.toValue]
    exact .table ((map_fst_entriesToValues t).symm ▸ nodup) (hentries ih)
  | @tables each nodup _ ih =>
    rw [Item.toValue, tablesToValues_eq_map]
    refine .array (List.forall_mem_map.2 fun t ht => ?_)
    exact .table ((map_fst_entriesToValues t).symm ▸ nodup t ht) (hentries (ih t ht))

theorem Table.Keyed.entriesToValues {t : Table} (h : t.Keyed) :
    Entries.Keyed Value.Keyed (entriesToValues t) := by
  refine ⟨(map_fst_entriesToValues t).symm ▸ h.nodup, ?_⟩
  rw [entriesToValues_eq_map]
  exact List.forall_mem_map.2 fun entry hentry => (h.values entry hentry).toValue

/-! ### Changes of a table -/

namespace Table

variable {t t' : Table} {path header : List String} {key : String}

/-- A change that keeps the keys of a table apart does so at the end of a path. -/
theorem keyed_of_changeAt {making made : Making} {change : Making → Table → Option Table}
    (hchange : ∀ made t t', t.Keyed → change made t = some t' → t'.Keyed) (ht : t.Keyed)
    (h : changeAt making change path made t = some t') : t'.Keyed := by
  -- on the path; each case of the key in the table is one way down
  induction path generalizing made t t' with
  | nil => exact hchange made t t' ht h
  | cons key path ih =>
    rw [changeAt] at h
    split at h
    · -- a new table is made
      obtain ⟨inner, hinner, rfl⟩ := Option.map_eq_some_iff.1 h
      exact ht.set key ((ih .nil hinner).toItem making)
    · cases h
    · next made inner hget =>
      have hitem := (ht.of_get? hget).of_table
      split at h
      · cases h
      · obtain ⟨after, hafter, rfl⟩ := Option.map_eq_some_iff.1 h
        exact ht.set key ((ih hitem hafter).toItem made)
    · next each hget =>
      have hall := Item.keyed_tables_iff.1 (ht.of_get? hget)
      -- the way leads into the last table of an array, and the others stay
      obtain ⟨last, hlast, h⟩ := Option.bind_eq_some_iff.1 h
      obtain ⟨after, hafter, rfl⟩ := Option.map_eq_some_iff.1 h
      refine ht.set key (Item.keyed_tables_iff.2 fun t hmem => ?_)
      rcases List.mem_append.1 hmem with hfront | hnew
      · exact hall t (List.dropLast_subset each hfront)
      · rw [List.mem_singleton.1 hnew]
        exact ih (hall last (List.mem_of_getLast? hlast)) hafter

theorem keyed_of_insert {v : Value} (hv : v.Keyed) (ht : t.Keyed)
    (h : insert path key v t = some t') : t'.Keyed := by
  refine keyed_of_changeAt (fun made inner after hinner hput => ?_) ht h
  split at hput
  · cases hput
  · split at hput
    · cases hput
    · cases hput
      exact hinner.set key (.value hv)

theorem keyed_of_insertUnder {v : Value} (hv : v.Keyed) (ht : t.Keyed)
    (h : insertUnder header path key v t = some t') : t'.Keyed :=
  keyed_of_changeAt (fun _ _ _ hinner => keyed_of_insert hv hinner) ht h

theorem keyed_of_openTable (ht : t.Keyed) (h : openTable path key t = some t') : t'.Keyed := by
  refine keyed_of_changeAt (fun made inner after hinner hdefine => ?_) ht h
  split at hdefine
  · cases hdefine
    exact hinner.set key (Table.Keyed.toItem .nil .header)
  · next entries hget =>
    cases hdefine
    exact hinner.set key ((hinner.of_get? hget).of_table.toItem .header)
  · cases hdefine

theorem keyed_of_openElement (ht : t.Keyed) (h : openElement path key t = some t') : t'.Keyed := by
  refine keyed_of_changeAt (fun made inner after hinner hextend => ?_) ht h
  split at hextend
  · cases hextend
    refine hinner.set key (Item.keyed_tables_iff.2 fun t hmem => ?_)
    rw [List.mem_singleton.1 hmem]
    exact .nil
  · next each hget =>
    cases hextend
    have hall := Item.keyed_tables_iff.1 (hinner.of_get? hget)
    refine hinner.set key (Item.keyed_tables_iff.2 fun t hmem => ?_)
    rcases List.mem_append.1 hmem with hold | hnew
    · exact hall t hold
    · rw [List.mem_singleton.1 hnew]
      exact .nil
  · cases hextend

end Table

end GeckScript.Toml
