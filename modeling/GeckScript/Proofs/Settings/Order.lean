import GeckScript.Proofs.Basic
import GeckScript.Settings.Order

/-!
What an order leaves as it is: the entries themselves, and with keys that are all different also
what is found under a key.
-/

namespace GeckScript.Order

def backward : Order where
  entries _ _ es := es.reverse
  overrides os := os.reverse
  entries_perm _ _ es := es.reverse_perm
  overrides_perm os := os.reverse_perm

variable {order : Order} {layer : Layer} {keys : List String} {entries : Entries Setting}

theorem arrange_table (source : Option String) : order.arrange layer keys (.table entries source) =
    .table (order.arrangeEntries layer keys entries) source := by
  rw [arrange, arrangeEntries]

@[simp]
theorem arrange_scalar (value : Scalar) (source : Option String) :
    order.arrange layer keys (.scalar value source) = .scalar value source := by
  rw [arrange]
  nofun

@[simp]
theorem arrange_list (items : List Setting) (source : Option String) :
    order.arrange layer keys (.list items source) = .list items source := by
  rw [arrange]
  nofun

theorem arrangeEach_eq_map : order.arrangeEach layer keys entries =
    entries.map fun entry => (entry.1, order.arrange layer (keys ++ [entry.1]) entry.2) := by
  induction entries with
  | nil => rfl
  | cons entry rest ih => rw [arrangeEach, ih, List.map_cons]

theorem map_fst_arrangeEach :
    (order.arrangeEach layer keys entries).map Prod.fst = entries.map Prod.fst := by
  rw [arrangeEach_eq_map, List.map_map]
  rfl

theorem arrangeEntries_perm : (order.arrangeEntries layer keys entries).Perm
    (order.arrangeEach layer keys entries) :=
  order.entries_perm layer keys _

theorem map_fst_arrangeEntries_perm :
    ((order.arrangeEntries layer keys entries).map Prod.fst).Perm (entries.map Prod.fst) := by
  have hperm : ((order.arrangeEntries layer keys entries).map Prod.fst).Perm
      ((order.arrangeEach layer keys entries).map Prod.fst) :=
    arrangeEntries_perm.map Prod.fst
  rwa [map_fst_arrangeEach] at hperm

theorem forall_key_arrangeEntries {P : String → Prop} (h : ∀ entry ∈ entries, P entry.1) :
    ∀ entry ∈ order.arrangeEntries layer keys entries, P entry.1 := by
  intro entry hentry
  have hmem := map_fst_arrangeEntries_perm.mem_iff.1 (List.mem_map_of_mem (f := Prod.fst) hentry)
  obtain ⟨other, hother, heq⟩ := List.mem_map.1 hmem
  exact heq ▸ h other hother

theorem get?_arrangeEach {key : String} : (order.arrangeEach layer keys entries).get? key =
    (entries.get? key).map (order.arrange layer (keys ++ [key])) := by
  induction entries with
  | nil => rfl
  | cons entry rest ih =>
    obtain ⟨k, v⟩ := entry
    rw [arrangeEach, Entries.get?_cons, Entries.get?_cons, ih]
    by_cases h : k = key
    · rw [if_pos h, if_pos h, h]
      rfl
    · rw [if_neg h, if_neg h]

theorem get?_arrangeEntries (h : (entries.map Prod.fst).Nodup) {key : String} :
    (order.arrangeEntries layer keys entries).get? key =
      (entries.get? key).map (order.arrange layer (keys ++ [key])) := by
  have hnodup : ((order.arrangeEach layer keys entries).map Prod.fst).Nodup := by
    rw [map_fst_arrangeEach]
    exact h
  rw [Entries.get?_perm arrangeEntries_perm hnodup, get?_arrangeEach]

@[simp]
theorem arrangeOverrides_nil : order.arrangeOverrides [] = [] := by
  have hnil : order.overrides [] = [] := List.perm_nil.1 (order.overrides_perm [])
  rw [arrangeOverrides, hnil, List.map_nil]

end GeckScript.Order
