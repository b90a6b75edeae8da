/-!
Values by key, in the order in which the keys came.
-/

namespace GeckScript

/-- Sets the value of a key, in its place if there is one already. -/
def assign [DecidableEq κ] (key : κ) (value : α) : List (κ × α) → List (κ × α)
  | [] => [(key, value)]
  | (k, v) :: rest => if k = key then (key, value) :: rest else (k, v) :: assign key value rest

abbrev Entries (α : Type u) := List (String × α)

namespace Entries

def get? (entries : Entries α) (key : String) : Option α :=
  (entries.find? fun entry => entry.1 == key).map Prod.snd

def set (key : String) (value : α) (entries : Entries α) : Entries α :=
  assign key value entries

theorem get?_cons (k : String) (v : α) (rest : Entries α) (key : String) :
    get? ((k, v) :: rest) key = if k = key then some v else rest.get? key := by
  by_cases h : k = key
  · simp [get?, h]
  · simp [get?, h]

theorem get?_set (entries : Entries α) (key other : String) (value : α) :
    get? (set key value entries) other =
      if key = other then some value else get? entries other := by
  rw [set]
  induction entries with
  | nil => rw [assign, get?_cons]
  | cons entry rest ih =>
    obtain ⟨k, v⟩ := entry
    by_cases hk : k = key
    · subst hk
      rw [assign, if_pos rfl, get?_cons, get?_cons]
      split <;> rfl
    · rw [assign, if_neg hk, get?_cons, get?_cons, ih]
      by_cases h : k = other
      · rw [if_pos h, if_pos h, if_neg (fun hother => hk (h.trans hother.symm))]
      · rw [if_neg h, if_neg h]

end Entries

end GeckScript
