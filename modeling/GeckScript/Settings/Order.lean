import GeckScript.Settings.Path

/-!
The order in which a run goes through settings. Neither the entries of a table nor the overrides
have an order of their own, so that each run goes through them as it happens to find them. Where two
of them come to the same setting, the order decides which one is left.
-/

namespace GeckScript

/-- Where entries come from: the file at a place among the files, or the override of a path. -/
inductive Layer where
  | file (place : Nat)
  | override (path : SettingPath)
  deriving Repr, DecidableEq

/-- The order in which a run goes through the entries of each table, told by its layer and the keys
that lead to it, and through the overrides. -/
structure Order where
  entries : Layer → List String → Entries Setting → Entries Setting
  overrides : List (SettingPath × Setting) → List (SettingPath × Setting)
  entries_perm : ∀ layer keys es, (entries layer keys es).Perm es
  overrides_perm : ∀ os, (overrides os).Perm os

namespace Order

/-- The order in which the entries are written and the overrides are set. -/
def written : Order where
  entries _ _ es := es
  overrides os := os
  entries_perm _ _ es := .refl es
  overrides_perm os := .refl os

mutual

/-- A setting of a layer, with each of its tables in order. -/
def arrange (order : Order) (layer : Layer) (keys : List String) : Setting → Setting
  | .table entries source =>
    .table (order.entries layer keys (order.arrangeEach layer keys entries)) source
  | s => s

def arrangeEach (order : Order) (layer : Layer) (keys : List String) :
    List (String × Setting) → Entries Setting
  | [] => []
  | (key, s) :: rest =>
    (key, order.arrange layer (keys ++ [key]) s) :: order.arrangeEach layer keys rest

end

def arrangeEntries (order : Order) (layer : Layer) (keys : List String)
    (entries : Entries Setting) : Entries Setting :=
  order.entries layer keys (order.arrangeEach layer keys entries)

def arrangeOverrides (order : Order) (overrides : List (SettingPath × Setting)) :
    List (SettingPath × Setting) :=
  (order.overrides overrides).map fun (path, value) =>
    (path, order.arrange (.override path) [] value)

end Order

end GeckScript
