import GeckScript.Cli.Run

/-!
Reading the list of groups that the program prints. A line has its columns between blanks, the scope
first and whether the group is on next, so the scopes of the groups that are on can be read off the
printed list.
-/

namespace GeckScript.Cli

def words (line : List Char) : List (List Char) :=
  (line.splitOn ' ').filter fun word => !word.isEmpty

def scopeOn? (line : List Char) : Option String :=
  match words line with
  | scope :: state :: _ => if state = "on".toList then some (String.ofList scope) else none
  | _ => none

/-- The scopes that a printed list shows as on, in its order. -/
def scopesOn (output : String) : List String :=
  (output.toList.splitOn '\n').filterMap scopeOn?

/-- A text that stands in a column as it is. -/
structure IsWord (text : List Char) : Prop where
  ne_nil : text ≠ []
  blank : ' ' ∉ text
  lineEnd : '\n' ∉ text

/-! ### Words -/

theorem words_append_blank (front back : List Char) :
    words (front ++ ' ' :: back) = words front ++ words back := by
  rw [words, List.splitOn_append_cons_self, List.filter_append]
  rfl

theorem words_of_isWord {text : List Char} (h : IsWord text) : words text = [text] := by
  rw [words, List.splitOn_eq_singleton h.blank, List.filter_cons_of_pos (by simpa using h.ne_nil),
    List.filter_nil]

theorem words_replicate (n : Nat) : words (List.replicate n ' ') = [] := by
  induction n with
  | zero => rfl
  | succ n ih =>
    have hblank : words ([] ++ ' ' :: List.replicate n ' ') = [] := by
      rw [words_append_blank, ih]
      rfl
    exact hblank

theorem toList_padRight (width : Nat) (text : String) :
    (padRight width text).toList = text.toList ++ List.replicate (width - text.length) ' ' := by
  rw [padRight, String.toList_append, String.toList_ofList]

theorem words_padRight {text : String} (h : IsWord text.toList) (width : Nat) :
    words (padRight width text).toList = [text.toList] := by
  rw [toList_padRight]
  cases width - text.length with
  | zero => rw [List.replicate_zero, List.append_nil, words_of_isWord h]
  | succ n =>
    -- padding has no words
    rw [List.replicate_succ, words_append_blank, words_of_isWord h, words_replicate]
    rfl

theorem lineEnd_not_mem_padRight {text : String} (h : '\n' ∉ text.toList) (width : Nat) :
    '\n' ∉ (padRight width text).toList := by
  rw [toList_padRight, List.mem_append, not_or]
  exact ⟨h, fun hmem => absurd (List.eq_of_mem_replicate hmem) (by decide)⟩

/-! ### Lines -/

def stateText (on : Bool) : String :=
  if on then "on" else "off"

def gateText (gate : Option Feature) : String :=
  (gate.map Feature.name).getD "-"

def groupRow (features : FeatureSet) (g : Group) : List Char :=
  (padRight 32 g.scope).toList ++ ' ' ::
    ((padRight 4 (stateText (g.isEnabled features))).toList ++ ' ' ::
      ((padRight 6 (gateText g.gate)).toList ++ ' ' ::
        ((toString g.tokens.length).toList ++ " tokens".toList)))

theorem toList_groupLine (features : FeatureSet) (g : Group) :
    (groupLine features g).toList = groupRow features g ++ ['\n'] := by
  have hline : groupLine features g =
      padRight 32 g.scope ++ " " ++ padRight 4 (stateText (g.isEnabled features)) ++ " " ++
        padRight 6 (gateText g.gate) ++ " " ++ toString g.tokens.length ++ " tokens\n" := rfl
  have hblank : " ".toList = [' '] := rfl
  have htokens : " tokens\n".toList = " tokens".toList ++ ['\n'] := rfl
  rw [hline]
  simp only [groupRow, String.toList_append, hblank, htokens, List.append_assoc, List.cons_append,
    List.nil_append]

theorem scopeOn?_groupRow (features : FeatureSet) {g : Group} (h : IsWord g.scope.toList) :
    scopeOn? (groupRow features g) = if g.isEnabled features then some g.scope else none := by
  have hstate (on : Bool) : IsWord (stateText on).toList := by
    cases on <;> exact ⟨by decide, by decide, by decide⟩
  rw [scopeOn?, groupRow, words_append_blank, words_append_blank, words_padRight h,
    words_padRight (hstate _)]
  show (if (stateText (g.isEnabled features)).toList = _ then some (String.ofList g.scope.toList)
    else none) = _
  rw [String.ofList_toList]
  cases g.isEnabled features <;> rfl

theorem lineEnd_not_mem_groupRow (features : FeatureSet) {g : Group} (h : IsWord g.scope.toList) :
    '\n' ∉ groupRow features g := by
  have hstate (on : Bool) : '\n' ∉ (stateText on).toList := by
    cases on <;> decide
  have hgate : '\n' ∉ (gateText g.gate).toList := by
    rcases g.gate with - | feature
    · decide
    · cases feature <;> decide
  have hcount : '\n' ∉ (toString g.tokens.length).toList := by
    rw [Nat.toString_eq_ofList_toDigits, String.toList_ofList]
    intro hmem
    exact absurd (Nat.isDigit_of_mem_toDigits (by decide) (by decide) hmem) (by decide)
  simp only [groupRow, List.mem_append, List.mem_cons, not_or]
  exact ⟨lineEnd_not_mem_padRight h.lineEnd 32, by decide,
    lineEnd_not_mem_padRight (hstate _) 4, by decide,
    lineEnd_not_mem_padRight hgate 6, by decide, hcount, by decide⟩

theorem scopesOn_groupLines (features : FeatureSet) {catalogue : List Group}
    (h : ∀ g ∈ catalogue, IsWord g.scope.toList) :
    scopesOn (String.join (catalogue.map (groupLine features))) =
      (catalogue.filter (·.isEnabled features)).map Group.scope := by
  rw [scopesOn, String.toList_join, List.flatMap_map]
  -- a row has no line end of its own, so the list is cut right behind it
  induction catalogue with
  | nil => rfl
  | cons g rest ih =>
    obtain ⟨hg, hrest⟩ := List.forall_mem_cons.1 h
    rw [List.flatMap_cons, toList_groupLine, List.append_assoc, List.singleton_append,
      List.splitOn_append_cons_self_of_not_mem (lineEnd_not_mem_groupRow features hg),
      List.filterMap_cons, scopeOn?_groupRow features hg, ih hrest]
    cases henabled : g.isEnabled features with
    | false => simp [henabled]
    | true => simp [henabled]

theorem isWord_scope_of_mem_standardCatalogue :
    ∀ g ∈ standardCatalogue, IsWord g.scope.toList := by
  have hscopes : ∀ g ∈ standardCatalogue,
      g.scope.toList ≠ [] ∧ ' ' ∉ g.scope.toList ∧ '\n' ∉ g.scope.toList := by
    decide
  intro g hg
  exact ⟨(hscopes g hg).1, (hscopes g hg).2.1, (hscopes g hg).2.2⟩

end GeckScript.Cli
