import GeckScript.Proofs.Lookup.Column
import GeckScript.Proofs.Regex.Alignment
import GeckScript.Proofs.Regex.FirstMatch
import GeckScript.Proofs.Text.Word
import GeckScript.Proofs.Vocabulary.Edges

/-!
Patterns that ignore case. What they find depends on tokens and text up to case folding only, so
that letters of ASCII can be written in either case in both; and where a pattern finds something
with the case counted, it finds as much when the case is ignored.
-/

namespace GeckScript

open Regex Text

/-! ### Case variants -/

/-- Texts that differ in the case of ASCII letters at most. -/
def CaseVariants (text other : String) : Prop :=
  List.Forall₂ (fun c d : Char => c.toLower = d.toLower) text.toList other.toList

instance (text other : String) : Decidable (CaseVariants text other) :=
  inferInstanceAs (Decidable (List.Forall₂ _ _ _))

abbrev FoldsAlike (c d : Char) : Prop :=
  sameFold c d

theorem toLower_of_not_ascii {c : Char} (h : ¬ c.toNat < 0x80) : c.toLower = c := by
  refine dif_neg ?_
  rintro ⟨-, hle⟩
  have hle : c.toNat ≤ 90 := hle
  omega

/-- What the small and the capital ASCII letters share does not tell case variants apart. -/
theorem eq_of_toLower_eq {α : Type} [DecidableEq α] {p : Char → α}
    (hp : ∀ n < 0x80, p (Char.ofNat n).toLower = p (Char.ofNat n)) {c d : Char}
    (h : c.toLower = d.toLower) : p c = p d := by
  -- beyond ASCII no character has another case here, and within it there are 128 to look at
  have hlower (c : Char) : p c.toLower = p c := by
    by_cases hc : c.toNat < 0x80
    · exact of_toNat_lt (p := fun c => p c.toLower = p c) hp hc
    · rw [toLower_of_not_ascii hc]
  rw [← hlower c, ← hlower d, h]

theorem map_eq_of_forall₂ {α β γ : Type} {f : α → γ} {g : β → γ} {xs : List α} {ys : List β}
    (h : List.Forall₂ (fun x y => f x = g y) xs ys) : xs.map f = ys.map g := by
  rw [← List.forall₂_eq_eq_eq, List.forall₂_map_left_iff, List.forall₂_map_right_iff]
  exact h

namespace CaseVariants

variable {text other : String}

theorem map_eq (h : CaseVariants text other) {α : Type} [DecidableEq α] {p : Char → α}
    (hp : ∀ n < 0x80, p (Char.ofNat n).toLower = p (Char.ofNat n)) :
    text.toList.map p = other.toList.map p :=
  map_eq_of_forall₂ (h.imp fun _ _ => eq_of_toLower_eq hp)

theorem any_eq (h : CaseVariants text other) {p : Char → Bool}
    (hp : ∀ n < 0x80, p (Char.ofNat n).toLower = p (Char.ofNat n)) :
    text.toList.any p = other.toList.any p := by
  simpa [List.any_map] using congrArg (List.any · id) (h.map_eq hp)

theorem tokenFlaw?_eq (h : CaseVariants text other) : tokenFlaw? text = tokenFlaw? other := by
  have hblank : text.toList.all isBlank = other.toList.all isBlank := by
    rw [List.all_eq_not_any_not, List.all_eq_not_any_not, h.any_eq (by decide +kernel)]
  have hnul : text.toList.contains '\x00' = other.toList.contains '\x00' := by
    rw [List.contains_eq_any_beq, List.contains_eq_any_beq, h.any_eq (by decide +kernel)]
  have hcontrol : text.toList.any isControl = other.toList.any isControl :=
    h.any_eq (by decide +kernel)
  simp only [tokenFlaw?, hblank, hnul, hcontrol]

theorem foldsAlike_of_toLower_eq {c d : Char} (h : c.toLower = d.toLower) : FoldsAlike c d := by
  have hfold : fold c = fold d := eq_of_toLower_eq (by decide +kernel) h
  simp [FoldsAlike, sameFold, hfold]

theorem foldsAlike (h : CaseVariants text other) :
    List.Forall₂ FoldsAlike text.toList other.toList :=
  h.imp fun _ _ => foldsAlike_of_toLower_eq

theorem offset_eq {s t : Cursor} (h : s.Alongside (fun c d => c.toLower = d.toLower) t) :
    s.offset = t.offset := by
  have hsizes : s.before.map Char.utf8Size = t.before.map Char.utf8Size :=
    map_eq_of_forall₂ (h.before.imp fun _ _ => eq_of_toLower_eq (by decide +kernel))
  rw [Cursor.offset, Cursor.offset, hsizes]

end CaseVariants

/-! ### The longest token in two texts -/

section Fold

variable {s t : Cursor} {token other : String}

/-- A text starts with some characters up to case folding if it does so when both are folded. -/
theorem startsAlike_true_eq (chars text : List Char) :
    startsAlike true chars text = (chars.map fold).isPrefixOf (text.map fold) := by
  induction chars generalizing text with
  | nil => simp [startsAlike]
  | cons c chars ih =>
    cases text with
    | nil => rfl
    | cons d text => simp [startsAlike, sameChar, sameFold, List.isPrefixOf, ih]

theorem map_fold_eq {chars text : List Char} (h : List.Forall₂ FoldsAlike chars text) :
    chars.map fold = text.map fold :=
  map_eq_of_forall₂ (h.imp fun c d hcd => by simpa [FoldsAlike, sameFold] using hcd)

theorem atBoundary_eq (h : s.Alongside FoldsAlike t) : s.atBoundary = t.atBoundary := by
  have hword {chars text : List Char}
      (h : List.Forall₂ (fun c d => sameChar true c d) chars text) :
      chars.head?.any isWordChar = text.head?.any isWordChar :=
    any_head?_eq_of_sameChars (fun _ => isWordChar_of_isLetter) h
  rw [Cursor.atBoundary, Cursor.atBoundary, Cursor.wordBefore_eq, Cursor.wordBefore_eq,
    Cursor.wordAfter_eq, Cursor.wordAfter_eq, hword h.before, hword h.after]

theorem standsAt_eq_of_foldsAlike (h : s.Alongside FoldsAlike t)
    (htoken : List.Forall₂ FoldsAlike token.toList other.toList) :
    standsAt true s token = standsAt true t other := by
  have hstarts : startsAlike true token.toList s.after =
      startsAlike true other.toList t.after := by
    rw [startsAlike_true_eq, startsAlike_true_eq, map_fold_eq htoken, map_fold_eq h.after]
  have hlength : token.length = other.length := by
    rw [← String.length_toList, ← String.length_toList, htoken.length_eq]
  have hsame : List.Forall₂ (fun c d => sameChar true c d) token.toList other.toList := htoken
  have hfirst := any_head?_eq_of_sameChars (fun _ => needsBoundary_of_isLetter) hsame
  have hlast := any_getLast?_eq_of_sameChars (fun _ => needsBoundary_of_isLetter) hsame
  rw [standsAt, standsAt, hstarts, edgeFits, edgeFits, edgeFits, edgeFits, hfirst, hlast,
    atBoundary_eq h, hlength, atBoundary_eq (h.advance other.length)]

/-- At corresponding positions of two texts the longest tokens are equally long. -/
theorem longestAt_eq_of_foldsAlike {tokens others : List String}
    (htokens : List.Forall₂ (fun token other => List.Forall₂ FoldsAlike token.toList other.toList)
      tokens others) (h : s.Alongside FoldsAlike t) :
    longestAt true tokens s = longestAt true others t := by
  -- the two lists of tokens that stand there may differ in their tokens, but not in the lengths
  have hlengths : (tokens.filter (standsAt true s)).map String.length =
      (others.filter (standsAt true t)).map String.length := by
    induction htokens with
    | nil => rfl
    | @cons token other _ _ htoken _ ih =>
      have hlength : token.length = other.length := by
        rw [← String.length_toList, ← String.length_toList, htoken.length_eq]
      rw [List.filter_cons, List.filter_cons, standsAt_eq_of_foldsAlike h htoken]
      split
      · rw [List.map_cons, List.map_cons, hlength, ih]
      · exact ih
  rw [longestAt, longestAt, hlengths]

end Fold

/-! ### A token with and without its case -/

section Cases

variable {s : Cursor} {tokens : List String}

theorem startsAlike_true_of_false {chars text : List Char} (h : startsAlike false chars text) :
    startsAlike true chars text := by
  rw [startsAlike_iff] at h ⊢
  refine h.imp fun c d hcd => ?_
  rw [eq_of_beq hcd]
  exact sameChar_refl true d

theorem standsAt_true_of_false {token : String} (h : standsAt false s token) :
    standsAt true s token := by
  rw [standsAt, Bool.and_eq_true, Bool.and_eq_true] at h ⊢
  exact ⟨⟨startsAlike_true_of_false h.1.1, h.1.2⟩, h.2⟩

/-- Ignoring the case makes the longest token at a position no shorter. -/
theorem max_longestAt_eq (tokens : List String) (s : Cursor) :
    max (longestAt false tokens s) (longestAt true tokens s) = longestAt true tokens s := by
  cases hexact : longestAt false tokens s with
  | none => rw [Option.max_none_left]
  | some n =>
    obtain ⟨⟨token, hmem, hstands, rfl⟩, -⟩ := longestAt_eq_some_iff.1 hexact
    have hfolded := standsAt_true_of_false hstands
    cases hignoring : longestAt true tokens s with
    | none => exact absurd hfolded (longestAt_eq_none_iff.1 hignoring token hmem)
    | some k =>
      have hle := (longestAt_eq_some_iff.1 hignoring).2 token hmem hfolded
      rw [Option.max_some_some, Nat.max_eq_right hle]

end Cases

def Regex.Found.span (m : Found) : Nat × Nat :=
  (m.start.offset, m.stop.offset)

/-- A pattern that ignores case ignores it in its tokens and in the text: with case variants of both
it is built as well, and matches the same bytes. And where the pattern with the case counted has a
first match, the one that ignores case has one that starts no later, and is no shorter if it starts
at the same place. -/
theorem findAll_ignores_case {tokens : List String} {source : String}
    (h : buildPattern tokens true = .ok source) :
    ∃ r, compilePattern source = .ok r ∧
      (∀ others, List.Forall₂ CaseVariants tokens others →
        ∃ source' r', buildPattern others true = .ok source' ∧ compilePattern source' = .ok r' ∧
          ∀ text other, CaseVariants text other →
            (r.findAll text.toList).map Found.span = (r'.findAll other.toList).map Found.span) ∧
      ∃ counting t, buildPattern tokens false = .ok counting ∧ compilePattern counting = .ok t ∧
        ∀ (text : String) (m : Found), t.find text.toList = some m →
          ∃ m', r.find text.toList = some m' ∧ m'.AsGood m := by
  have hflaws := tokenFlaw?_of_buildPattern h
  have hhits := hasHits_tokensExpr hflaws true
  refine ⟨_, compilePattern_of_buildPattern h, ?_, ?_⟩
  · intro others hothers
    -- the other tokens have no flaws either, so that they are a pattern too
    have hflaws' : ∀ other ∈ others, tokenFlaw? other = none := by
      have hsame : tokens.map tokenFlaw? = others.map tokenFlaw? :=
        map_eq_of_forall₂ (hothers.imp fun _ _ => CaseVariants.tokenFlaw?_eq)
      have hnone : ∀ flaw ∈ others.map tokenFlaw?, flaw = none := by
        rw [← hsame]
        exact List.forall_mem_map.2 hflaws
      exact List.forall_mem_map.1 hnone
    obtain ⟨source', h'⟩ := exists_buildPattern_eq_ok_iff.2 hflaws'
    refine ⟨source', _, h', compilePattern_of_buildPattern h', ?_⟩
    intro text other htext
    have htokens := hothers.imp fun _ _ => CaseVariants.foldsAlike
    -- the scans find as much at corresponding positions, and case variants have the same bytes
    have hscans := forall₂_scan (fun _ _ h => longestAt_eq_of_foldsAlike htokens
      (h.imp CaseVariants.foldsAlike_of_toLower_eq)) (Cursor.Alongside.start htext)
    rw [hhits.findAll_eq, (hasHits_tokensExpr hflaws' true).findAll_eq]
    refine map_eq_of_forall₂ (hscans.imp fun m m' hm => ?_)
    rw [Found.span, Found.span, CaseVariants.offset_eq hm.start, CaseVariants.offset_eq hm.stop]
  · obtain ⟨counting, hcounting⟩ := exists_buildPattern_eq_ok_iff.2 hflaws
    refine ⟨counting, _, hcounting, compilePattern_of_buildPattern hcounting, ?_⟩
    intro text m hm
    have hhits' := hasHits_tokensExpr hflaws false
    -- ignoring the case, the scan asks for the longer of the two tokens at each position
    have hbest := hhits'.head?_scan_maxHit hhits.toAdvances (.start text.toList)
    rw [funext (max_longestAt_eq tokens), ← hhits.find_eq, ← hhits'.find_eq] at hbest
    rw [hbest]
    exact exists_betterMatch_asGood (.inl hm)

/-- The Kelvin sign is no letter of ASCII, and matches a k in either case. -/
theorem findAll_ignores_case_kelvin :
    buildPattern ["Kill", "k="] true = .ok "(?i)(?:\\bKill\\b|\\bk=)" ∧
      List.Forall₂ CaseVariants ["Kill", "k="] ["kILL", "K="] ∧
      CaseVariants "\u212a=kill é K=KILL" "\u212a=KiLL é k=kill" ∧
      (∃ source r, buildPattern ["kILL", "K="] true = .ok source ∧ compilePattern source = .ok r ∧
        (r.findAll "\u212a=KiLL é k=kill".toList).map Found.span =
          [(0, 4), (4, 8), (12, 14), (14, 18)]) ∧
      ∃ counting t r m m', buildPattern ["Kill", "k="] false = .ok counting ∧
        compilePattern counting = .ok t ∧
        compilePattern "(?i)(?:\\bKill\\b|\\bk=)" = .ok r ∧
        t.find "KILL Kill".toList = some m ∧ r.find "KILL Kill".toList = some m' ∧
        m'.AsGood m := by
  have hbuild : buildPattern ["Kill", "k="] true = .ok "(?i)(?:\\bKill\\b|\\bk=)" :=
    buildPattern_of_pairwise (by decide) (by decide +kernel) (by decide +kernel)
      (by decide +kernel)
  have hcounting : buildPattern ["Kill", "k="] false = .ok "(?:\\bKill\\b|\\bk=)" :=
    buildPattern_of_pairwise (by decide) (by decide +kernel) (by decide +kernel)
      (by decide +kernel)
  have hothers : List.Forall₂ CaseVariants ["Kill", "k="] ["kILL", "K="] := by
    decide +kernel
  have htext : CaseVariants "\u212a=kill é K=KILL" "\u212a=KiLL é k=kill" := by
    decide +kernel
  obtain ⟨r, hr, hvariants, counting, t, hcounting', ht, hfirst⟩ := findAll_ignores_case hbuild
  obtain ⟨source, r', hsource, hr', hspans⟩ := hvariants _ hothers
  -- the Kelvin sign has three bytes, so the first match spans four
  have hregex : (r.findAll "\u212a=kill é K=KILL".toList).map Found.span =
      [(0, 4), (4, 8), (12, 14), (14, 18)] := by
    cases hr
    decide +kernel
  have hkill : ∃ m, t.find "KILL Kill".toList = some m := by
    cases hcounting.symm.trans hcounting'
    cases ht
    apply Option.isSome_iff_exists.1
    decide +kernel
  obtain ⟨m, hm⟩ := hkill
  obtain ⟨m', hm', hgood⟩ := hfirst "KILL Kill" m hm
  exact ⟨hbuild, hothers, htext, ⟨source, r', hsource, hr', hspans _ _ htext ▸ hregex⟩,
    counting, t, r, m, m', hcounting', ht, hr, hm, hm', hgood⟩

end GeckScript
