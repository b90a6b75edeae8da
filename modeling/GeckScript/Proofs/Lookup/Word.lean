import GeckScript.Lookup.Word
import GeckScript.Proofs.Regex.Repetition
import GeckScript.Proofs.Text.Word
import GeckScript.Proofs.Vocabulary.Edges

/-!
The word at a cursor. Words that are looked up are the runs of word characters and hyphens of a
line, so a cursor anywhere at a stretch of such characters finds the run around the stretch. What a
token of identifier characters matches is such a stretch.
-/

namespace GeckScript

open Regex Text

def isLookupChar (c : Char) : Bool :=
  isWordChar c || c == '-'

/-- The pattern for words is what its source says. -/
theorem compilePattern_wordSource : compilePattern wordSource = .ok wordRegex := rfl

theorem findAll_wordRegex (text : List Char) : wordRegex.findAll text = runs isLookupChar text :=
  (hasHits_plus_one _).findAll_eq text

/-- The run at a column is found from there. -/
theorem wordAt_of_touches {line : String} {m : Found} (h : m.IsRun isLookupChar line.toList)
    {column : Nat} (htouches : m.Touches (min column line.length)) :
    wordAt wordRegex line column = some m.text := by
  have hfind : (runs isLookupChar line.toList).find? (fun m =>
      decide (m.start.column ≤ min column line.length) &&
        decide (min column line.length ≤ m.stop.column)) = some m := by
    cases hfind : (runs isLookupChar line.toList).find? _ with
    | none =>
      have hnone := List.find?_eq_none.1 hfind m (Found.mem_runs_iff.2 h)
      simp only [Bool.and_eq_true, decide_eq_true_eq] at hnone
      exact absurd htouches hnone
    | some found =>
      have hrun := Found.mem_runs_iff.1 (List.mem_of_find?_eq_some hfind)
      have hfound := List.find?_some hfind
      simp only [Bool.and_eq_true, decide_eq_true_eq] at hfound
      rw [hrun.eq_of_touches h hfound htouches]
  unfold wordAt
  rw [findAll_wordRegex]
  exact congrArg (Option.map Found.text) hfind

/-- From any column at a stretch of lookup characters, the run around the stretch is found. It is
no more than the stretch exactly if no such character stands next to it. -/
theorem wordAt_stretch {line : String} {s : Cursor} (htext : s.text = line.toList) {n : Nat}
    (hpos : 0 < n) (hle : n ≤ s.after.length) (hp : ∀ c ∈ s.after.take n, isLookupChar c)
    {column : Nat} (htouches : (⟨s, s.advance n⟩ : Found).Touches column) :
    ∃ w ∈ wordRegex.findAll line.toList, wordAt wordRegex line column = some w.text ∧
      w.start.column ≤ s.column ∧ (s.advance n).column ≤ w.stop.column ∧
      (w.text = String.ofList (s.after.take n) ↔
        s.before.head?.any isLookupChar = false ∧
          (s.advance n).after.head?.any isLookupChar = false) := by
  have hrun := Cursor.le_length_run hle hp
  have hstart := Found.column_start_around isLookupChar s
  have hstop := Found.column_stop_around isLookupChar s
  have hstretch := Cursor.column_advance hle
  obtain ⟨hfrom, hto⟩ := htouches
  have hfrom : s.column ≤ column := hfrom
  have hto : column ≤ (s.advance n).column := hto
  have haround : (Found.around isLookupChar s).IsRun isLookupChar line.toList := by
    rw [← htext]
    refine Found.isRun_around fun hnil => ?_
    have hlength := congrArg List.length hnil
    rw [Found.chars_around, List.length_append, List.length_nil] at hlength
    omega
  -- the column is on the line, so that it is not moved to its end
  have hcolumn : min column line.length = column := by
    have hlength := congrArg List.length htext
    rw [Cursor.text, List.length_append, List.length_reverse, String.length_toList] at hlength
    have hbefore : s.column = s.before.length := rfl
    omega
  refine ⟨_, ?_, wordAt_of_touches haround ?_, by omega, by omega, ?_⟩
  · rw [findAll_wordRegex]
    exact Found.mem_runs_iff.2 haround
  · rw [hcolumn]
    exact ⟨by omega, by omega⟩
  · rw [Found.text, String.ofList_inj]
    exact Found.chars_around_eq_iff hle hp

theorem isLookupChar_of_isLetter {c : Char} (h : isLetter c) : isLookupChar c := by
  simp [isLookupChar, isWordChar_of_isLetter h]

/-- Highlighting and looking up agree on tokens of identifier characters and hyphens: a cursor
anywhere at a match finds a word around the match, which is the match itself exactly if no lookup
character stands next to it. -/
theorem wordAt_match {tokens : List String} {ignoreCase : Bool} {source : String}
    (h : buildPattern tokens ignoreCase = .ok source)
    (hchars : ∀ token ∈ tokens, ∀ c ∈ token.toList, isAsciiWord c ∨ c = '-') :
    ∃ r, compilePattern source = .ok r ∧
      ∀ line : String, ∀ m ∈ r.findAll line.toList, ∀ column,
        m.start.column ≤ column → column ≤ m.stop.column →
          ∃ w ∈ wordRegex.findAll line.toList, wordAt wordRegex line column = some w.text ∧
            w.start.column ≤ m.start.column ∧ m.stop.column ≤ w.stop.column ∧
            (w.text = m.text ↔ m.start.before.head?.any isLookupChar = false ∧
              m.stop.after.head?.any isLookupChar = false) := by
  have hflaws := tokenFlaw?_of_buildPattern h
  have hhits := hasHits_tokensExpr hflaws ignoreCase
  refine ⟨_, compilePattern_of_buildPattern h, ?_⟩
  intro line m hm column hfrom hto
  rw [hhits.findAll_eq] at hm
  obtain ⟨token, hmem, hstands, hstop, hsame, -⟩ := exists_token_of_mem_scan hflaws hm
  have hle := length_le_of_standsAt hstands
  have hpos := length_pos_of_tokenFlaw? (hflaws token hmem)
  have htext : m.start.text = line.toList := by
    obtain ⟨i, n, -, rfl⟩ := hhits.exists_of_mem_scan hm
    rw [Cursor.text_advance]
    rfl
  obtain ⟨start, stop⟩ := m
  simp only at hstop
  subst hstop
  rw [Found.chars_advance hle] at hsame
  have hlookup : ∀ c ∈ token.toList, isLookupChar c := by
    intro c hc
    rcases hchars token hmem c hc with hword | rfl
    · simp [isLookupChar, isWordChar_of_isAsciiWord hword]
    · rfl
  -- case variants are letters, so the match has no other characters than the token
  have hp := forall_mem_of_sameChars (fun _ => isLookupChar_of_isLetter) hsame hlookup
  have hword := wordAt_stretch htext hpos hle hp ⟨hfrom, hto⟩
  rwa [← Found.chars_advance hle] at hword

/-- The token stops at a hyphen within a word, and a cursor right behind it finds the whole word. -/
theorem wordAt_match_hyphen :
    buildPattern ["ref-"] false = .ok "(?:\\bref\\-)" ∧
      ∃ r, compilePattern "(?:\\bref\\-)" = .ok r ∧ ∃ m ∈ r.findAll "é ref-x".toList,
        m.text = "ref-" ∧ m.stop.column = 6 ∧ ∃ w ∈ wordRegex.findAll "é ref-x".toList,
          wordAt wordRegex "é ref-x" 6 = some w.text ∧ w.start.column ≤ m.start.column ∧
            m.stop.column ≤ w.stop.column ∧ w.text ≠ m.text := by
  have hbuild : buildPattern ["ref-"] false = .ok "(?:\\bref\\-)" := by
    have hsource : String.ofList (alternation false ["ref-"]) = "(?:\\bref\\-)" := by
      decide +kernel
    rw [buildPattern_of_tokenFlaw? (by decide) (by decide +kernel),
      longestFirst_of_pairwise (by simp), hsource]
  have hchars : ∀ token ∈ ["ref-"], ∀ c ∈ token.toList, isAsciiWord c ∨ c = '-' := by
    have htoken : ∀ c ∈ ['r', 'e', 'f', '-'], isAsciiWord c ∨ c = '-' := by
      intro c hc
      simp only [List.mem_cons, List.not_mem_nil, or_false] at hc
      rcases hc with rfl | rfl | rfl | rfl
      · exact .inl rfl
      · exact .inl rfl
      · exact .inl rfl
      · exact .inr rfl
    exact List.forall_mem_singleton.2 htoken
  obtain ⟨r, hr, hword⟩ := wordAt_match hbuild hchars
  have hregex : compilePattern "(?:\\bref\\-)" = .ok _ := rfl
  rw [hregex] at hr
  cases hr
  refine ⟨hbuild, _, hregex, ⟨⟨[' ', 'é'], "ref-x".toList⟩, ⟨"é ref-".toList.reverse, ['x']⟩⟩,
    by decide +kernel, by decide +kernel, by decide +kernel, ?_⟩
  obtain ⟨w, hmem, hat, hfrom, hto, hexact⟩ :=
    hword "é ref-x" ⟨⟨[' ', 'é'], "ref-x".toList⟩, ⟨"é ref-".toList.reverse, ['x']⟩⟩
      (by decide +kernel) 6 (by decide +kernel) (by decide +kernel)
  refine ⟨w, hmem, hat, hfrom, hto, ?_⟩
  rw [Ne, hexact]
  decide +kernel

end GeckScript
