import GeckScript.Proofs.Vocabulary.Edges

/-!
Whole words. A match that starts or ends with a word character may still touch another word
character outside, if its token does not ask for a boundary there. Between two letters no token
starts or ends, so letters around a token show this: they leave the scan no other match, and a
match in them keeps to whole words exactly if the token asks for a boundary at each edge with a
word character. Where a match itself asks for a boundary it has one, whatever the other tokens are.
-/

namespace GeckScript

open Regex Text

/-- A match that starts or ends with a word character has none outside next to it. -/
def Regex.Found.IsWholeWord (m : Found) : Prop :=
  (m.chars.head?.any isWordChar → m.start.wordBefore = false) ∧
    (m.chars.getLast?.any isWordChar → m.stop.wordAfter = false)

instance (m : Found) : Decidable m.IsWholeWord := inferInstanceAs (Decidable (_ ∧ _))

/-- The characters of a text next to a token's edge decide with the token whether it asks for a
boundary there. -/
theorem edgeFits_of_standsAt {ignoreCase : Bool} {s : Cursor} {token : String}
    (h : standsAt ignoreCase s token) :
    edgeFits (s.after.take token.length).head? s ∧
      edgeFits (s.after.take token.length).getLast? (s.advance token.length) := by
  have hsame := startsAlike_iff.1 (startsAlike_of_standsAt h)
  rw [String.length_toList] at hsame
  rw [← (edgeFits_eq_of_sameChars hsame _).1, ← (edgeFits_eq_of_sameChars hsame _).2]
  simp only [standsAt, Bool.and_eq_true] at h
  exact ⟨h.1.2, h.2⟩

theorem not_edgeFits_between {c : Option Char} {s : Cursor} (hc : c.any isLetter)
    (hbefore : s.before.head?.any isLetter) (hafter : s.after.head?.any isLetter) :
    ¬ edgeFits c s := by
  have hword (o : Option Char) (ho : o.any isLetter) : o.any isWordChar := by
    obtain ⟨d, rfl, hd⟩ := (Option.any_eq_true _ _).1 ho
    exact isWordChar_of_isLetter hd
  have hneeds : c.any needsBoundary := by
    obtain ⟨d, rfl, hd⟩ := (Option.any_eq_true _ _).1 hc
    exact needsBoundary_of_isLetter hd
  rw [edgeFits_iff, Cursor.wordBefore_eq, Cursor.wordAfter_eq, hword _ hbefore, hword _ hafter]
  intro h
  exact h hneeds rfl

theorem not_standsAt_of_start_between {ignoreCase : Bool} {s : Cursor} {token : String}
    (hpos : 0 < token.length) (hbefore : s.before.head?.any isLetter)
    (hafter : s.after.head?.any isLetter) : ¬ standsAt ignoreCase s token := by
  intro h
  have hhead : (s.after.take token.length).head? = s.after.head? := by
    rw [List.head?_take, if_neg (by omega)]
  have hfits := (edgeFits_of_standsAt h).1
  rw [hhead] at hfits
  exact not_edgeFits_between hafter hbefore hafter hfits

theorem not_standsAt_of_stop_between {ignoreCase : Bool} {s : Cursor} {token : String}
    (hpos : 0 < token.length)
    (hbefore : (s.advance token.length).before.head?.any isLetter)
    (hafter : (s.advance token.length).after.head?.any isLetter) :
    ¬ standsAt ignoreCase s token := by
  intro h
  have hfits := (edgeFits_of_standsAt h).2
  rw [← Cursor.head?_before_advance hpos (length_le_of_standsAt h)] at hfits
  exact not_edgeFits_between hbefore hbefore hafter hfits

/-- Letters to put next to a token's edge: enough of them to hide any other token if the token is
wrong about whether the edge is a word character, and none otherwise. -/
def padding (n : Nat) (c : Option Char) : List Char :=
  if c.any needsBoundary == c.any isWordChar then [] else List.replicate n 'a'

theorem padding_cases (n : Nat) (c : Option Char) :
    padding n c = [] ∨ padding n c = List.replicate n 'a' := by
  unfold padding
  split <;> simp

theorem any_head?_padding {n : Nat} (h : 0 < n) (c : Option Char) :
    (padding n c).head?.any isWordChar = (c.any needsBoundary != c.any isWordChar) := by
  have hletter : (List.replicate n 'a').head?.any isWordChar = true := by
    rw [List.head?_replicate, if_neg (by omega)]
    decide +kernel
  unfold padding
  cases c.any needsBoundary <;> cases c.any isWordChar <;> simp_all

section Padded

variable {tokens : List String} {ignoreCase : Bool} {n : Nat}

/-- Nothing matches inside letters in front of a text if there are more of them than any token
has. -/
theorem scan_replicate_append (hpos : ∀ token ∈ tokens, 0 < token.length)
    (hlt : ∀ token ∈ tokens, token.length < n) (text : List Char) :
    scan (longestAt ignoreCase tokens) (.start (List.replicate n 'a' ++ text)) =
      scan (longestAt ignoreCase tokens) ⟨List.replicate n 'a', text⟩ := by
  have hadvance (j : Nat) (hj : j ≤ n) :
      (Cursor.start (List.replicate n 'a' ++ text)).advance j =
        ⟨List.replicate j 'a', List.replicate (n - j) 'a' ++ text⟩ := by
    have hsplit : List.replicate n 'a' = List.replicate j 'a' ++ List.replicate (n - j) 'a' := by
      rw [List.replicate_append_replicate, Nat.add_sub_cancel' hj]
    rw [hsplit, List.append_assoc]
    simp [Cursor.start, Cursor.advance]
  have hletter (j : Nat) (hj : 0 < j) (rest : List Char) :
      (List.replicate j 'a' ++ rest).head?.any isLetter := by
    obtain ⟨j, rfl⟩ := Nat.exists_eq_add_one.2 hj
    show isLetter 'a'
    decide +kernel
  rw [scan_advance n, hadvance n (Nat.le_refl n), Nat.sub_self]
  · rfl
  · intro j hj
    rw [longestAt_eq_none_iff]
    intro token hmem
    have hshort := hlt token hmem
    by_cases hstart : j = 0
    · -- in front of the whole text a boundary may be there, but the token is too short to reach
      -- the other end of the letters
      subst hstart
      apply not_standsAt_of_stop_between (hpos token hmem)
      · rw [Cursor.advance_advance, hadvance _ (by omega)]
        simpa using hletter (0 + token.length) (by have h := hpos token hmem; omega) []
      · rw [Cursor.advance_advance, hadvance _ (by omega)]
        exact hletter _ (by omega) text
    · apply not_standsAt_of_start_between (hpos token hmem)
      · rw [hadvance j (by omega)]
        simpa using hletter j (by omega) []
      · rw [hadvance j (by omega)]
        exact hletter _ (by omega) text

def paddedMatch (n : Nat) (token : String) : Found :=
  ⟨⟨padding n token.toList.head?, token.toList ++ padding n token.toList.getLast?⟩,
    ⟨token.toList.reverse ++ padding n token.toList.head?, padding n token.toList.getLast?⟩⟩

def paddedText (n : Nat) (token : String) : List Char :=
  padding n token.toList.head? ++ (token.toList ++ padding n token.toList.getLast?)

theorem advance_start_paddedMatch (n : Nat) (token : String) :
    (paddedMatch n token).start.advance token.length = (paddedMatch n token).stop := by
  simp [paddedMatch, Cursor.advance, ← String.length_toList]

theorem chars_paddedMatch (n : Nat) (token : String) :
    (paddedMatch n token).chars = token.toList := by
  simp [paddedMatch, Found.chars, Found.length]

theorem wordBefore_start_paddedMatch {n : Nat} (h : 0 < n) (token : String) :
    (paddedMatch n token).start.wordBefore =
      (token.toList.head?.any needsBoundary != token.toList.head?.any isWordChar) := by
  rw [Cursor.wordBefore_eq]
  exact any_head?_padding h _

theorem wordAfter_stop_paddedMatch {n : Nat} (h : 0 < n) (token : String) :
    (paddedMatch n token).stop.wordAfter =
      (token.toList.getLast?.any needsBoundary != token.toList.getLast?.any isWordChar) := by
  rw [Cursor.wordAfter_eq]
  exact any_head?_padding h _

/-- The paddings give a token the boundaries that it asks for. -/
theorem standsAt_start_paddedMatch {n : Nat} (h : 0 < n) {token : String}
    (hpos : token.toList ≠ []) (ignoreCase : Bool) :
    standsAt ignoreCase (paddedMatch n token).start token := by
  have hstart : edgeFits token.toList.head? (paddedMatch n token).start := by
    rw [edgeFits_iff, wordBefore_start_paddedMatch h, Cursor.wordAfter_eq, paddedMatch,
      List.head?_append_of_ne_nil _ hpos]
    intro hneeds
    simp [hneeds]
  have hstop : edgeFits token.toList.getLast? (paddedMatch n token).stop := by
    rw [edgeFits_iff, wordAfter_stop_paddedMatch h, Cursor.wordBefore_eq, paddedMatch,
      List.head?_append_of_ne_nil _ (by simpa using hpos), List.head?_reverse]
    intro hneeds
    simp [hneeds]
  rw [standsAt, advance_start_paddedMatch, hstart, hstop]
  simp [paddedMatch, startsAlike_append]

/-- A padded token keeps to whole words exactly if it asks for a boundary at each edge with a word
character. -/
theorem isWholeWord_paddedMatch_iff {n : Nat} (h : 0 < n) (token : String) :
    (paddedMatch n token).IsWholeWord ↔ ∀ c ∈ edges token, isWordChar c → needsBoundary c := by
  rw [forall_mem_edges_imp, Found.IsWholeWord, chars_paddedMatch, wordBefore_start_paddedMatch h,
    wordAfter_stop_paddedMatch h]
  cases token.toList.head?.any isWordChar <;> cases token.toList.getLast?.any isWordChar <;> simp

theorem length_le_of_standsAt_paddedMatch {token other : String}
    (hpos : 0 < token.length) (hlt : other.length < n)
    (h : standsAt ignoreCase (paddedMatch n token).start other) :
    other.length ≤ token.length := by
  have hle := length_le_of_standsAt h
  by_contra hlong
  rcases padding_cases n token.toList.getLast? with hpad | hpad
  · simp [paddedMatch, hpad, String.length_toList] at hle
    omega
  · -- the other token would end between two letters of the padding
    obtain ⟨k, hk⟩ := Nat.exists_eq_add_of_lt (Nat.lt_of_not_le hlong)
    have hstop : (paddedMatch n token).start.advance other.length =
        ⟨List.replicate (k + 1) 'a' ++ (paddedMatch n token).stop.before,
          List.replicate (n - (k + 1)) 'a'⟩ := by
      rw [hk, Nat.add_assoc, ← Cursor.advance_advance, advance_start_paddedMatch]
      have hmin : min (k + 1) n = k + 1 := by omega
      simp [paddedMatch, Cursor.advance, hpad, hmin]
    refine not_standsAt_of_stop_between (by omega) ?_ ?_ h
    · rw [hstop]
      show isLetter 'a'
      decide +kernel
    · rw [hstop, List.head?_replicate, if_neg (by omega)]
      decide +kernel

theorem paddedMatch_mem_scan (hflaws : ∀ token ∈ tokens, tokenFlaw? token = none)
    (hlt : ∀ token ∈ tokens, token.length < n) {token : String} (hmem : token ∈ tokens) :
    paddedMatch n token ∈ scan (longestAt ignoreCase tokens) (.start (paddedText n token)) := by
  have hpos (other : String) (hother : other ∈ tokens) : 0 < other.length :=
    length_pos_of_tokenFlaw? (hflaws other hother)
  have hne : token.toList ≠ [] := toList_ne_nil_of_tokenFlaw? (hflaws token hmem)
  have hn : 0 < n := Nat.lt_of_le_of_lt (Nat.zero_le _) (hlt token hmem)
  have hlongest : longestAt ignoreCase tokens (paddedMatch n token).start = some token.length := by
    refine longestAt_eq_some_iff.2
      ⟨⟨token, hmem, standsAt_start_paddedMatch hn hne ignoreCase, rfl⟩, ?_⟩
    intro other hother hstands
    exact length_le_of_standsAt_paddedMatch (hpos token hmem) (hlt other hother) hstands
  -- the padding in front, if any, is passed over
  have hscan : scan (longestAt ignoreCase tokens) (.start (paddedText n token)) =
      scan (longestAt ignoreCase tokens) (paddedMatch n token).start := by
    unfold paddedText paddedMatch
    rcases padding_cases n token.toList.head? with hpad | hpad
    · rw [hpad]
      rfl
    · rw [hpad]
      exact scan_replicate_append hpos hlt _
  rw [hscan, (advances_longestAt hpos ignoreCase).scan_of_some hlongest, advance_start_paddedMatch]
  exact List.mem_cons_self

end Padded

/-- A match is the characters of a token, up to case, with the boundaries that these ask for. -/
theorem exists_chars_of_mem_scan {tokens : List String} {ignoreCase : Bool} {s : Cursor} {m : Found}
    (hflaws : ∀ token ∈ tokens, tokenFlaw? token = none)
    (hm : m ∈ scan (longestAt ignoreCase tokens) s) :
    ∃ token ∈ tokens,
      List.Forall₂ (fun c d => sameChar ignoreCase c d) token.toList m.chars ∧
      edgeFits m.chars.head? m.start ∧ edgeFits m.chars.getLast? m.stop ∧
      m.chars.head?.any isWordChar = m.start.wordAfter ∧
      m.chars.getLast?.any isWordChar = m.stop.wordBefore := by
  obtain ⟨token, hmem, hstands, hstop, hsame, -⟩ := exists_token_of_mem_scan hflaws hm
  have hle := length_le_of_standsAt hstands
  have hpos := length_pos_of_tokenFlaw? (hflaws token hmem)
  have hchars : m.chars = m.start.after.take token.length := by
    have hm : m = ⟨m.start, m.start.advance token.length⟩ := by rw [← hstop]
    rw [hm, Found.chars_advance hle]
  obtain ⟨hstart, hend⟩ := edgeFits_of_standsAt hstands
  rw [← hchars] at hstart hend
  rw [← hstop] at hend
  refine ⟨token, hmem, hsame, hstart, hend, ?_, ?_⟩
  · rw [hchars, List.head?_take, if_neg (by omega), Cursor.wordAfter_eq]
  · rw [hchars, ← Cursor.head?_before_advance hpos hle, ← hstop, Cursor.wordBefore_eq]

theorem outside_of_mem_scan {tokens : List String} {ignoreCase : Bool} {s : Cursor} {m : Found}
    (hflaws : ∀ token ∈ tokens, tokenFlaw? token = none)
    (hm : m ∈ scan (longestAt ignoreCase tokens) s) :
    (m.chars.head?.any needsBoundary → m.start.wordBefore = !m.chars.head?.any isWordChar) ∧
      (m.chars.getLast?.any needsBoundary →
        m.stop.wordAfter = !m.chars.getLast?.any isWordChar) := by
  obtain ⟨token, hmem, hsame, hstart, hend, hhead, hlast⟩ := exists_chars_of_mem_scan hflaws hm
  rw [hhead, hlast]
  constructor
  · intro hneeds
    exact Bool.eq_not_of_ne (edgeFits_iff.1 hstart hneeds)
  · intro hneeds
    exact Bool.eq_not_of_ne (edgeFits_iff.1 hend hneeds).symm

theorem isWholeWord_of_mem_scan {tokens : List String} {ignoreCase : Bool} {s : Cursor}
    {m : Found} (hflaws : ∀ token ∈ tokens, tokenFlaw? token = none)
    (hedges : ∀ token ∈ tokens, ∀ c ∈ edges token, isWordChar c → needsBoundary c)
    (hm : m ∈ scan (longestAt ignoreCase tokens) s) : m.IsWholeWord := by
  obtain ⟨token, hmem, hsame, -⟩ := exists_chars_of_mem_scan hflaws hm
  obtain ⟨hbefore, hafter⟩ := outside_of_mem_scan hflaws hm
  have hword := fun c => isWordChar_of_isLetter (c := c)
  have hneeds := fun c => needsBoundary_of_isLetter (c := c)
  obtain ⟨hhead, hlast⟩ := forall_mem_edges_imp.1 (hedges token hmem)
  rw [any_head?_eq_of_sameChars hword hsame, any_head?_eq_of_sameChars hneeds hsame] at hhead
  rw [any_getLast?_eq_of_sameChars hword hsame, any_getLast?_eq_of_sameChars hneeds hsame] at hlast
  constructor
  · intro h
    rw [hbefore (hhead h), h]
    rfl
  · intro h
    rw [hafter (hlast h), h]
    rfl

/-- Outside of an edge of a match that asks for a boundary there is a word character exactly if the
edge is none itself, whatever the other tokens are like. -/
theorem outside_of_mem_findAll {tokens : List String} {ignoreCase : Bool} {source : String}
    (h : buildPattern tokens ignoreCase = .ok source) :
    ∃ r, compilePattern source = .ok r ∧ ∀ text : String, ∀ m ∈ r.findAll text.toList,
      (m.chars.head?.any needsBoundary → m.start.wordBefore = !m.chars.head?.any isWordChar) ∧
        (m.chars.getLast?.any needsBoundary →
          m.stop.wordAfter = !m.chars.getLast?.any isWordChar) := by
  have hflaws := tokenFlaw?_of_buildPattern h
  refine ⟨_, compilePattern_of_buildPattern h, fun text m hm => ?_⟩
  rw [(hasHits_tokensExpr hflaws ignoreCase).findAll_eq] at hm
  exact outside_of_mem_scan hflaws hm

/-- All matches of a pattern in all texts keep to whole words exactly if every token asks for a
boundary at each edge with a word character. -/
theorem findAll_isWholeWord_iff {tokens : List String} {ignoreCase : Bool} {source : String}
    (h : buildPattern tokens ignoreCase = .ok source) :
    ∃ r, compilePattern source = .ok r ∧
      ((∀ text : String, ∀ m ∈ r.findAll text.toList, m.IsWholeWord) ↔
        ∀ token ∈ tokens, ∀ c ∈ edges token, isWordChar c → needsBoundary c) := by
  have hflaws := tokenFlaw?_of_buildPattern h
  have hhits := hasHits_tokensExpr hflaws ignoreCase
  refine ⟨_, compilePattern_of_buildPattern h, ?_, ?_⟩
  · intro hwhole token hmem
    -- the padded token is a match, with padding longer than any token
    have hlt : ∀ token ∈ tokens,
        token.length < (tokens.map String.length).max?.getD 0 + 1 := by
      intro token hmem
      exact Nat.lt_succ_of_le (List.le_max?_getD_of_mem (List.mem_map_of_mem hmem))
    rw [← isWholeWord_paddedMatch_iff (Nat.succ_pos _)]
    apply hwhole (String.ofList (paddedText _ token))
    rw [String.toList_ofList, hhits.findAll_eq]
    exact paddedMatch_mem_scan hflaws hlt hmem
  · intro hedges text m hm
    rw [hhits.findAll_eq] at hm
    exact isWholeWord_of_mem_scan hflaws hedges hm

theorem findAll_isWholeWord_set :
    buildPattern ["Set", "x+"] true = .ok "(?i)(?:\\bSet\\b|\\bx\\+)" ∧
      ∃ r, compilePattern "(?i)(?:\\bSet\\b|\\bx\\+)" = .ok r ∧
        ∀ text : String, ∀ m ∈ r.findAll text.toList, m.IsWholeWord := by
  have hbuild : buildPattern ["Set", "x+"] true = .ok "(?i)(?:\\bSet\\b|\\bx\\+)" := by
    have hsource : String.ofList (alternation true ["Set", "x+"]) =
        "(?i)(?:\\bSet\\b|\\bx\\+)" := by decide +kernel
    rw [buildPattern_of_tokenFlaw? (by decide) (by decide +kernel),
      longestFirst_of_pairwise (by decide +kernel), hsource]
  obtain ⟨r, hr, hwhole⟩ := findAll_isWholeWord_iff hbuild
  refine ⟨hbuild, r, hr, hwhole.2 ?_⟩
  simp only [forall_mem_edges_imp]
  decide +kernel

/-- An undertie joins words and is no letter, so a token that starts with one matches inside a
longer word. -/
theorem findAll_undertie :
    buildPattern ["‿x"] false = .ok "(?:‿x\\b)" ∧
      ∃ r, compilePattern "(?:‿x\\b)" = .ok r ∧
        ∃ m ∈ r.findAll "a‿x".toList, ¬ m.IsWholeWord := by
  refine ⟨?_, _, rfl, by decide +kernel⟩
  have hsource : String.ofList (alternation false ["‿x"]) = "(?:‿x\\b)" := by decide +kernel
  rw [buildPattern_of_tokenFlaw? (by decide) (by decide +kernel),
    longestFirst_of_pairwise (by simp), hsource]

end GeckScript
