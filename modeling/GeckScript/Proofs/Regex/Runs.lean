import GeckScript.Proofs.Regex.Scan
import Mathlib.Data.List.TakeWhile

/-!
The maximal runs of a class of characters. A scan that takes the whole run wherever one starts finds
all of them, since it never stops inside a run. Two runs never touch, so a column of a text touches
one run at most.
-/

namespace GeckScript.Regex

section TakeWhile

variable {α : Type} {p : α → Bool} {l : List α}

/-- A front of a list that ends with the first element outside `p`, or with the list. -/
theorem takeWhile_eq_take {n : Nat} (hin : ∀ a ∈ l.take n, p a)
    (hout : (l.drop n).head?.any p = false) : l.takeWhile p = l.take n := by
  have hstop : (l.drop n).takeWhile p = [] := by
    cases hdrop : l.drop n with
    | nil => rfl
    | cons a rest =>
      rw [hdrop] at hout
      rw [List.takeWhile_cons_of_neg (by simpa using hout)]
  conv_lhs => rw [← List.take_append_drop n l]
  rw [List.takeWhile_append_of_pos hin, hstop, List.append_nil]

theorem takeWhile_eq_nil_iff : l.takeWhile p = [] ↔ l.head?.any p = false := by
  cases l with
  | nil => simp
  | cons a l => cases ha : p a <;> simp [ha]

theorem take_length_takeWhile : l.take (l.takeWhile p).length = l.takeWhile p :=
  (List.prefix_iff_eq_take.1 (List.takeWhile_prefix p)).symm

theorem any_head?_drop_takeWhile : (l.drop (l.takeWhile p).length).head?.any p = false := by
  induction l with
  | nil => rfl
  | cons a l ih =>
    cases ha : p a with
    | false => simp [ha]
    | true => simpa [ha] using ih

theorem any_head?_dropWhile : (l.dropWhile p).head?.any p = false := by
  induction l with
  | nil => rfl
  | cons a l ih =>
    cases ha : p a with
    | false => simp [ha]
    | true => simpa [ha] using ih

end TakeWhile

namespace Cursor

@[simp] theorem text_advance (s : Cursor) (n : Nat) : (s.advance n).text = s.text := by
  simp [text, advance]

/-- Every position of a text is reached from its start. -/
theorem advance_start_column (s : Cursor) : (start s.text).advance s.column = s := by
  simp [start, advance, text, column]

/-- Of two positions of a text, the later one is reached from the earlier one. -/
theorem advance_sub_column {s t : Cursor} (htext : s.text = t.text) (hle : s.column ≤ t.column) :
    s.advance (t.column - s.column) = t := by
  calc
    s.advance (t.column - s.column)
      = ((start s.text).advance s.column).advance (t.column - s.column) := by
        rw [s.advance_start_column]
    _ = (start t.text).advance t.column := by
        rw [advance_advance, Nat.add_sub_cancel' hle, htext]
    _ = t := t.advance_start_column

variable {p : Char → Bool}

def run (p : Char → Bool) (s : Cursor) : List Char :=
  s.after.takeWhile p

theorem take_length_run (s : Cursor) : s.after.take (s.run p).length = s.run p :=
  take_length_takeWhile

theorem length_run_le (s : Cursor) : (s.run p).length ≤ s.after.length :=
  (List.takeWhile_sublist _).length_le

theorem run_eq_nil_iff {s : Cursor} : s.run p = [] ↔ s.after.head?.any p = false :=
  takeWhile_eq_nil_iff

/-- The first character of a run is passed. -/
theorem length_run_of_any {s : Cursor} (h : s.after.head?.any p) :
    (s.run p).length = ((s.advance 1).run p).length + 1 := by
  obtain ⟨before, after⟩ := s
  cases after with
  | nil => cases h
  | cons c after =>
    have hc : p c := by simpa using h
    show ((c :: after).takeWhile p).length = (after.takeWhile p).length + 1
    rw [List.takeWhile_cons_of_pos hc, List.length_cons]

theorem any_head?_after_advance_run (s : Cursor) :
    (s.advance (s.run p).length).after.head?.any p = false :=
  any_head?_drop_takeWhile

section Take

variable {s : Cursor} {n : Nat} (hpos : 0 < n) (hle : n ≤ s.after.length)

include hpos hle

theorem take_after_ne_nil : s.after.take n ≠ [] := by
  rw [← List.length_pos_iff, List.length_take]
  omega

variable (hp : ∀ c ∈ s.after.take n, p c)

include hp

theorem any_head?_after_of_take : s.after.head?.any p := by
  have hne := take_after_ne_nil hpos hle
  have hhead : (s.after.take n).head? = s.after.head? := by
    rw [List.head?_take, if_neg (by omega)]
  rw [← hhead, List.head?_eq_some_head hne]
  exact hp _ (List.head_mem hne)

theorem any_head?_before_advance : (s.advance n).before.head?.any p := by
  have hne := take_after_ne_nil hpos hle
  rw [head?_before_advance hpos hle, List.getLast?_eq_some_getLast hne]
  exact hp _ (List.getLast_mem hne)

end Take

/-- Every position further on that is not behind the run has a character of the class in front of
it. -/
theorem any_head?_before_advance_of_le {s : Cursor} {n : Nat} (hpos : 0 < n)
    (hle : n ≤ (s.run p).length) : (s.advance n).before.head?.any p := by
  refine any_head?_before_advance hpos (hle.trans s.length_run_le) ?_
  intro c hc
  have hmem : c ∈ s.after.take (s.run p).length := List.take_subset_take_left _ hle hc
  rw [take_length_run] at hmem
  exact List.mem_takeWhile_imp hmem

/-- A character of the class follows every position further on in the run. -/
theorem any_head?_after_advance_of_lt {s : Cursor} {n : Nat} (hlt : n < (s.run p).length) :
    (s.advance n).after.head?.any p := by
  have hle := s.length_run_le (p := p)
  have hget : (s.run p)[n] = s.after[n] := (List.takeWhile_prefix p).getElem hlt
  rw [after_advance, List.head?_drop, List.getElem?_eq_getElem (by omega), ← hget, Option.any_some]
  exact List.mem_takeWhile_imp (List.getElem_mem hlt)

/-- The run at a position goes as far as characters of the class follow. -/
theorem le_length_run {s : Cursor} {n : Nat} (hle : n ≤ s.after.length)
    (hp : ∀ c ∈ s.after.take n, p c) : n ≤ (s.run p).length := by
  have hsplit : s.run p = s.after.take n ++ (s.after.drop n).takeWhile p := by
    rw [run, ← List.takeWhile_append_of_pos hp, List.take_append_drop]
  have hlength := congrArg List.length hsplit
  rw [List.length_append, List.length_take] at hlength
  omega

def parts (p : Char → Bool) (s : Cursor) : Bool :=
  s.before.head?.any p && s.after.head?.any p

theorem parts_advance_one {s : Cursor} (h : s.after.head?.any p = false) :
    (s.advance 1).parts p = false := by
  obtain ⟨before, after⟩ := s
  rw [parts, Bool.and_eq_false_iff]
  cases after with
  | nil => exact .inr rfl
  | cons c after => exact .inl h

theorem parts_advance_run (s : Cursor) : (s.advance (s.run p).length).parts p = false := by
  rw [parts, s.any_head?_after_advance_run, Bool.and_false]

end Cursor

/-- The length of the run that starts at a position, if it is not inside a run. -/
def runHit (p : Char → Bool) (s : Cursor) : Option Nat :=
  if s.after.head?.any p then some (s.run p).length else none

def runs (p : Char → Bool) (text : List Char) : List Found :=
  scan (runHit p) (.start text)

section Hits

variable {p : Char → Bool} {s : Cursor}

theorem runHit_eq_some_iff {n : Nat} :
    runHit p s = some n ↔ s.after.head?.any p ∧ n = (s.run p).length := by
  unfold runHit
  split
  · rename_i h
    simp [h, eq_comm]
  · rename_i h
    simp [h]

theorem runHit_eq_none_iff : runHit p s = none ↔ s.after.head?.any p = false := by
  simp [runHit]

theorem advances_runHit : Advances (runHit p) where
  pos := by
    intro s n hn
    obtain ⟨hafter, rfl⟩ := runHit_eq_some_iff.1 hn
    rw [List.length_pos_iff]
    intro hnil
    rw [Cursor.run_eq_nil_iff.1 hnil] at hafter
    cases hafter
  le := by
    intro s n hn
    obtain ⟨-, rfl⟩ := runHit_eq_some_iff.1 hn
    exact s.length_run_le

/-- From a position outside runs on, the scan takes every run that starts at a position without a
character of the class in front. -/
theorem mem_scan_runHit_iff (hs : s.parts p = false) {m : Found} :
    m ∈ scan (runHit p) s ↔ m.start.before.head?.any p = false ∧ m.start.after.head?.any p ∧
      m.stop = m.start.advance (m.start.run p).length ∧ ∃ i, m.start = s.advance i := by
  induction s using scan.induct (runHit p) with
  | case1 s hempty =>
    have hnil : s.after = [] := by simpa using hempty
    rw [scan_of_after_eq_nil hnil]
    refine iff_of_false List.not_mem_nil ?_
    -- behind the end there is no character
    rintro ⟨-, hafter, -, i, hi⟩
    rw [hi, Cursor.after_advance, hnil] at hafter
    simp at hafter
  | case2 s _ hnone ih =>
    have hafter := runHit_eq_none_iff.1 hnone
    rw [scan_of_none hnone, ih (Cursor.parts_advance_one hafter)]
    refine and_congr_right fun _ => and_congr_right fun hp => and_congr_right fun _ => ?_
    constructor
    · rintro ⟨i, hi⟩
      exact ⟨1 + i, by rw [hi, Cursor.advance_advance]⟩
    · rintro ⟨i, hi⟩
      cases i with
      | zero =>
        rw [hi, Cursor.advance_zero, hafter] at hp
        cases hp
      | succ i => exact ⟨i, by rw [hi, Cursor.advance_advance, Nat.add_comm]⟩
  | case3 s _ n hsome ih =>
    rw [Nat.max_eq_right (advances_runHit.pos hsome)] at ih
    obtain ⟨hafter, rfl⟩ := runHit_eq_some_iff.1 hsome
    have hbefore : s.before.head?.any p = false := by simpa [Cursor.parts, hafter] using hs
    rw [advances_runHit.scan_of_some hsome, List.mem_cons, ih s.parts_advance_run]
    constructor
    · rintro (rfl | ⟨hstart, hp, hstop, i, hi⟩)
      · exact ⟨hbefore, hafter, rfl, 0, rfl⟩
      · exact ⟨hstart, hp, hstop, (s.run p).length + i, by rw [hi, Cursor.advance_advance]⟩
    · rintro ⟨hstart, hp, hstop, i, hi⟩
      by_cases hzero : i = 0
      · subst hzero
        left
        obtain ⟨start, stop⟩ := m
        have hi : start = s := hi
        have hstop : stop = start.advance (start.run p).length := hstop
        rw [hstop, hi]
      · right
        -- up to the end of the run there is a character of the class in front
        have hlt : (s.run p).length < i := by
          by_contra hle
          rw [hi, Cursor.any_head?_before_advance_of_le (by omega) (by omega)] at hstart
          cases hstart
        refine ⟨hstart, hp, hstop, i - (s.run p).length, ?_⟩
        rw [hi, Cursor.advance_advance, Nat.add_sub_cancel' hlt.le]

end Hits

namespace Found

theorem length_chars (m : Found) : m.chars.length = m.length := by
  rw [chars, List.length_take, length]
  omega

/-- A match that is a whole run of characters of a class. -/
structure IsRun (p : Char → Bool) (text : List Char) (m : Found) : Prop where
  text_eq : m.start.text = text
  stop_eq : m.stop = m.start.advance m.length
  chars_ne_nil : m.chars ≠ []
  forall_chars : ∀ c ∈ m.chars, p c
  none_before : m.start.before.head?.any p = false
  none_after : m.stop.after.head?.any p = false

theorem chars_eq_run {p : Char → Bool} {s : Cursor} :
    (⟨s, s.advance (s.run p).length⟩ : Found).chars = s.run p := by
  rw [chars_advance s.length_run_le, s.take_length_run]

variable {p : Char → Bool} {text : List Char} {m m' : Found}

theorem isRun_iff :
    m.IsRun p text ↔ m.start.before.head?.any p = false ∧ m.start.after.head?.any p ∧
      m.stop = m.start.advance (m.start.run p).length ∧ m.start.text = text := by
  constructor
  · intro h
    have hout : (m.start.after.drop m.length).head?.any p = false := by
      have hafter := h.none_after
      rwa [h.stop_eq] at hafter
    -- all of it are characters of the class and none follows, so it is the run at its start
    have hrun : m.start.run p = m.chars := takeWhile_eq_take h.forall_chars hout
    have hafter : m.start.after.head?.any p := by
      by_contra hnot
      exact h.chars_ne_nil (hrun ▸ Cursor.run_eq_nil_iff.2 (by simpa using hnot))
    refine ⟨h.none_before, hafter, ?_, h.text_eq⟩
    rw [hrun, m.length_chars, ← h.stop_eq]
  · rintro ⟨hbefore, hafter, hstop, htext⟩
    obtain ⟨s, stop⟩ := m
    have hstop : stop = s.advance (s.run p).length := hstop
    subst hstop
    refine ⟨htext, ?_, ?_, ?_, hbefore, s.any_head?_after_advance_run⟩
    · rw [← length_chars, chars_eq_run]
    · rw [chars_eq_run]
      intro hnil
      rw [Cursor.run_eq_nil_iff.1 hnil] at hafter
      cases hafter
    · rw [chars_eq_run]
      exact fun c hc => List.mem_takeWhile_imp hc

/-- The scan finds the runs that go on at neither end. -/
theorem mem_runs_iff : m ∈ runs p text ↔ m.IsRun p text := by
  rw [runs, mem_scan_runHit_iff rfl, isRun_iff]
  refine and_congr_right fun _ => and_congr_right fun _ => and_congr_right fun _ => ?_
  constructor
  · rintro ⟨i, hi⟩
    rw [hi, Cursor.text_advance]
    rfl
  · rintro rfl
    exact ⟨m.start.column, m.start.advance_start_column.symm⟩

/-- Whether a column lies in a match or at one of its ends. -/
def Touches (m : Found) (column : Nat) : Prop :=
  m.start.column ≤ column ∧ column ≤ m.stop.column

instance (m : Found) (column : Nat) : Decidable (m.Touches column) :=
  inferInstanceAs (Decidable (_ ∧ _))

theorem IsRun.column_stop (h : m.IsRun p text) :
    m.stop.column = m.start.column + (m.start.run p).length := by
  obtain ⟨-, -, hstop, -⟩ := isRun_iff.1 h
  rw [hstop, Cursor.column_advance m.start.length_run_le]

theorem IsRun.column_stop_le (h : m.IsRun p text) : m.stop.column ≤ text.length := by
  have hlength := congrArg List.length h.text_eq
  rw [Cursor.text, List.length_append, List.length_reverse] at hlength
  have hrun := m.start.length_run_le (p := p)
  have hcolumn : m.start.column = m.start.before.length := rfl
  rw [h.column_stop]
  omega

theorem IsRun.column_start_le (h : m.IsRun p text) (h' : m'.IsRun p text) {column : Nat}
    (htouches : m.Touches column) (htouches' : m'.Touches column) :
    m'.start.column ≤ m.start.column := by
  by_contra hlt
  have hstop := h.column_stop
  obtain ⟨-, hle⟩ := htouches
  obtain ⟨hle', -⟩ := htouches'
  -- the later run would start inside the earlier one or right behind it
  have hbefore : m'.start.before.head?.any p := by
    have hadvance := Cursor.advance_sub_column (h.text_eq.trans h'.text_eq.symm) (by omega)
    rw [← hadvance]
    exact Cursor.any_head?_before_advance_of_le (by omega) (by omega)
  rw [h'.none_before] at hbefore
  cases hbefore

/-- A column touches one run at most. -/
theorem IsRun.eq_of_touches (h : m.IsRun p text) (h' : m'.IsRun p text) {column : Nat}
    (htouches : m.Touches column) (htouches' : m'.Touches column) : m = m' := by
  have hcolumn : m.start.column = m'.start.column :=
    Nat.le_antisymm (h'.column_start_le h htouches' htouches)
      (h.column_start_le h' htouches htouches')
  have hstart : m.start = m'.start := by
    have hadvance := Cursor.advance_sub_column (h.text_eq.trans h'.text_eq.symm) hcolumn.le
    rwa [hcolumn, Nat.sub_self, Cursor.advance_zero] at hadvance
  obtain ⟨-, -, hstop, -⟩ := isRun_iff.1 h
  obtain ⟨-, -, hstop', -⟩ := isRun_iff.1 h'
  cases m
  cases m'
  simp only at hstart hstop hstop'
  rw [hstop, hstop', hstart]

/-- A run that covers a stretch without characters of the class next to it is that stretch. -/
theorem IsRun.eq_of_covers {s : Cursor} {n : Nat} (h : m.IsRun p s.text)
    (hle : n ≤ s.after.length) (hfrom : m.start.column ≤ s.column)
    (hto : (s.advance n).column ≤ m.stop.column) (hbefore : s.before.head?.any p = false)
    (hafter : (s.advance n).after.head?.any p = false) : m = ⟨s, s.advance n⟩ := by
  obtain ⟨-, -, hstop, htext⟩ := isRun_iff.1 h
  have hcolumn := h.column_stop
  have hadvance := Cursor.advance_sub_column htext hfrom
  rw [Cursor.column_advance hle] at hto
  have hstart : m.start = s := by
    by_cases heq : m.start.column = s.column
    · rwa [heq, Nat.sub_self, Cursor.advance_zero] at hadvance
    · -- a run that starts further to the left has a character in front of the stretch
      rw [← hadvance, Cursor.any_head?_before_advance_of_le (by omega) (by omega)] at hbefore
      cases hbefore
  rw [hstart] at hcolumn
  have hlength : n = (s.run p).length := by
    by_contra hne
    rw [Cursor.any_head?_after_advance_of_lt (by omega)] at hafter
    cases hafter
  rw [hstart] at hstop
  cases m
  simp only at hstart hstop
  rw [hstart, hstop, hlength]

def around (p : Char → Bool) (s : Cursor) : Found :=
  ⟨⟨s.before.dropWhile p, (s.before.takeWhile p).reverse ++ s.after⟩,
    s.advance (s.run p).length⟩

theorem advance_start_around (p : Char → Bool) (s : Cursor) :
    (around p s).start.advance (s.before.takeWhile p).length = s := by
  have hlength : (s.before.takeWhile p).reverse.length = (s.before.takeWhile p).length :=
    List.length_reverse
  rw [around, Cursor.advance, ← hlength, List.take_left, List.drop_left, List.reverse_reverse,
    List.takeWhile_append_dropWhile]

theorem run_start_around (p : Char → Bool) (s : Cursor) :
    (around p s).start.run p = (s.before.takeWhile p).reverse ++ s.run p := by
  refine List.takeWhile_append_of_pos fun c hc => ?_
  exact List.mem_takeWhile_imp (List.mem_reverse.1 hc)

theorem stop_around (p : Char → Bool) (s : Cursor) :
    (around p s).stop = (around p s).start.advance ((around p s).start.run p).length := by
  rw [run_start_around, List.length_append, List.length_reverse, ← Cursor.advance_advance,
    advance_start_around]
  rfl

theorem chars_around (p : Char → Bool) (s : Cursor) :
    (around p s).chars = (s.before.takeWhile p).reverse ++ s.run p := by
  have haround : around p s = ⟨(around p s).start, (around p s).stop⟩ := rfl
  rw [haround, stop_around, chars_eq_run, run_start_around]

/-- A position that touches a character of a class touches the run of that character. -/
theorem isRun_around {s : Cursor} (h : (around p s).chars ≠ []) :
    (around p s).IsRun p s.text := by
  refine isRun_iff.2 ⟨any_head?_dropWhile, ?_, stop_around p s, ?_⟩
  · by_contra hnot
    rw [chars_around, ← run_start_around] at h
    exact h (Cursor.run_eq_nil_iff.2 (by simpa using hnot))
  · rw [← Cursor.text_advance _ (s.before.takeWhile p).length, advance_start_around]

theorem column_start_around (p : Char → Bool) (s : Cursor) :
    (around p s).start.column + (s.before.takeWhile p).length = s.column := by
  have hlength := congrArg List.length (List.takeWhile_append_dropWhile (p := p) (l := s.before))
  rw [List.length_append] at hlength
  show (s.before.dropWhile p).length + _ = s.before.length
  omega

theorem column_stop_around (p : Char → Bool) (s : Cursor) :
    (around p s).stop.column = s.column + (s.run p).length :=
  Cursor.column_advance s.length_run_le

/-- A run that touches a position is what the position touches on its left and on its right. -/
theorem IsRun.around_eq {s : Cursor} (h : m.IsRun p s.text) (htouches : m.Touches s.column) :
    around p s = m := by
  obtain ⟨hfrom, hto⟩ := htouches
  have hstop := h.column_stop
  have hne : (around p s).chars ≠ [] := by
    have hadvance := Cursor.advance_sub_column h.text_eq hfrom
    by_cases hcolumn : m.start.column = s.column
    · -- at the start of the run its first character follows
      rw [hcolumn, Nat.sub_self, Cursor.advance_zero] at hadvance
      obtain ⟨-, hafter, -⟩ := isRun_iff.1 h
      rw [chars_around, ← hadvance]
      intro hnil
      rw [Cursor.run_eq_nil_iff.1 (List.append_eq_nil_iff.1 hnil).2] at hafter
      cases hafter
    · -- further on one of its characters stands in front
      have hbefore : s.before.head?.any p := by
        rw [← hadvance]
        exact Cursor.any_head?_before_advance_of_le (by omega) (by omega)
      rw [chars_around]
      intro hnil
      have hnone := List.reverse_eq_nil_iff.1 (List.append_eq_nil_iff.1 hnil).1
      rw [takeWhile_eq_nil_iff.1 hnone] at hbefore
      cases hbefore
  have hstart := column_start_around p s
  have hend := column_stop_around p s
  exact (isRun_around hne).eq_of_touches h ⟨by omega, by omega⟩ ⟨hfrom, hto⟩

/-- A stretch of characters of a class is the whole run around it if it goes on at neither end. -/
theorem chars_around_eq_iff {s : Cursor} {n : Nat} (hle : n ≤ s.after.length)
    (hp : ∀ c ∈ s.after.take n, p c) :
    (around p s).chars = s.after.take n ↔
      s.before.head?.any p = false ∧ (s.advance n).after.head?.any p = false := by
  rw [chars_around]
  constructor
  · intro heq
    have hrun := Cursor.le_length_run hle hp
    have hlength := congrArg List.length heq
    rw [List.length_append, List.length_reverse, List.length_take] at hlength
    have hnil : s.before.takeWhile p = [] := List.length_eq_zero_iff.1 (by omega)
    have hn : n = (s.run p).length := by omega
    refine ⟨takeWhile_eq_nil_iff.1 hnil, ?_⟩
    rw [hn]
    exact s.any_head?_after_advance_run
  · rintro ⟨hbefore, hafter⟩
    rw [takeWhile_eq_nil_iff.2 hbefore]
    exact takeWhile_eq_take hp hafter

/-- Every character of a class lies in a run. -/
theorem exists_isRun_of_mem {c : Char} (hmem : c ∈ text) (hc : p c) :
    ∃ m : Found, m.IsRun p text := by
  obtain ⟨front, back, rfl⟩ := List.append_of_mem hmem
  have hrun : (⟨front.reverse, c :: back⟩ : Cursor).run p ≠ [] := by
    rw [Ne, Cursor.run_eq_nil_iff]
    simp [hc]
  have haround := isRun_around (p := p) (s := ⟨front.reverse, c :: back⟩) (by
    rw [chars_around]
    exact List.append_ne_nil_of_right_ne_nil _ hrun)
  rw [Cursor.text, List.reverse_reverse] at haround
  exact ⟨_, haround⟩

theorem IsRun.chars_infix (h : m.IsRun p text) : m.chars <:+: text := by
  rw [← h.text_eq]
  exact ((List.take_prefix _ _).isInfix).trans (List.suffix_append _ _).isInfix

structure IsFirstRun (p : Char → Bool) (text : List Char) (m : Found) : Prop where
  isRun : m.IsRun p text
  column_le : ∀ m' : Found, m'.IsRun p text → m.start.column ≤ m'.start.column

/-- The first match of a scan for runs is the first run. -/
theorem head?_runs_eq_some_iff : (runs p text).head? = some m ↔ m.IsFirstRun p text := by
  have hfirst {m : Found} (h : (runs p text).head? = some m) : m.IsFirstRun p text := by
    obtain ⟨rest, hruns⟩ := List.head?_eq_some_iff.1 h
    have hrun : m.IsRun p text := mem_runs_iff.1 (by rw [hruns]; exact List.mem_cons_self)
    refine ⟨hrun, fun m' hrun' => ?_⟩
    have hmem := mem_runs_iff.2 hrun'
    rw [hruns] at hmem
    rcases List.mem_cons.1 hmem with rfl | hmem
    · exact Nat.le_refl _
    · have hordered : (runs p text).Pairwise fun m m' => m.stop.column ≤ m'.start.column :=
        advances_runHit.pairwise_scan (.start text)
      rw [hruns, List.pairwise_cons] at hordered
      have hstop := hrun.column_stop
      have hbehind := hordered.1 m' hmem
      omega
  constructor
  · exact hfirst
  · rintro ⟨hrun, hleast⟩
    cases hhead : (runs p text).head? with
    | none =>
      have hmem := mem_runs_iff.2 hrun
      rw [List.head?_eq_none_iff.1 hhead] at hmem
      exact absurd hmem List.not_mem_nil
    | some m' =>
      -- of two runs in front of each other both start at one column
      obtain ⟨hrun', hleast'⟩ := hfirst hhead
      have hcolumn := Nat.le_antisymm (hleast m' hrun') (hleast' m hrun)
      have hstop := hrun.column_stop
      have hstop' := hrun'.column_stop
      have htouches : m.Touches m.start.column := ⟨by omega, by omega⟩
      have htouches' : m'.Touches m.start.column := ⟨by omega, by omega⟩
      rw [hrun.eq_of_touches hrun' htouches htouches']

end Found

end GeckScript.Regex
