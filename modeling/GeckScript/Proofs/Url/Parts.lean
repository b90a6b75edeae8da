import GeckScript.Proofs.Basic
import GeckScript.Proofs.Url.Hosts
import Mathlib.Data.List.TakeWhile

/-!
The parts of a written URL. What is read as a URL has neither mark in front of its query and no mark
of a fragment in the query, so its query and its fragment are found again in the written form at the
first of these marks.
-/

namespace GeckScript.Url

open Text

/-- The marks stand only where the written form puts them, and it puts no line end anywhere. -/
structure Separable (u : Url) : Prop where
  scheme : Unmarked u.scheme
  authority : ∀ a ∈ u.authority, Unmarked a.write
  path : Unmarked u.path.write
  query : ∀ query ∈ u.query, ∀ c ∈ ['#', '\n'], c ∉ query
  fragment : ∀ fragment ∈ u.fragment, '\n' ∉ fragment

/-! ### What is read -/

theorem isMark_toLower {c : Char} (h : c.isAlphanum || c ∈ ['+', '-', '.']) :
    isMark c.toLower = false := by
  have hascii : c.toNat < 0x80 := toNat_lt_of_isAlphanum_or_mem rfl h
  exact of_toNat_lt (p := fun c => c.isAlphanum || c ∈ ['+', '-', '.'] → isMark c.toLower = false)
    (by decide) hascii h

theorem unmarked_of_takeScheme {input scheme rest : List Char}
    (h : takeScheme input = some (scheme, rest)) : Unmarked scheme := by
  unfold takeScheme at h
  dsimp only at h
  split at h
  · exact absurd h (by simp)
  split at h
  · exact absurd h (by simp)
  split at h
  · rw [Option.some.injEq, Prod.mk.injEq] at h
    obtain ⟨rfl, -⟩ := h
    intro c hc
    obtain ⟨d, hd, rfl⟩ := List.mem_map.1 hc
    have hchar := List.mem_takeWhile_imp hd
    exact isMark_toLower hchar
  · exact absurd h (by simp)

/-- The marks are escaped in a path and in a name or password. -/
theorem inPath_of_isMark {c : Char} (h : isMark c) : Percent.inPath c := by
  rcases eq_of_isMark h with rfl | rfl | rfl <;> rfl

theorem unmarked_readUser (text : List Char) : Unmarked (readUser text).write := by
  have hencode (text : List Char) : Unmarked (Percent.encode Percent.inUserInfo text) := by
    refine unmarked_encode fun c _ hc => ?_
    rw [Percent.inUserInfo, inPath_of_isMark hc, Bool.true_or]
  unfold readUser
  dsimp only
  split
  · simpa [UserInfo.write] using ⟨hencode _, rfl, hencode _, rfl⟩
  · rw [UserInfo.write]
    dsimp only
    split
    · exact Unmarked.nil
    · simpa using ⟨hencode _, rfl⟩

theorem Authority.unmarked_write {a : Authority} (huser : Unmarked a.user.write)
    (hhost : Unmarked a.host.write) : Unmarked a.write := by
  have hslash : isMark '/' = false := rfl
  unfold Authority.write
  cases hport : a.port with
  | none => simp [huser, hhost, hslash]
  | some port =>
    have hcolon : isMark ':' = false := rfl
    simp only [List.cons_append, Unmarked.cons_iff, Unmarked.append_iff]
    exact ⟨hslash, hslash, ⟨huser, hhost⟩, hcolon, unmarked_toString port⟩

theorem mem_of_mem_shorten {kind : SchemeKind} {done : List (List Char)} :
    ∀ segment ∈ shorten kind done, segment ∈ done := by
  intro segment hmem
  unfold shorten at hmem
  split at hmem
  · exact hmem
  · split at hmem
    · exact hmem
    · exact absurd hmem List.not_mem_nil
  · exact List.mem_cons_of_mem _ hmem

theorem unmarked_of_mem_resolve {kind : SchemeKind} {done segments : List (List Char)}
    (hdone : ∀ segment ∈ done, Unmarked segment)
    (hsegments : ∀ segment ∈ segments, Unmarked segment) :
    ∀ segment ∈ resolve kind done segments, Unmarked segment := by
  -- what is done so far stays free of marks: segments are taken over, left out or cut short
  induction segments generalizing done with
  | nil =>
    intro segment hmem
    rw [resolve, List.mem_reverse] at hmem
    exact hdone segment hmem
  | cons segment rest ih =>
    obtain ⟨hsegment, hrest⟩ := List.forall_mem_cons.1 hsegments
    have hclose {done : List (List Char)} (hdone : ∀ segment ∈ done, Unmarked segment) :
        ∀ segment ∈ if rest.isEmpty then [] :: done else done, Unmarked segment := by
      split
      · exact List.forall_mem_cons.2 ⟨Unmarked.nil, hdone⟩
      · exact hdone
    rw [resolve]
    dsimp only
    split
    · exact ih (hclose fun part hpart => hdone part (mem_of_mem_shorten part hpart)) hrest
    split
    · exact ih (hclose hdone) hrest
    split
    · refine ih (List.forall_mem_singleton.2 ?_) hrest
      exact Unmarked.append_iff.2 ⟨fun c hc => hsegment c (List.mem_of_mem_take hc), by decide⟩
    · exact ih (List.forall_mem_cons.2 ⟨hsegment, hdone⟩) hrest

theorem suffix_dropLeadingEmpty (segments : List (List Char)) :
    dropLeadingEmpty segments <:+ segments := by
  fun_induction dropLeadingEmpty segments with
  | case1 segment rest ih => exact ih.trans (List.suffix_cons _ _)
  | case2 segments => exact List.suffix_rfl

theorem unmarked_of_mem_readSegments {kind : SchemeKind} {text : List Char} :
    ∀ segment ∈ readSegments kind text, Unmarked segment := by
  have hresolve : ∀ segment ∈ resolve kind [] (((text.map fun c =>
      if kind.isSlash c then '/' else c).splitOn '/').map (Percent.encode Percent.inPath)),
      Unmarked segment := by
    refine unmarked_of_mem_resolve (by simp) fun segment hmem => ?_
    obtain ⟨raw, -, rfl⟩ := List.mem_map.1 hmem
    exact unmarked_encode fun c _ hc => inPath_of_isMark hc
  intro segment hmem
  unfold readSegments at hmem
  dsimp only at hmem
  split at hmem
  · exact hresolve segment ((suffix_dropLeadingEmpty _).subset hmem)
  · exact hresolve segment hmem

theorem unmarked_segments {parts : List (List Char)} (h : ∀ part ∈ parts, Unmarked part) :
    Unmarked (Path.segments parts).write :=
  Unmarked.flatMap fun part hpart => Unmarked.cons_iff.2 ⟨rfl, h part hpart⟩

theorem unmarked_readPath (kind : SchemeKind) (text : List Char) :
    Unmarked (readPath kind text).write := by
  unfold readPath
  split
  · refine unmarked_segments ?_
    split
    · exact unmarked_of_mem_readSegments
    · simp
  · exact unmarked_segments unmarked_of_mem_readSegments

theorem not_mem_of_readTail_query {kind : SchemeKind} {input query : List Char}
    (h : (readTail kind input).1 = some query) : ∀ c ∈ ['#', '\n'], c ∉ query := by
  unfold readTail at h
  dsimp only at h
  split at h
  · rw [Option.some.injEq] at h
    subst h
    refine List.forall_mem_cons.2 ⟨?_, List.forall_mem_singleton.2 ?_⟩ <;>
    · intro hmem
      have hkept := (Percent.mem_of_mem_encode hmem rfl).2
      split at hkept <;> exact absurd hkept (by decide)
  · exact absurd h (by simp)

theorem not_mem_of_readTail_fragment {kind : SchemeKind} {input fragment : List Char}
    (h : (readTail kind input).2 = some fragment) : '\n' ∉ fragment := by
  unfold readTail at h
  dsimp only at h
  split at h
  · rw [Option.some.injEq] at h
    subst h
    intro hmem
    exact absurd (Percent.mem_of_mem_encode hmem rfl).2 (by decide)
  · exact absurd h (by simp)

theorem separable_build {scheme : List Char} {authority : Option Authority}
    {path : List Char → Path} (kind : SchemeKind) (input : List Char) (hscheme : Unmarked scheme)
    (hauthority : ∀ a ∈ authority, Unmarked a.write)
    (hpath : ∀ text, (∀ c ∈ text, isTail c = false) → Unmarked (path text).write) :
    (build kind scheme authority path input).Separable where
  scheme := hscheme
  authority := hauthority
  path := by
    refine hpath _ fun c hc => ?_
    simpa using List.mem_takeWhile_imp hc
  query := fun query hquery => not_mem_of_readTail_query hquery
  fragment := fun fragment hfragment => @not_mem_of_readTail_fragment kind _ _ hfragment

/-! ### URLs with an authority -/

def takeUser (kind : SchemeKind) (input : List Char) : Except UrlError (UserInfo × List Char) :=
  match splitUser kind input with
  | none => .ok (.none, input)
  | some ([], c :: rest) =>
    if kind.isSlash c || isTail c then .error .emptyHost else .ok (.none, c :: rest)
  | some ([], []) => .ok (.none, [])
  | some (text, rest) => .ok (readUser text, rest)

def readHost (kind : SchemeKind) (text : List Char) : Except UrlError Host :=
  if kind.isSpecial && text.isEmpty then .error .emptyHost
  else if kind.isSpecial then readDomain text else readPlainHost text

def readBehindHost (kind : SchemeKind) (scheme : List Char) (user : UserInfo) (host : Host)
    (input : List Char) : Except UrlError Url := do
  let hasPort := input.head? == some ':'
  if host = .empty && (hasPort || !user.write.isEmpty) then throw .emptyHost
  let (port, rest) ← if hasPort then readPort kind (input.drop 1) else pure (none, input)
  return build kind scheme (some ⟨user, host, port⟩) (readPath kind) rest

theorem readAuthority_eq (kind : SchemeKind) (scheme input : List Char) :
    readAuthority kind scheme input =
      takeUser kind input >>= fun (user, behindUser) =>
        let (text, rest) := takeHost kind false behindUser
        readHost kind text >>= fun host => readBehindHost kind scheme user host rest := by
  have hhost (text : List Char) (next : Host → Except UrlError Url) :
      (readHost kind text >>= next) =
        (if kind.isSpecial && text.isEmpty then throw .emptyHost >>= fun _ : Unit => next .empty
        else if kind.isSpecial then readDomain text >>= next else readPlainHost text >>= next) := by
    unfold readHost
    cases kind.isSpecial <;> cases text.isEmpty <;> rfl
  unfold readAuthority takeUser
  simp only [hhost]
  -- no user, an empty user and a user with text, where something or nothing follows the last two
  rcases splitUser kind input with - | ⟨- | ⟨c, text⟩, - | ⟨d, rest⟩⟩
  · rfl
  · rfl
  · dsimp only
    split <;> rfl
  · rfl
  · rfl

theorem unmarked_of_takeUser {kind : SchemeKind} {input rest : List Char} {user : UserInfo}
    (h : takeUser kind input = .ok (user, rest)) : Unmarked user.write := by
  unfold takeUser at h
  split at h
  · cases h
    exact Unmarked.nil
  · split at h
    · exact absurd h (by simp)
    · cases h
      exact Unmarked.nil
  · cases h
    exact Unmarked.nil
  · cases h
    exact unmarked_readUser _

theorem unmarked_of_readHost {kind : SchemeKind} {text : List Char} {host : Host}
    (h : readHost kind text = .ok host) : Unmarked host.write := by
  unfold readHost at h
  split at h
  · exact absurd h (by simp)
  split at h
  · exact unmarked_of_readDomain h
  · exact unmarked_of_readPlainHost h

theorem separable_of_readBehindHost {kind : SchemeKind} {scheme input : List Char}
    {user : UserInfo} {host : Host} {u : Url} (hscheme : Unmarked scheme)
    (huser : Unmarked user.write) (hhost : Unmarked host.write)
    (h : readBehindHost kind scheme user host input = .ok u) : u.Separable := by
  have hbuild (port : Option Nat) (rest : List Char) :
      (build kind scheme (some ⟨user, host, port⟩) (readPath kind) rest).Separable :=
    separable_build kind rest hscheme (by simpa using Authority.unmarked_write huser hhost)
      fun text _ => unmarked_readPath kind text
  unfold readBehindHost at h
  dsimp only at h
  split at h
  · cases h
  -- whether there is a port or not, what follows is built alike
  split at h
  · obtain ⟨⟨port, rest⟩, -, h⟩ := bind_eq_ok_iff.1 h
    cases h
    exact hbuild port rest
  · cases h
    exact hbuild none input

theorem separable_of_readAuthority {kind : SchemeKind} {scheme input : List Char} {u : Url}
    (hscheme : Unmarked scheme) (h : readAuthority kind scheme input = .ok u) : u.Separable := by
  rw [readAuthority_eq] at h
  obtain ⟨⟨user, behindUser⟩, huser, h⟩ := bind_eq_ok_iff.1 h
  obtain ⟨host, hhost, h⟩ := bind_eq_ok_iff.1 h
  exact separable_of_readBehindHost hscheme (unmarked_of_takeUser huser)
    (unmarked_of_readHost hhost) h

/-! ### Files and other schemes -/

theorem separable_of_readFile {scheme input : List Char} {u : Url} (hscheme : Unmarked scheme)
    (h : readFile scheme input = .ok u) : u.Separable := by
  have hauthority (host : Host) (hhost : Unmarked host.write) :
      ∀ a ∈ some (Authority.mk .none host none), Unmarked a.write := by
    simpa using Authority.unmarked_write (a := ⟨.none, host, none⟩) Unmarked.nil hhost
  have hnone := hauthority .empty Unmarked.nil
  unfold readFile at h
  extract_lets kind noHost at h
  split at h
  · next rest =>
    split at h
    · extract_lets text readRest at h
      split at h
      · cases h
        exact separable_build _ _ hscheme hnone fun text _ =>
          unmarked_segments unmarked_of_mem_readSegments
      · -- a host is read, unless nothing stands between the slashes
        obtain ⟨host, hhost, h⟩ : ∃ host : Host, Unmarked host.write ∧ readRest host = .ok u := by
          split at h
          · exact ⟨.empty, Unmarked.nil, h⟩
          · obtain ⟨host, hhost, h⟩ := bind_eq_ok_iff.1 h
            exact ⟨host, unmarked_of_readDomain hhost, h⟩
        have hlocal :
            Unmarked (if host = .domain "localhost".toList then .empty else host).write := by
          split
          · exact Unmarked.nil
          · exact hhost
        have hbuild := separable_build kind (rest.drop text.length) hscheme
          (hauthority _ hlocal) fun text _ => unmarked_readPath kind text
        -- a path with a drive letter takes the host away and leaves the rest
        unfold readRest at h
        dsimp only at h
        split at h
        · cases h
          split
          · exact { hbuild with authority := hnone }
          · exact hbuild
        · cases h
          exact hbuild
    · cases h
      exact separable_build _ _ hscheme hnone fun text _ => unmarked_readPath _ text
  · cases h
    exact separable_build _ _ hscheme hnone fun text _ => unmarked_readPath _ text

theorem separable_readOther {scheme : List Char} (input : List Char) (hscheme : Unmarked scheme) :
    (readOther scheme input).Separable := by
  unfold readOther
  split
  · exact separable_build _ _ hscheme (by simp) fun text _ =>
      unmarked_segments unmarked_of_mem_readSegments
  · refine separable_build _ _ hscheme (by simp) fun text htext => ?_
    refine unmarked_encode fun c hc hmark => ?_
    -- the text ends in front of a tail, and a line end is a control
    rw [isMark, htext c hc, Bool.false_or, decide_eq_true_eq] at hmark
    rw [hmark]
    rfl

theorem separable_of_parse {input : String} {u : Url} (h : parse input = .ok u) : u.Separable := by
  unfold parse at h
  split at h
  · cases h
  · next scheme rest htake =>
    have hscheme := unmarked_of_takeScheme htake
    split at h
    · exact separable_of_readFile hscheme h
    · split at h
      · exact separable_of_readAuthority hscheme h
      · cases h
        exact separable_readOther _ hscheme
    · exact separable_of_readAuthority hscheme h

/-! ### What is found in the written form -/

def front (written : String) : List Char :=
  written.toList.takeWhile fun c => !isTail c

/-- What stands between the first mark of a query and the mark of the fragment. -/
def queryOf (written : String) : Option (List Char) :=
  match (written.toList.takeWhile (· != '#')).dropWhile (· != '?') with
  | _ :: query => some query
  | [] => none

def fragmentOf (written : String) : Option (List Char) :=
  match written.toList.dropWhile (· != '#') with
  | _ :: fragment => some fragment
  | [] => none

def writeFront (u : Url) : List Char :=
  let authority := match u.authority with
    | some a => a.write
    | none => []
  u.scheme ++ ':' :: authority ++ u.guard ++ u.path.write

theorem toList_write (u : Url) : u.write.toList = u.writeFront ++ u.writeQuery ++ u.writeFragment :=
  String.toList_ofList

namespace Separable

variable {u : Url}

theorem unmarked_guard (u : Url) : Unmarked u.guard := by
  unfold guard
  split <;> decide

theorem unmarked_writeFront (h : u.Separable) : Unmarked u.writeFront := by
  have hcolon : isMark ':' = false := rfl
  have hauthority : Unmarked (match u.authority with | some a => a.write | none => []) := by
    cases ha : u.authority with
    | none => exact Unmarked.nil
    | some a => exact h.authority a ha
  simp only [writeFront, Unmarked.append_iff, Unmarked.cons_iff]
  exact ⟨⟨⟨h.scheme, hcolon, hauthority⟩, unmarked_guard u⟩, h.path⟩

theorem front_write (h : u.Separable) : front u.write = u.writeFront := by
  have hfront : ∀ c ∈ u.writeFront, (!isTail c) = true := by
    intro c hc
    rw [isTail_eq_false_of_isMark (h.unmarked_writeFront c hc), Bool.not_false]
  have hrest : (u.writeQuery ++ u.writeFragment).takeWhile (fun c => !isTail c) = [] := by
    unfold writeQuery writeFragment
    cases u.query <;> cases u.fragment <;> rfl
  rw [front, toList_write, List.append_assoc, List.takeWhile_append_of_pos hfront, hrest,
    List.append_nil]

/-- Up to the fragment the written form has no mark of one. -/
theorem ne_of_mem_front (h : u.Separable) :
    ∀ c ∈ u.writeFront ++ u.writeQuery, (c != '#') = true := by
  intro c hc
  rw [bne_iff_ne]
  rintro rfl
  rcases List.mem_append.1 hc with hc | hc
  · exact absurd (h.unmarked_writeFront _ hc) (by decide)
  · unfold writeQuery at hc
    split at hc
    · next query hquery =>
      rcases List.mem_cons.1 hc with hc | hc
      · exact absurd hc (by decide)
      · exact h.query query hquery '#' (by decide) hc
    · exact absurd hc List.not_mem_nil

theorem fragmentOf_write (h : u.Separable) : fragmentOf u.write = u.fragment := by
  rw [fragmentOf, toList_write, List.dropWhile_append_of_pos h.ne_of_mem_front]
  unfold writeFragment
  cases u.fragment <;> rfl

theorem queryOf_write (h : u.Separable) : queryOf u.write = u.query := by
  have hfragment : u.writeFragment.takeWhile (· != '#') = [] := by
    unfold writeFragment
    cases u.fragment <;> rfl
  have hfront : ∀ c ∈ u.writeFront, (c != '?') = true := by
    intro c hc
    rw [bne_iff_ne]
    rintro rfl
    exact absurd (h.unmarked_writeFront _ hc) (by decide)
  rw [queryOf, toList_write, List.takeWhile_append_of_pos h.ne_of_mem_front, hfragment,
    List.append_nil, List.dropWhile_append_of_pos hfront]
  unfold writeQuery
  cases u.query <;> rfl

/-- A URL is written on one line. -/
theorem newline_not_mem_write (h : u.Separable) : '\n' ∉ u.write.toList := by
  have hfront : '\n' ∉ u.writeFront := fun hmem => absurd (h.unmarked_writeFront _ hmem) (by decide)
  have hquery : '\n' ∉ u.writeQuery := by
    unfold writeQuery
    split
    · next query hquery => simpa using h.query query hquery '\n' (by decide)
    · exact List.not_mem_nil
  have hfragment : '\n' ∉ u.writeFragment := by
    unfold writeFragment
    split
    · next fragment hfragment => simpa using h.fragment fragment hfragment
    · exact List.not_mem_nil
  rw [toList_write, List.mem_append, List.mem_append]
  exact not_or.2 ⟨not_or.2 ⟨hfront, hquery⟩, hfragment⟩

end Separable

theorem Separable.appendPair {u : Url} (h : u.Separable) (name value : String) :
    (u.appendPair name value).Separable :=
  { h with
    query := by
      intro query hquery c hc
      cases hquery
      refine Form.not_mem_appendPair hc ?_
      cases hearlier : u.query with
      | none => exact List.not_mem_nil
      | some earlier => exact h.query earlier hearlier c hc }

end GeckScript.Url
