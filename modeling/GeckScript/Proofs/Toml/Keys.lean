import GeckScript.Proofs.Toml.Tables
import GeckScript.Toml.Document

/-!
No table of a document that can be read has a key twice. A value is put into a table only where its
key is new, and a header opens a table or adds to one that it may add to, so each line keeps the
keys apart; what is read between brackets and braces is put together in the same way.
-/

namespace GeckScript.Toml

/-! ### What a step yields -/

/-- Whatever a step finds has a property. -/
def Scan.Yields {α : Type} (P : α → Prop) (step : Scan α) : Prop :=
  ∀ r a r', step r = .ok (a, r') → P a

namespace Scan

variable {α β : Type} {P : α → Prop} {Q : β → Prop} {step : Scan α}

theorem yields_pure {a : α} (h : P a) : Yields P (pure a : Scan α) := by
  rintro _ _ _ ⟨⟩
  exact h

theorem Yields.bind {next : α → Scan β} (hstep : Yields P step)
    (hnext : ∀ a, P a → Yields Q (next a)) : Yields Q (step >>= next) := by
  intro r b r' h
  simp only [Bind.bind, StateT.bind] at h
  cases hr : step r with
  | error fault =>
    rw [hr] at h
    cases h
  | ok found =>
    rw [hr] at h
    exact hnext found.1 (hstep r found.1 found.2 hr) found.2 b r' h

theorem yields_true (step : Scan α) : Yields (fun _ => True) step :=
  fun _ _ _ _ => trivial

/-- What is behind a step may have a property whatever the step finds. -/
theorem yields_bind {next : α → Scan β} (hnext : ∀ a, Yields Q (next a)) :
    Yields Q (step >>= next) :=
  (yields_true step).bind fun a _ => hnext a

theorem yields_failAt (offset : Nat) (final : Bool) : Yields P (failAt offset final) := by
  rintro _ _ _ ⟨⟩

theorem yields_fail : Yields P (fail : Scan α) :=
  yields_bind fun offset => yields_failAt offset false

theorem Yields.commit (h : Yields P step) : Yields P (commit step) := by
  intro r a r' hr
  unfold Scan.commit at hr
  split at hr
  · next hfound =>
    cases hr
    exact h r a r' hfound
  · cases hr

theorem Yields.optional (h : Yields P step) :
    Yields (fun found => ∀ a ∈ found, P a) (optional step) := by
  intro r found r' hr
  unfold Scan.optional at hr
  split at hr
  · next hfound =>
    cases hr
    rintro _ ⟨⟩
    exact h _ _ _ hfound
  · split at hr
    · cases hr
    · cases hr
      nofun

theorem Yields.orElse {second : Scan α} (h : Yields P step) (hsecond : Yields P second) :
    Yields P (orElse step second) := by
  intro r a r' hr
  unfold Scan.orElse at hr
  split at hr
  · next hfound =>
    cases hr
    exact h _ _ _ hfound
  · split at hr
    · cases hr
    · exact hsecond _ _ _ hr

theorem Yields.more (h : Yields P step) (separator : String) (n : Nat) :
    Yields (fun found => ∀ a ∈ found, P a) (more separator step n) := by
  -- on the bound of the loop, which ends where no separator follows
  induction n with
  | zero => exact yields_pure (by simp)
  | succ n ih =>
    refine (Yields.optional (yields_bind fun _ => h)).bind fun found hfound => ?_
    cases found with
    | none => exact yields_pure (by simp)
    | some a =>
      refine ih.bind fun rest hrest => yields_pure ?_
      exact List.forall_mem_cons.2 ⟨hfound a rfl, hrest⟩

theorem Yields.separated (h : Yields P step) (separator : String) :
    Yields (fun found => ∀ a ∈ found, P a) (separated separator step) := by
  refine h.bind fun first hfirst => yields_bind fun left => ?_
  refine (h.more separator _).bind fun rest hrest => yields_pure ?_
  exact List.forall_mem_cons.2 ⟨hfirst, hrest⟩

end Scan

open Scan

/-! ### Values -/

theorem keyed_getD {α : Type} {P : α → Prop} {found : Option (List α)}
    (h : ∀ items ∈ found, ∀ a ∈ items, P a) : ∀ a ∈ found.getD [], P a := by
  cases found with
  | none => nofun
  | some items => exact h items rfl

theorem yields_keyValue {value : Scan Value} (hvalue : Yields Value.Keyed value)
    (after : Scan Unit) : Yields (fun entry => entry.2.Keyed) (keyValue value after) :=
  yields_bind fun _ => Yields.commit <| yields_bind fun _ => yields_bind fun _ =>
    hvalue.bind fun _ hv => yields_bind fun _ => yields_pure hv

theorem yields_array {value : Scan Value} (hvalue : Yields Value.Keyed value) :
    Yields Value.Keyed (array value) := by
  have hitem : Yields Value.Keyed (do layout; let v ← value; layout; return v) :=
    yields_bind fun _ => hvalue.bind fun _ hv => yields_bind fun _ => yields_pure hv
  unfold array
  refine yields_bind fun _ => yields_bind fun r => ?_
  split
  · exact yields_bind fun _ => yields_pure (.array nofun)
  · refine (hitem.separated ",").optional.bind fun found hfound => ?_
    -- a comma behind the last item changes nothing
    have hend : Yields Value.Keyed (do
        layout
        commit (expect "]")
        return Value.array (found.getD [])) :=
      yields_bind fun _ => yields_bind fun _ => yields_pure (.array (keyed_getD hfound))
    dsimp only
    split
    · exact yields_bind fun _ => hend
    · exact hend

theorem keyed_of_tableOf {entries : List (Key × Value)} {t t' : Table}
    (hentries : ∀ entry ∈ entries, entry.2.Keyed) (ht : t.Keyed)
    (h : tableOf entries t = some t') : t'.Keyed := by
  induction entries generalizing t with
  | nil =>
    cases h
    exact ht
  | cons entry rest ih =>
    obtain ⟨k, v⟩ := entry
    rw [List.forall_mem_cons] at hentries
    obtain ⟨inner, hinner, hrest⟩ := Option.bind_eq_some_iff.1 h
    exact ih hentries.2 (Table.keyed_of_insert hentries.1 ht hinner) hrest

theorem yields_inlineTable {value : Scan Value} (hvalue : Yields Value.Keyed value) :
    Yields Value.Keyed (inlineTable value) := by
  unfold inlineTable
  refine yields_bind fun _ => yields_bind fun start => ?_
  refine ((yields_keyValue hvalue blanks).separated ",").optional.bind fun found hfound => ?_
  refine yields_bind fun _ => ?_
  split
  · exact yields_failAt start false
  · next t htable =>
    have ht := (keyed_of_tableOf (keyed_getD hfound) .nil htable).entriesToValues
    exact yields_bind fun _ => yields_pure (.table ht.nodup ht.values)

theorem yields_numeral : Yields Value.Keyed numeral :=
  Yields.orElse (yields_bind fun t => yields_pure (.dateTime t))
    (Yields.orElse (yields_bind fun x => yields_pure (.float x))
      (yields_bind fun n => yields_pure (.integer n)))

theorem yields_word {v : Value} (letters : String) (hv : v.Keyed) :
    Yields Value.Keyed (word letters v) :=
  Yields.commit (yields_bind fun _ => yields_pure hv)

theorem yields_inside {nested : Option (Scan Value)} {compound : Scan Value → Scan Value} :
    (∀ value ∈ nested, Yields Value.Keyed (compound value)) →
      Yields Value.Keyed (match nested with
        | some value => compound value
        | none => do failAt (← position) true) := by
  cases nested with
  | none => exact fun _ => yields_bind fun offset => yields_failAt offset true
  | some value => exact fun h => h value rfl

theorem yields_valueOver {nested : Option (Scan Value)}
    (h : ∀ value ∈ nested, Yields Value.Keyed value) : Yields Value.Keyed (valueOver nested) := by
  unfold valueOver
  refine yields_bind fun c => ?_
  split
  · exact yields_bind fun s => yields_pure (.text s)
  · exact yields_bind fun s => yields_pure (.text s)
  · exact yields_inside fun value hvalue => yields_array (h value hvalue)
  · exact yields_inside fun value hvalue => yields_inlineTable (h value hvalue)
  · exact yields_bind fun n => yields_pure (.integer n)
  · exact yields_bind fun x => yields_pure (.float x)
  · exact yields_word "true" (.boolean true)
  · exact yields_word "false" (.boolean false)
  · exact yields_bind fun x => yields_pure (.float x)
  · exact yields_bind fun x => yields_pure (.float x)
  · split
    · exact yields_numeral
    · exact yields_fail
  · exact yields_fail

theorem yields_valueWithin (depth : Nat) : Yields Value.Keyed (valueWithin depth) := by
  -- on the depth that is left; what is nested is read with less of it
  induction depth with
  | zero => exact yields_valueOver nofun
  | succ depth ih => exact yields_valueOver fun _ hvalue => Option.some.inj hvalue ▸ ih

/-! ### Lines -/

namespace Document

def Keyed (d : Document) : Prop :=
  d.root.Keyed

variable {d : Document}

theorem yields_accept {change : Option Document} (start : Nat)
    (h : ∀ d ∈ change, d.Keyed) : Yields Keyed (accept change start) := by
  cases change with
  | none => exact yields_failAt start true
  | some d => exact yields_pure (h d rfl)

theorem keyed_of_map {change : Option Table} {header : List String}
    (h : ∀ t, change = some t → t.Keyed) :
    ∀ d ∈ change.map (fun root => Document.mk root header), d.Keyed := by
  intro d hd
  obtain ⟨t, ht, rfl⟩ := Option.map_eq_some_iff.1 hd
  exact h t ht

theorem yields_readKeyValue (hd : d.Keyed) : Yields Keyed d.readKeyValue := by
  unfold readKeyValue
  refine yields_bind fun start => ?_
  refine (yields_keyValue (yields_valueWithin maxDepth) lineRest).commit.bind fun entry hv => ?_
  exact yields_accept start (keyed_of_map fun _ => Table.keyed_of_insertUnder hv hd)

theorem yields_readHeader (hd : d.Keyed) : Yields Keyed d.readHeader := by
  have hopened (isElement : Bool) (k : Key) (start : Nat) : Yields Keyed (accept
      ((if isElement then d.root.openElement k.path k.name else d.root.openTable k.path k.name).map
        fun root => ⟨root, k.path ++ [k.name]⟩) start) := by
    refine yields_accept start (keyed_of_map fun t ht => ?_)
    split at ht
    · exact Table.keyed_of_openElement hd ht
    · exact Table.keyed_of_openTable hd ht
  have hbrackets (start : Nat) : Yields Keyed (do
      let isElement := (← get).startsWith "[["
      Scan.advance (if isElement then 2 else 1)
      let k ← key
      Scan.expect (if isElement then "]]" else "]")
      lineRest
      let change := if isElement then d.root.openElement k.path k.name
        else d.root.openTable k.path k.name
      accept (change.map fun root => ⟨root, k.path ++ [k.name]⟩) start) :=
    yields_bind fun _ => yields_bind fun _ => yields_bind fun k => yields_bind fun _ =>
      yields_bind fun _ => hopened _ k start
  unfold readHeader
  refine Yields.commit (yields_bind fun start => yields_bind fun chars => ?_)
  dsimp only
  -- what is behind a failing step is the same as without it
  split
  · exact yields_bind fun _ => hbrackets start
  · exact hbrackets start

theorem yields_readLine (hd : d.Keyed) : Yields Keyed d.readLine := by
  unfold readLine
  refine yields_bind fun c => ?_
  split
  · exact yields_bind fun _ => yields_pure hd
  · exact yields_readHeader hd
  · exact yields_bind fun _ => yields_pure hd
  · exact yields_bind fun _ => yields_pure hd
  · exact yields_readKeyValue hd

theorem yields_readLines (n : Nat) (hd : d.Keyed) : Yields Keyed (readLines n d) := by
  induction n generalizing d with
  | zero => exact yields_pure hd
  | succ n ih =>
    unfold readLines
    refine yields_bind fun _ => yields_bind fun r => ?_
    split
    · exact yields_pure hd
    · exact (yields_readLine hd).bind fun _ hnext => ih hnext

end Document

theorem yields_document : Yields Document.Keyed document := by
  have hlines : Yields Document.Keyed (do
      Document.readLines ((← rest).length + 1) .empty) :=
    yields_bind fun _ => Document.yields_readLines _ .nil
  unfold document
  refine yields_bind fun r => ?_
  dsimp only
  split
  · exact yields_bind fun _ => hlines
  · exact hlines

theorem keyed_of_parse {source : String} {entries : Entries Value}
    (h : parse source = .ok entries) : Entries.Keyed Value.Keyed entries := by
  rw [parse] at h
  split at h
  · next d r hdocument =>
    cases h
    exact (yields_document _ d r hdocument).entriesToValues
  · cases h

end GeckScript.Toml
