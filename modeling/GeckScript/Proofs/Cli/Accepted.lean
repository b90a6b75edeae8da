import GeckScript.Cli.Invocation
import GeckScript.Proofs.Basic

/-!
The arguments that a form accepts. They are made by taking one option of the form or one operand
after the other, which bounds what can be among them, and they are read alike behind an option that
is not among them.
-/

namespace GeckScript.Cli

theorem usage_eq_ok_iff {α : Type} {x : Except UsageError α} {a : α} :
    usage x = .ok a ↔ x = .ok a :=
  mapError_eq_ok_iff

theorem Arguments.accept_eq_ok_iff {a b : Arguments} {o : OptionForm} {value : String} :
    a.accept o value = .ok b ↔
      (o.kind = .texts ∨ a.has o.name = false) ∧
        (o.kind = .number → ∃ n, readNumber value = .ok n) ∧
        b = { a with options := a.options ++ [(o.name, value)] } := by
  rw [@eq_comm _ b]
  unfold Arguments.accept
  cases a.has o.name <;> cases o.kind <;> cases readNumber value <;> simp

/-- What is not among the arguments with an option taken was not among them before. -/
theorem Arguments.has_eq_false_of_accept {a b : Arguments} {o : OptionForm} {value name : String}
    (h : a.accept o value = .ok b) (hname : b.has name = false) :
    a.has name = false ∧ o.name ≠ name := by
  obtain ⟨-, -, rfl⟩ := accept_eq_ok_iff.1 h
  simpa [has] using hname

/-! ### Taking options and operands -/

/-- What arguments become when options and operands are taken behind them. -/
inductive Takes (form : CommandForm) (a : Arguments) : Arguments → Prop
  | refl : Takes form a a
  | option {b c : Arguments} {o : OptionForm} {value : String} :
    Takes form a b → o ∈ form.options → b.accept o value = .ok c → Takes form a c
  | operand {b : Arguments} {text : String} :
    Takes form a b → form.operand.any (fun o => o.many || b.operands.isEmpty) →
      Takes form a { b with operands := b.operands ++ [text] }

theorem Takes.trans {form : CommandForm} {a b c : Arguments} (hab : Takes form a b)
    (hbc : Takes form b c) : Takes form a c := by
  induction hbc with
  | refl => exact hab
  | option _ ho haccept ih => exact .option ih ho haccept
  | operand _ hroom ih => exact .operand ih hroom

theorem Takes.has_eq_false {form : CommandForm} {a b : Arguments} {name : String}
    (h : Takes form a b) (hname : b.has name = false) : a.has name = false := by
  induction h with
  | refl => exact hname
  | option _ _ haccept ih => exact ih (Arguments.has_eq_false_of_accept haccept hname).1
  | operand _ _ ih => exact ih hname

/-- An option is pending only if the form has it. -/
def Progress.Fits (form : CommandForm) (p : Progress) : Prop :=
  ∀ pending ∈ p.pending, pending.1 ∈ form.options

/-- What is read between two states of reading is taken behind what was read before. -/
structure Progress.ReadsTo (form : CommandForm) (p q : Progress) : Prop where
  takes : Takes form p.arguments q.arguments
  fits : q.Fits form

theorem mem_options_of_find? {form : CommandForm} {p : OptionForm → Bool} {o : OptionForm}
    (h : (form.options ++ [helpOption]).find? p = some o) (hne : o ≠ helpOption) :
    o ∈ form.options := by
  have hmem := List.mem_of_find?_eq_some h
  rw [List.mem_append, List.mem_singleton] at hmem
  exact hmem.resolve_right hne

theorem Progress.not_ok_stopForHelp {p q : Progress} {form : CommandForm} :
    p.stopForHelp form ≠ .ok q := by
  unfold Progress.stopForHelp
  split <;> nofun

section Reading

variable {form : CommandForm} {p q : Progress} {a : Arguments}

namespace Progress

theorem settle_operands (h : p.settle = .ok a) : a.operands = p.arguments.operands := by
  unfold settle at h
  split at h
  · cases h
    rfl
  · cases h
  · obtain ⟨-, -, rfl⟩ := Arguments.accept_eq_ok_iff.1 h
    rfl

theorem takes_of_settle (hp : p.Fits form)
    (h : p.settle = .ok a) : Takes form p.arguments a := by
  unfold settle at h
  split at h
  · cases h
    exact .refl
  · cases h
  · next o value hpending => exact .option .refl (hp _ hpending) h

theorem readsTo_of_takeOption {o : OptionForm} {value : String}
    (hp : p.Fits form) (ho : o ∈ form.options)
    (h : p.takeOption o value = .ok q) : p.ReadsTo form q := by
  obtain ⟨settled, hsettle, h⟩ := bind_eq_ok_iff.1 h
  obtain ⟨taken, htaken, h⟩ := bind_eq_ok_iff.1 h
  cases h
  exact ⟨.option (takes_of_settle hp hsettle) ho htaken, nofun⟩

theorem readsTo_of_awaitValue {o : OptionForm}
    (hp : p.Fits form) (ho : o ∈ form.options)
    (h : p.awaitValue o = .ok q) : p.ReadsTo form q := by
  obtain ⟨settled, hsettle, h⟩ := bind_eq_ok_iff.1 h
  cases h
  refine ⟨takes_of_settle hp hsettle, ?_⟩
  rintro _ ⟨⟩
  exact ho

theorem readsTo_of_takeOperand {text : String}
    (hp : p.Fits form)
    (h : p.takeOperand form text = .ok q) : p.ReadsTo form q := by
  unfold takeOperand at h
  dsimp only at h
  split at h
  · next hroom =>
    -- the room is looked for before the pending option is settled, which takes none
    obtain ⟨settled, hsettle, h⟩ := bind_eq_ok_iff.1 h
    cases h
    rw [← settle_operands hsettle] at hroom
    exact ⟨.operand (takes_of_settle hp hsettle) hroom, nofun⟩
  · cases h

theorem fits_of_pending {o : OptionForm} (hp : p.Fits form) (hpending : p.pending = some (o, none))
    (text : String) : Fits form { p with pending := some (o, some text) } := by
  rintro _ ⟨⟩
  exact hp (o, none) hpending

theorem ReadsTo.trans {r : Progress} (hpq : p.ReadsTo form q) (hqr : q.ReadsTo form r) :
    p.ReadsTo form r :=
  ⟨hpq.takes.trans hqr.takes, hqr.fits⟩

end Progress

theorem readsTo_of_readLong {text : List Char}
    (hp : p.Fits form)
    (h : readLong form p text = .ok q) : p.ReadsTo form q := by
  unfold readLong at h
  dsimp only at h
  -- the option may be none, or come with its value, or stand by itself
  split at h
  · cases h
  · next o value hfind _ =>
    split at h
    · cases h
    · next hkind =>
      have hne : o ≠ helpOption := by
        rintro rfl
        exact hkind rfl
      exact Progress.readsTo_of_takeOption hp (mem_options_of_find? hfind hne)
        (usage_eq_ok_iff.1 h)
  · next o hfind _ =>
    split at h
    · exact absurd h Progress.not_ok_stopForHelp
    · next hne =>
      have ho := mem_options_of_find? hfind hne
      split at h
      · exact Progress.readsTo_of_takeOption hp ho (usage_eq_ok_iff.1 h)
      · exact Progress.readsTo_of_awaitValue hp ho (usage_eq_ok_iff.1 h)

theorem readsTo_of_readLetters {letters : List Char}
    (hp : p.Fits form)
    (h : readLetters form p letters = .ok q) : p.ReadsTo form q := by
  induction letters generalizing p with
  | nil =>
    cases h
    exact ⟨.refl, hp⟩
  | cons c rest ih =>
    unfold readLetters at h
    split at h
    · cases h
    · next o hfind =>
      split at h
      · exact absurd h Progress.not_ok_stopForHelp
      next hne =>
      have ho := mem_options_of_find? hfind hne
      split at h
      · -- only behind a switch are there more letters, the others take what follows for a value
        obtain ⟨next, htake, h⟩ := bind_eq_ok_iff.1 h
        have hnext := Progress.readsTo_of_takeOption hp ho (usage_eq_ok_iff.1 htake)
        exact hnext.trans (ih hnext.fits h)
      · split at h
        · exact Progress.readsTo_of_awaitValue hp ho (usage_eq_ok_iff.1 h)
        · exact Progress.readsTo_of_takeOption hp ho (usage_eq_ok_iff.1 h)
        · exact Progress.readsTo_of_takeOption hp ho (usage_eq_ok_iff.1 h)

theorem readsTo_of_foldlM_takeOperand {texts : List String}
    (hp : p.Fits form)
    (h : texts.foldlM (·.takeOperand form) p = .ok q) : p.ReadsTo form q := by
  induction texts generalizing p with
  | nil =>
    cases h
    exact ⟨.refl, hp⟩
  | cons text rest ih =>
    rw [List.foldlM_cons] at h
    obtain ⟨next, htake, h⟩ := bind_eq_ok_iff.1 h
    have hnext := Progress.readsTo_of_takeOperand hp htake
    exact hnext.trans (ih hnext.fits h)

/-- Arguments that are read come from taking options and operands behind those read so far. -/
theorem takes_of_readArguments {args : List String}
    (hp : p.Fits form)
    (h : readArguments form p args = .ok a) : Takes form p.arguments a := by
  induction args generalizing p with
  | nil => exact Progress.takes_of_settle hp (usage_eq_ok_iff.1 h)
  | cons text rest ih =>
    have hon {q : Progress} (hq : p.ReadsTo form q) (h : readArguments form q rest = .ok a) :
        Takes form p.arguments a :=
      hq.takes.trans (ih hq.fits h)
    unfold readArguments at h
    split at h
    · obtain ⟨q, hfold, h⟩ := bind_eq_ok_iff.1 h
      have hq := readsTo_of_foldlM_takeOperand hp (usage_eq_ok_iff.1 hfold)
      exact hq.takes.trans (Progress.takes_of_settle hq.fits (usage_eq_ok_iff.1 h))
    · obtain ⟨q, hlong, h⟩ := bind_eq_ok_iff.1 h
      exact hon (readsTo_of_readLong hp hlong) h
    · obtain ⟨q, hletters, h⟩ := bind_eq_ok_iff.1 h
      exact hon (readsTo_of_readLetters hp hletters) h
    · split at h
      · next o hpending =>
        -- an awaited value is not taken before the option is settled
        have hrest := ih (Progress.fits_of_pending hp hpending text) h
        exact hrest
      · obtain ⟨q, htake, h⟩ := bind_eq_ok_iff.1 h
        exact hon (Progress.readsTo_of_takeOperand hp (usage_eq_ok_iff.1 htake)) h

theorem read_eq_ok_iff {args : List String} :
    form.read args = .ok a ↔
      readArguments form .start args = .ok a ∧
        (form.operand.any (·.many) → a.operands.isEmpty = false) := by
  rw [CommandForm.read, bind_eq_ok_iff]
  constructor
  · rintro ⟨b, hread, h⟩
    dsimp only at h
    split at h
    · cases h
    · next hoperands =>
      cases h
      exact ⟨hread, fun hmany => by simpa [hmany] using hoperands⟩
  · rintro ⟨hread, hoperands⟩
    refine ⟨a, hread, ?_⟩
    dsimp only
    rw [if_neg fun h => ?_]
    · rfl
    · rw [Bool.and_eq_true] at h
      simp [hoperands h.1] at h

theorem Progress.fits_start : Progress.start.Fits form := by
  rintro _ ⟨⟩

theorem takes_of_read {args : List String} (h : form.read args = .ok a) : Takes form ⟨[], []⟩ a :=
  takes_of_readArguments Progress.fits_start (read_eq_ok_iff.1 h).1

end Reading

/-! ### What can be among the arguments -/

namespace Takes

variable {form : CommandForm} {a : Arguments}

theorem operands_eq_toList {o : OperandForm} (hform : form.operand = some o)
    (hmany : o.many = false) (h : Takes form ⟨[], []⟩ a) :
    ∃ text : Option String, a.operands = text.toList := by
  induction h with
  | refl => exact ⟨none, rfl⟩
  | option _ _ haccept ih =>
    obtain ⟨-, -, rfl⟩ := Arguments.accept_eq_ok_iff.1 haccept
    exact ih
  | operand _ hroom _ =>
    have hempty := by simpa [hform, hmany] using hroom
    exact ⟨some _, congrArg (· ++ _) hempty⟩

/-- A number is given at most once. -/
theorem values_eq_toList {name : String}
    (hform : ∀ o ∈ form.options, o.name = name → o.kind = .number)
    (h : Takes form ⟨[], []⟩ a) :
    ∃ number : Option Nat,
      (a.values name).map readNumber = (number.map Except.ok).toList := by
  induction h with
  | refl => exact ⟨none, rfl⟩
  | @option b c o value _ ho haccept ih =>
    obtain ⟨hsingle, hnumber, rfl⟩ := Arguments.accept_eq_ok_iff.1 haccept
    by_cases hname : o.name = name
    · -- the name is new, so the value is the only one
      have hkind := hform o ho hname
      obtain ⟨n, hn⟩ := hnumber hkind
      have hnone : b.values name = [] := by
        have hhas := hsingle.resolve_left (by rw [hkind]; decide)
        simpa [Arguments.has, Arguments.values, hname] using hhas
      refine ⟨some n, ?_⟩
      rw [Arguments.values] at hnone ⊢
      simp [List.filter_append, hnone, hname, hn]
    · obtain ⟨number, ih⟩ := ih
      refine ⟨number, ?_⟩
      rw [← ih, Arguments.values, Arguments.values]
      simp [List.filter_append, hname]
  | operand _ _ ih => exact ih

end Takes

/-! ### Reading behind an option -/

def Arguments.behind (first : String × String) (a : Arguments) : Arguments :=
  { a with options := first :: a.options }

def Progress.behind (first : String × String) (p : Progress) : Progress :=
  { p with arguments := p.arguments.behind first }

@[simp] theorem Progress.behind_pending (first : String × String) (p : Progress) :
    (p.behind first).pending = p.pending :=
  rfl

section Behind

variable {form : CommandForm} {p q : Progress} {a b : Arguments} {first : String × String}

theorem Arguments.accept_behind {o : OptionForm} {value : String}
    (h : a.accept o value = .ok b) (hfirst : b.has first.1 = false) :
    (a.behind first).accept o value = .ok (b.behind first) := by
  have hne := (has_eq_false_of_accept h hfirst).2
  obtain ⟨hsingle, hnumber, rfl⟩ := accept_eq_ok_iff.1 h
  refine accept_eq_ok_iff.2 ⟨hsingle.imp_right fun hhas => ?_, hnumber, rfl⟩
  rw [has] at hhas ⊢
  simpa [behind, hhas] using hne.symm

namespace Progress

theorem settle_behind (h : p.settle = .ok a) (hfirst : a.has first.1 = false) :
    (p.behind first).settle = .ok (a.behind first) := by
  obtain ⟨arguments, pending⟩ := p
  rcases pending with - | ⟨o, - | value⟩
  · cases h
    rfl
  · cases h
  · exact Arguments.accept_behind h hfirst

theorem takeOption_behind {o : OptionForm} {value : String} (h : p.takeOption o value = .ok q)
    (hfirst : q.arguments.has first.1 = false) :
    (p.behind first).takeOption o value = .ok (q.behind first) := by
  obtain ⟨settled, hsettle, h⟩ := bind_eq_ok_iff.1 h
  obtain ⟨taken, htaken, h⟩ := bind_eq_ok_iff.1 h
  cases h
  have hsettled := (Arguments.has_eq_false_of_accept htaken hfirst).1
  exact bind_eq_ok_iff.2 ⟨_, settle_behind hsettle hsettled,
    bind_eq_ok_iff.2 ⟨_, Arguments.accept_behind htaken hfirst, rfl⟩⟩

theorem awaitValue_behind {o : OptionForm} (h : p.awaitValue o = .ok q)
    (hfirst : q.arguments.has first.1 = false) :
    (p.behind first).awaitValue o = .ok (q.behind first) := by
  obtain ⟨settled, hsettle, h⟩ := bind_eq_ok_iff.1 h
  cases h
  exact bind_eq_ok_iff.2 ⟨_, settle_behind hsettle hfirst, rfl⟩

theorem takeOperand_behind {text : String} (h : p.takeOperand form text = .ok q)
    (hfirst : q.arguments.has first.1 = false) :
    (p.behind first).takeOperand form text = .ok (q.behind first) := by
  unfold takeOperand at h ⊢
  dsimp only at h ⊢
  split at h
  · next hroom =>
    obtain ⟨settled, hsettle, h⟩ := bind_eq_ok_iff.1 h
    cases h
    rw [if_pos (by exact hroom)]
    exact bind_eq_ok_iff.2 ⟨_, settle_behind hsettle hfirst, rfl⟩
  · cases h

end Progress

theorem readLong_behind {text : List Char} (h : readLong form p text = .ok q)
    (hfirst : q.arguments.has first.1 = false) :
    readLong form (p.behind first) text = .ok (q.behind first) := by
  revert h
  unfold readLong
  dsimp only
  split
  · nofun
  · split
    · nofun
    · intro h
      exact usage_eq_ok_iff.2 (Progress.takeOption_behind (usage_eq_ok_iff.1 h) hfirst)
  · split
    · intro h
      exact absurd h Progress.not_ok_stopForHelp
    · split
      · intro h
        exact usage_eq_ok_iff.2 (Progress.takeOption_behind (usage_eq_ok_iff.1 h) hfirst)
      · intro h
        exact usage_eq_ok_iff.2 (Progress.awaitValue_behind (usage_eq_ok_iff.1 h) hfirst)

theorem readLetters_behind {letters : List Char} (hp : p.Fits form)
    (h : readLetters form p letters = .ok q) (hfirst : q.arguments.has first.1 = false) :
    readLetters form (p.behind first) letters = .ok (q.behind first) := by
  induction letters generalizing p with
  | nil =>
    cases h
    rfl
  | cons c rest ih =>
    revert h
    rw [readLetters.eq_def, readLetters.eq_def form (p.behind first)]
    dsimp only
    split
    · nofun
    · next o hfind =>
      split
      · intro h
        exact absurd h Progress.not_ok_stopForHelp
      next hne =>
      split
      · intro h
        obtain ⟨next, htake, h⟩ := bind_eq_ok_iff.1 h
        rw [usage_eq_ok_iff] at htake
        -- what is read behind the letter only adds to the options
        have hfits := Progress.readsTo_of_takeOption hp (mem_options_of_find? hfind hne) htake
        have hnext := (readsTo_of_readLetters hfits.fits h).takes.has_eq_false hfirst
        exact bind_eq_ok_iff.2 ⟨_, usage_eq_ok_iff.2 (Progress.takeOption_behind htake hnext),
          ih hfits.fits h⟩
      · split
        · intro h
          exact usage_eq_ok_iff.2 (Progress.awaitValue_behind (usage_eq_ok_iff.1 h) hfirst)
        · intro h
          exact usage_eq_ok_iff.2 (Progress.takeOption_behind (usage_eq_ok_iff.1 h) hfirst)
        · intro h
          exact usage_eq_ok_iff.2 (Progress.takeOption_behind (usage_eq_ok_iff.1 h) hfirst)

theorem foldlM_takeOperand_behind {texts : List String} (hp : p.Fits form)
    (h : texts.foldlM (·.takeOperand form) p = .ok q) (hfirst : q.arguments.has first.1 = false) :
    texts.foldlM (·.takeOperand form) (p.behind first) = .ok (q.behind first) := by
  induction texts generalizing p with
  | nil =>
    cases h
    rfl
  | cons text rest ih =>
    rw [List.foldlM_cons] at h ⊢
    obtain ⟨next, htake, h⟩ := bind_eq_ok_iff.1 h
    have hfits := Progress.readsTo_of_takeOperand hp htake
    have hnext := (readsTo_of_foldlM_takeOperand hfits.fits h).takes.has_eq_false hfirst
    exact bind_eq_ok_iff.2 ⟨_, Progress.takeOperand_behind htake hnext, ih hfits.fits h⟩

/-- Arguments are read alike behind an option that is not among them. -/
theorem readArguments_behind {args : List String} (hp : p.Fits form)
    (h : readArguments form p args = .ok a) (hfirst : a.has first.1 = false) :
    readArguments form (p.behind first) args = .ok (a.behind first) := by
  induction args generalizing p with
  | nil => exact usage_eq_ok_iff.2 (Progress.settle_behind (usage_eq_ok_iff.1 h) hfirst)
  | cons text rest ih =>
    -- what is read on only adds to the options, so `first` is not among those read so far
    have hon {q : Progress} (hq : p.ReadsTo form q) (h : readArguments form q rest = .ok a) :
        q.arguments.has first.1 = false ∧
          readArguments form (q.behind first) rest = .ok (a.behind first) :=
      ⟨(takes_of_readArguments hq.fits h).has_eq_false hfirst, ih hq.fits h⟩
    revert h
    rw [readArguments.eq_def, readArguments.eq_def form (p.behind first)]
    simp only [Progress.behind_pending]
    split
    · intro h
      obtain ⟨q, hfold, h⟩ := bind_eq_ok_iff.1 h
      rw [usage_eq_ok_iff] at hfold h
      have hfits := (readsTo_of_foldlM_takeOperand hp hfold).fits
      have hq := (Progress.takes_of_settle hfits h).has_eq_false hfirst
      exact bind_eq_ok_iff.2 ⟨_, usage_eq_ok_iff.2 (foldlM_takeOperand_behind hp hfold hq),
        usage_eq_ok_iff.2 (Progress.settle_behind h hfirst)⟩
    · intro h
      obtain ⟨q, hlong, h⟩ := bind_eq_ok_iff.1 h
      obtain ⟨hq, hrest⟩ := hon (readsTo_of_readLong hp hlong) h
      exact bind_eq_ok_iff.2 ⟨_, readLong_behind hlong hq, hrest⟩
    · intro h
      obtain ⟨q, hletters, h⟩ := bind_eq_ok_iff.1 h
      obtain ⟨hq, hrest⟩ := hon (readsTo_of_readLetters hp hletters) h
      exact bind_eq_ok_iff.2 ⟨_, readLetters_behind hp hletters hq, hrest⟩
    · split
      · next o hpending =>
        intro h
        have hrest := ih (Progress.fits_of_pending hp hpending text) h
        exact hrest
      · intro h
        obtain ⟨q, htake, h⟩ := bind_eq_ok_iff.1 h
        rw [usage_eq_ok_iff] at htake
        obtain ⟨hq, hrest⟩ := hon (Progress.readsTo_of_takeOperand hp htake) h
        exact bind_eq_ok_iff.2 ⟨_, usage_eq_ok_iff.2 (Progress.takeOperand_behind htake hq), hrest⟩

end Behind

end GeckScript.Cli
