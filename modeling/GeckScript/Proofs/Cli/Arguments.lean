import GeckScript.Cli.Arguments

/-!
Commands that take the same options and operands read their arguments alike. They accept the same
arguments with the same result, find the same fault in the others, and show help for the same ones;
only the text of the help is their own.
-/

namespace GeckScript.Cli

structure CommandForm.Alike (form other : CommandForm) : Prop where
  operand : form.operand = other.operand
  options : form.options = other.options

/-- Results of reading the same arguments by two forms. -/
inductive SameReading {α : Type} (form other : CommandForm) : Except Stop α → Except Stop α → Prop
  | read (a : α) : SameReading form other (.ok a) (.ok a)
  | help : SameReading form other (.error (.help form.help)) (.error (.help other.help))
  | usage (e : UsageError) : SameReading form other (.error (.usage e)) (.error (.usage e))

namespace SameReading

variable {α β : Type} {form other : CommandForm}

theorem of_usage (result : Except UsageError α) :
    SameReading form other (Cli.usage result) (Cli.usage result) := by
  cases result with
  | ok a => exact .read a
  | error e => exact .usage e

theorem bind {x y : Except Stop α} {f g : α → Except Stop β} (h : SameReading form other x y)
    (hnext : ∀ a, SameReading form other (f a) (g a)) :
    SameReading form other (x >>= f) (y >>= g) := by
  cases h with
  | read a => exact hnext a
  | help => exact .help
  | usage e => exact .usage e

theorem stopForHelp (p : Progress) :
    SameReading form other (p.stopForHelp form) (p.stopForHelp other) := by
  unfold Progress.stopForHelp
  split
  · exact .help
  · exact .usage _

end SameReading

namespace CommandForm.Alike

variable {form other : CommandForm}

theorem takeOperand_eq (h : form.Alike other) (p : Progress) :
    p.takeOperand form = p.takeOperand other := by
  unfold Progress.takeOperand
  rw [h.operand]

theorem readLong (h : form.Alike other) (p : Progress) (text : List Char) :
    SameReading form other (readLong form p text) (readLong other p text) := by
  unfold Cli.readLong
  rw [h.options]
  dsimp only
  split
  · exact .usage _
  · split
    · exact .usage _
    · exact .of_usage _
  · split
    · exact .stopForHelp p
    · split <;> exact .of_usage _

theorem readLetters (h : form.Alike other) (p : Progress) (letters : List Char) :
    SameReading form other (readLetters form p letters) (readLetters other p letters) := by
  induction letters generalizing p with
  | nil => exact .read p
  | cons c rest ih =>
    rw [Cli.readLetters.eq_def, Cli.readLetters.eq_def other]
    dsimp only
    rw [h.options]
    split
    · exact .usage _
    · split
      · exact .stopForHelp p
      · split
        · exact .bind (.of_usage _) ih
        · split <;> exact .of_usage _

theorem readArguments (h : form.Alike other) (p : Progress) (args : List String) :
    SameReading form other (readArguments form p args) (readArguments other p args) := by
  induction args generalizing p with
  | nil => exact .of_usage _
  | cons text rest ih =>
    rw [Cli.readArguments.eq_def, Cli.readArguments.eq_def other]
    dsimp only
    simp only [h.takeOperand_eq]
    split
    · exact .bind (.of_usage _) fun q => .of_usage _
    · exact .bind (h.readLong p _) ih
    · exact .bind (h.readLetters p _) ih
    · split
      · exact ih _
      · exact .bind (.of_usage _) ih

theorem read (h : form.Alike other) (args : List String) :
    SameReading form other (form.read args) (other.read args) := by
  unfold CommandForm.read
  refine .bind (h.readArguments .start args) fun a => ?_
  rw [h.operand]
  split
  · exact .usage _
  · exact .read a

end CommandForm.Alike

end GeckScript.Cli
