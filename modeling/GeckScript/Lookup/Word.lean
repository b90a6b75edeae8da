import GeckScript.Regex.Match

/-!
The words of a line. A word is a run of word characters and hyphens, which is what an identifier of
a GECK script looks like; other patterns for words can be given.
-/

namespace GeckScript

open Regex

def wordSource : String :=
  "[\\w\\-]+"

def wordRegex : Expr :=
  .plus true (.one (.union .word (.literal '-')))

/-- The word in a selected text: the first in it, provided that the text has no blank. -/
def candidateIn (word : Expr) (text : String) : Option String :=
  if text.isEmpty || text.toList.any Text.isBlank then none
  else (word.find text.toList).map Found.text

/-- The first word that the cursor touches, also at the word's end. A column behind the line counts
as the end of the line. -/
def wordAt (word : Expr) (line : String) (column : Nat) : Option String :=
  let column := min column line.length
  let touches (m : Found) := m.start.column ≤ column && column ≤ m.stop.column
  ((word.findAll line.toList).find? touches).map Found.text

/-- A selection in a document: the selected text, or a cursor in a line if nothing is selected. -/
structure Selection where
  text : String
  line : String
  column : Nat
  deriving Repr, DecidableEq

namespace Selection

def ofText (text : String) : Selection :=
  ⟨text, "", 0⟩

def ofCursor (line : String) (column : Nat) : Selection :=
  ⟨"", line, column⟩

def candidate (word : Expr) (s : Selection) : Option String :=
  if s.text.isEmpty then wordAt word s.line s.column else candidateIn word s.text

end Selection

end GeckScript
