import GeckScript.Cli.Run

/-!
The launcher that is found on the search path: an executable file of the most preferred name that
any has, and of these the first on the path.
-/

namespace GeckScript.Cli

variable {files : List PathFile} {f : PathFile}

def NoLauncher (files : List PathFile) : Prop :=
  ∀ f ∈ files, f.isExecutable → f.name ∉ launcherNames

/-- The file that opens pages. No executable file has a more preferred name, and none of its own
name stands in front. -/
structure IsFirstLauncher (files : List PathFile) (f : PathFile) : Prop where
  isExecutable : f.isExecutable
  preferred : ∃ front back, launcherNames = front ++ f.name :: back ∧
    ∀ other ∈ files, other.isExecutable → other.name ∉ front
  first : ∃ front back, files = front ++ f :: back ∧
    ∀ other ∈ front, other.isExecutable → other.name ≠ f.name

theorem find?_programsOn (files : List PathFile) (name : String) :
    (programsOn files).find? (·.name == name) =
      (files.find? fun f => f.isExecutable && f.name == name).map PathFile.toProgram := by
  rw [programsOn, List.find?_map, List.find?_filter]
  congr 2
  funext f
  exact Bool.eq_iff_iff.2 (by simp [PathFile.toProgram])

theorem find?_programsOn_eq_none_iff {name : String} :
    (programsOn files).find? (·.name == name) = none ↔
      ∀ f ∈ files, f.isExecutable → f.name ≠ name := by
  simp [find?_programsOn]

theorem launcher?_programsOn_eq_none_iff :
    launcher? (programsOn files) = none ↔ NoLauncher files := by
  rw [launcher?, List.findSome?_eq_none_iff]
  simp only [find?_programsOn_eq_none_iff]
  constructor
  · intro h f hf hexecutable hname
    exact h f.name hname f hf hexecutable rfl
  · rintro h _ hname f hf hexecutable rfl
    exact h f hf hexecutable hname

theorem launcher?_programsOn_eq_some_iff {p : Program} :
    launcher? (programsOn files) = some p ↔ ∃ f, IsFirstLauncher files f ∧ p = f.toProgram := by
  rw [launcher?, List.findSome?_eq_some_iff]
  simp only [find?_programsOn_eq_none_iff]
  constructor
  · -- no file has a name that is preferred, and of those with this one it is the first
    rintro ⟨preferred, name, others, hnames, hfind, hnone⟩
    rw [find?_programsOn, Option.map_eq_some_iff] at hfind
    obtain ⟨f, hfind, rfl⟩ := hfind
    obtain ⟨hf, front, back, hfiles, hfront⟩ := List.find?_eq_some_iff_append.1 hfind
    rw [Bool.and_eq_true, beq_iff_eq] at hf
    obtain ⟨hexecutable, rfl⟩ := hf
    refine ⟨f, ⟨hexecutable, ⟨preferred, others, hnames, ?_⟩, front, back, hfiles, ?_⟩, rfl⟩
    · intro other hother hexecutable hmem
      exact hnone other.name hmem other hother hexecutable rfl
    · intro other hother hexecutable
      simpa [hexecutable] using hfront other hother
  · rintro ⟨f, ⟨hexecutable, ⟨preferred, others, hnames, hnone⟩, front, back, hfiles, hfront⟩, rfl⟩
    refine ⟨preferred, f.name, others, hnames, ?_, ?_⟩
    · rw [find?_programsOn, Option.map_eq_some_iff]
      have hfound : files.find? (fun g => g.isExecutable && g.name == f.name) = some f := by
        refine List.find?_eq_some_iff_append.2 ⟨by simp [hexecutable], front, back, hfiles, ?_⟩
        intro other hother
        by_cases hother' : other.isExecutable
        · simpa [hother'] using hfront other hother hother'
        · simp [hother']
      exact ⟨f, hfound, rfl⟩
    · rintro _ hmem other hother hexecutable rfl
      exact hnone other hother hexecutable hmem

theorem exists_isFirstLauncher_iff : (∃ f, IsFirstLauncher files f) ↔ ¬ NoLauncher files := by
  rw [← launcher?_programsOn_eq_none_iff, ← ne_eq, Option.ne_none_iff_exists']
  simp only [launcher?_programsOn_eq_some_iff]
  constructor
  · rintro ⟨f, hf⟩
    exact ⟨_, f, hf, rfl⟩
  · rintro ⟨_, f, hf, rfl⟩
    exact ⟨f, hf⟩

end GeckScript.Cli
