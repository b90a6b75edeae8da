import GeckScript.Grammar.Basic
import GeckScript.Main
import GeckScript.Proofs.Basic
import GeckScript.Proofs.Cli.Arguments
import GeckScript.Proofs.Cli.Flags
import GeckScript.Proofs.Cli.Groups
import GeckScript.Proofs.Cli.Lookup
import GeckScript.Proofs.Cli.Views
import GeckScript.Proofs.Editor.Failure
import GeckScript.Proofs.Editor.Lookups
import GeckScript.Proofs.Editor.Session
import GeckScript.Proofs.Editor.Switching
import GeckScript.Proofs.Grammar.Faults
import GeckScript.Proofs.Grammar.Gates
import GeckScript.Proofs.Grammar.Highlight
import GeckScript.Proofs.Grammar.History
import GeckScript.Proofs.Grammar.Json
import GeckScript.Proofs.Grammar.Names
import GeckScript.Proofs.Grammar.NumbersAndOperators
import GeckScript.Proofs.Grammar.Strings
import GeckScript.Proofs.Lookup.Candidate
import GeckScript.Proofs.Lookup.Column
import GeckScript.Proofs.Lookup.Page
import GeckScript.Proofs.Lookup.Word
import GeckScript.Proofs.Regex.Alignment
import GeckScript.Proofs.Regex.FirstMatch
import GeckScript.Proofs.Regex.Matching
import GeckScript.Proofs.Regex.Reading
import GeckScript.Proofs.Regex.Repetition
import GeckScript.Proofs.Regex.Scan
import GeckScript.Proofs.Regex.Words
import GeckScript.Proofs.Settings.Calls
import GeckScript.Proofs.Settings.Fields
import GeckScript.Proofs.Settings.Layers
import GeckScript.Proofs.Settings.Merging
import GeckScript.Proofs.Settings.Overrides
import GeckScript.Proofs.Text.CaseFold
import GeckScript.Proofs.Text.Utf8
import GeckScript.Proofs.Toml.Keys
import GeckScript.Proofs.Toml.Tables
import GeckScript.Proofs.Url.Form
import GeckScript.Proofs.Url.Hosts
import GeckScript.Proofs.Url.Parts
import GeckScript.Proofs.Vocabulary.CaseVariants
import GeckScript.Proofs.Vocabulary.Decoding
import GeckScript.Proofs.Vocabulary.Edges
import GeckScript.Proofs.Vocabulary.Identifiers
import GeckScript.Proofs.Vocabulary.LongestFirst
import GeckScript.Proofs.Vocabulary.Matches
import GeckScript.Proofs.Vocabulary.Source
import GeckScript.Proofs.Vocabulary.TokenSets
import GeckScript.Proofs.Vocabulary.WholeWords
