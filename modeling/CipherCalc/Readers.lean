import CipherCalc.Readers.Arguments
import CipherCalc.Readers.Document
import CipherCalc.Readers.Input

/-!
# Readers

A choice of readers with which the program can be run: for arguments, for
settings documents, and for a standard input that is not a terminal.

The program is not tied to them.  What is shown of it holds with any readers that
keep the laws it relies on; these readers keep them too (`readsOptions_standard`,
`readsDocuments_standard`, `takesLines_piped`).
-/

namespace CipherCalc.CommandLine

/-- The readers of this library. -/
def Readers.standard : Readers where
  options arguments := (Options.ofArguments arguments).mapError Refusal.outcome
  settings? := Settings.ofDocument?
  lineReader _ := .piped

end CipherCalc.CommandLine
