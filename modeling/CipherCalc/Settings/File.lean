import CipherCalc.Files
import CipherCalc.Settings

/-!
# Settings files

Settings are loaded from a file that holds a settings document.  A file that
cannot be read and a document that is not well formed are told apart.
-/

namespace CipherCalc.Settings

/-- Why no settings could be loaded. -/
inductive LoadError where
  | unreadable (path : String)
  | invalid (path : String)
  deriving DecidableEq

/-- The sentence that reports a failure. -/
def LoadError.message : LoadError → String
  | .unreadable path => "cannot read config file " ++ path
  | .invalid path => "invalid config file " ++ path

/-- The settings in a file, from what reading it gave and a reader of settings
documents. -/
def ofFile (settings? : String → Option Settings) (path : String)
    (content : Except FileError String) : Except LoadError Settings :=
  match content with
  | .error _ => .error (.unreadable path)
  | .ok document =>
      match settings? document with
      | none => .error (.invalid path)
      | some settings => .ok settings

end CipherCalc.Settings
