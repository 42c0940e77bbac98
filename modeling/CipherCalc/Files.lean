/-!
# Text files

Texts and settings may come from files.  `Directory` is a flat working directory
and `Directory.read` looks a path up in it.  `FileError` names the ways in which
reading can fail, with the messages of the operating system.
-/

namespace CipherCalc

/-- Why a file cannot be read as a text. -/
inductive FileError where
  | notFound
  | isDirectory
  | notDirectory
  | nameTooLong
  | nulInName
  | notText
  /-- Any other cause, in the words of the operating system. -/
  | other (message : String)
  deriving DecidableEq

/-- What is said of bytes that are not UTF-8. -/
def notTextMessage : String :=
  "stream did not contain valid UTF-8"

/-- The sentence that reports a failure. -/
def FileError.message : FileError → String
  | .notFound => "No such file or directory (os error 2)"
  | .isDirectory => "Is a directory (os error 21)"
  | .notDirectory => "Not a directory (os error 20)"
  | .nameTooLong => "File name too long (os error 36)"
  | .nulInName => "file name contained an unexpected NUL byte"
  | .notText => notTextMessage
  | .other message => message

/-- The texts that paths lead to. -/
abbrev Files := String → Except FileError String

/-- The files of a directory that has no directories in it. -/
structure Directory where
  entries : List (String × ByteArray)

namespace Directory

/-- The content of a file as a text. -/
def content (bytes : ByteArray) : Except FileError String :=
  match String.fromUTF8? bytes with
  | some text => .ok text
  | none => .error .notText

/-- Where a path leads that has left the directory: outside, only directories
are known. -/
def resolveOutside (components : List String) : Except FileError String :=
  if components.all (["", ".", ".."].contains ·) then .error .isDirectory else .error .notFound

/-- Where a path leads from the directory.  Empty components and `.` stay there,
and `..` leaves it.  Nothing may follow the name of a file, not even a slash. -/
def resolve (directory : Directory) : List String → Except FileError String
  | [] => .error .isDirectory
  | component :: rest =>
      if component = "" ∨ component = "." then directory.resolve rest
      else if component = ".." then resolveOutside rest
      else if 255 < component.utf8ByteSize then .error .nameTooLong
      else
        match directory.entries.lookup component with
        | none => .error .notFound
        | some bytes => if rest = [] then content bytes else .error .notDirectory

/-- The text that a path leads to. -/
def read (directory : Directory) : Files := fun path =>
  if path.contains '\x00' then .error .nulInName
  else if path = "" then .error .notFound
  else if 4096 ≤ path.utf8ByteSize then .error .nameTooLong
  else
    match path.splitOn "/" with
    | "" :: rest => resolveOutside rest
    | components => directory.resolve components

end Directory

end CipherCalc
