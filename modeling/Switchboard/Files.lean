import Switchboard.Text.Quoted
import Switchboard.Text.Utf8

/-!
# Reading files

What can go wrong when a file is read and when its content is decoded, and the sentences for it. A
`FileSource` stands for the files that can be read: it gives the bytes of the file with a name.
-/

namespace Switchboard

/-- Why a file cannot be read as text. -/
inductive FileFault where
  | notFound
  | isDirectory
  | notDirectory
  | notText
  | other (text : String)
  deriving DecidableEq

/-- The fault in the words of the operating system. -/
def FileFault.message : FileFault → String
  | .notFound => "No such file or directory (os error 2)"
  | .isDirectory => "Is a directory (os error 21)"
  | .notDirectory => "Not a directory (os error 20)"
  | .notText => "stream did not contain valid UTF-8"
  | .other text => text

/-- The bytes of the file with a name. -/
abbrev FileSource := String → Except FileFault (List UInt8)

/-- The text of the file with a name. -/
def FileSource.text (files : FileSource) (path : String) : Except FileFault String :=
  (files path).bind fun bytes ↦
    match Text.decode? bytes with
    | some text => .ok text
    | none => .error .notText

/-- Why settings or aliases cannot be loaded: the file cannot be read, or the document is malformed
or says something else than what is expected. The origin of a document is the quoted name of its
file, or a phrase. -/
inductive LoadFault where
  | unreadable (path : String) (fault : FileFault)
  | malformed (origin : String)
  deriving DecidableEq

/-- The fault in words. -/
def LoadFault.message : LoadFault → String
  | .unreadable path fault =>
    String.join ["Failed to read ", Text.quotedPath path, ": ", fault.message]
  | .malformed origin => String.join ["Failed to parse ", origin]

end Switchboard
