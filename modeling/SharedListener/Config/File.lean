import SharedListener.Config.Reading

/-!
# Configuration files

A file may be missing or may hold something other than text.  `ofFile` takes what came of
reading it, so what a path leads to is left to the system.
-/

namespace SharedListener.Config

/-- Why a file cannot be read as text. -/
inductive ReadError where
  | notFound
  | isDirectory
  | nameTooLong
  | notText
  | zeroInName
  /-- Anything else, in the words of the system. -/
  | other (text : String)
deriving DecidableEq, Repr

/-- The wording of a reading error. -/
def ReadError.text : ReadError → String
  | notFound => "No such file or directory (os error 2)"
  | isDirectory => "Is a directory (os error 21)"
  | nameTooLong => "File name too long (os error 36)"
  | notText => "stream did not contain valid UTF-8"
  | zeroInName => "file name contained an unexpected NUL byte"
  | other text => text

/-- The text that the octets of a file are. -/
def textOf (octets : ByteArray) : Except ReadError String :=
  match String.fromUTF8? octets with
  | some text => .ok text
  | none => .error .notText

/-- The configuration in a file at `path`, of which `content` was read. -/
def ofFile (path : String) (content : Except ReadError String) : Except Flaw Config :=
  match content with
  | .error error => .error (.unreadable path error.text)
  | .ok text => ofText text

end SharedListener.Config
