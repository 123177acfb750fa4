/-! What the system answers when it will not do what it was asked to do with a file. -/
namespace SchemaReport

/-- Refusals of the system, by their numbers. -/
inductive OsError
  | notFound
  | permissionDenied
  | fileExists
  | notDirectory
  | isDirectory
  | nameTooLong
  | tooManyLinks
  /-- Any other refusal, in the system's words. -/
  | other (code : Nat) (words : String)
  deriving DecidableEq, Repr

namespace OsError

def code : OsError → Nat
  | notFound => 2
  | permissionDenied => 13
  | fileExists => 17
  | notDirectory => 20
  | isDirectory => 21
  | nameTooLong => 36
  | tooManyLinks => 40
  | other code _ => code

def words : OsError → String
  | notFound => "No such file or directory"
  | permissionDenied => "Permission denied"
  | fileExists => "File exists"
  | notDirectory => "Not a directory"
  | isDirectory => "Is a directory"
  | nameTooLong => "File name too long"
  | tooManyLinks => "Too many levels of symbolic links"
  | other _ words => words

/-- The refusal with a number, if it is one of those told apart. -/
def ofCode? (code : Nat) : Option OsError :=
  [notFound, permissionDenied, fileExists, notDirectory, isDirectory, nameTooLong,
    tooManyLinks].find? fun e => e.code == code

def message (e : OsError) : String := s!"{e.words} (os error {e.code})"

end OsError

/-- What can be wrong with an access to a file. -/
inductive FileFault
  | os (cause : OsError)
  /-- The bytes of the file are no text. -/
  | notText
  /-- The path holds a byte no path can hold. -/
  | zeroByte
  deriving DecidableEq, Repr

def FileFault.message : FileFault → String
  | os cause => cause.message
  | notText => "stream did not contain valid UTF-8"
  | zeroByte => "file name contained an unexpected NUL byte"

end SchemaReport
