/-!
# Storage

Where the commands read their files from: a path leads to the bytes of a file, or to the reason why
it does not.
-/

namespace Lexicon

/-- Why a file cannot be read. -/
inductive FileError where
  | notFound
  | denied
  | notDirectory
  | isDirectory
  | nameTooLong
  deriving DecidableEq, Repr

/-- The words and the number that the system has for an error. -/
def FileError.message : FileError → String
  | notFound => "No such file or directory (os error 2)"
  | denied => "Permission denied (os error 13)"
  | notDirectory => "Not a directory (os error 20)"
  | isDirectory => "Is a directory (os error 21)"
  | nameTooLong => "File name too long (os error 36)"

/-- The files that paths lead to. -/
structure Storage where
  read : String → Except FileError ByteArray

/-- Whether a path leads anywhere, be it to a file or to a directory. -/
def Storage.leadsTo (storage : Storage) (path : String) : Bool :=
  match storage.read path with
  | .ok _ => true
  | .error .isDirectory => true
  | .error .denied => true
  | .error _ => false

/-- The text that bytes encode in UTF-8. -/
def decodeText? (bytes : ByteArray) : Option (List Char) :=
  (String.fromUTF8? bytes).map String.toList

end Lexicon
