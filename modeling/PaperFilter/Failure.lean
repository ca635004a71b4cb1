import PaperFilter.Query.Error

/-!
# Failures

All that can go wrong around a query: the query itself, a document, the configuration, a file.  A
failure that passes another error on shows it as its cause.
-/

namespace PaperFilter

/-- Why a file could not be read or written. -/
inductive FileError where
  | notFound
  | alreadyExists
  | notDirectory
  | isDirectory
  | nameTooLong
  | invalidName
  | notText
deriving Repr, DecidableEq

def FileError.message : FileError → Text
  | .notFound => "No such file or directory (os error 2)".toList
  | .alreadyExists => "File exists (os error 17)".toList
  | .notDirectory => "Not a directory (os error 20)".toList
  | .isDirectory => "Is a directory (os error 21)".toList
  | .nameTooLong => "File name too long (os error 36)".toList
  | .invalidName => "file name contained an unexpected NUL byte".toList
  | .notText => "stream did not contain valid UTF-8".toList

inductive Failure where
  | query (error : QueryError)
  | document (line : Nat) (reason : Text)
  | config (reason : Text)
  | file (reason : Text)
  | serialization (reason : Text)
deriving Repr, DecidableEq

namespace Failure

def message : Failure → Text
  | .query error => "invalid query: ".toList ++ error.message
  | .document line reason =>
      "invalid document on line ".toList ++ Text.ofNat line ++ ": ".toList ++ reason
  | .config reason => "configuration error: ".toList ++ reason
  | .file reason => "I/O error: ".toList ++ reason
  | .serialization reason => "serialization error: ".toList ++ reason

def isQueryError : Failure → Bool
  | .query _ => true
  | _ => false

/-- The message of the error that is passed on. -/
def cause? : Failure → Option Text
  | .query error => some error.message
  | .file reason => some reason
  | _ => none

end Failure

end PaperFilter
