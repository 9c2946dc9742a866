/-!
# Why a call to the file system fails
-/
namespace Stencil.Disk

inductive Fault
  | notFound
  | notADirectory
  | isADirectory
  | alreadyExists
  | directoryNotEmpty
  /-- A name that the file system cannot hold. -/
  | badName
  /-- The bytes of a file are no UTF-8 text. -/
  | notText
  /-- Something outside the program, such as a full disk; the text is the system's own. -/
  | outside (reason : String)
  deriving DecidableEq, Repr

def Fault.describe : Fault → String
  | .notFound => "No such file or directory"
  | .notADirectory => "Not a directory"
  | .isADirectory => "Is a directory"
  | .alreadyExists => "File exists"
  | .directoryNotEmpty => "Directory not empty"
  | .badName => "File name not allowed"
  | .notText => "stream did not contain valid UTF-8"
  | .outside reason => reason

end Stencil.Disk
