import FirmwareVars.Text.Numeral
/-!
# Failures of the host

Why the host did not do what it was asked: the error numbers that file operations come back with, a path that the host
cannot be given, and contents that should have been text.  `message` words a failure as the host's error table does.
-/
namespace FirmwareVars

/-- Why a request to the host failed. -/
inductive Failure
  | noEntry
  | exists
  | notDirectory
  | isDirectory
  | noSpace
  | nameTooLong
  | linkLoop
  /-- The path has a NUL, so the host cannot be asked about it. -/
  | nulInPath
  /-- The contents are not UTF-8. -/
  | notText
  /-- Any other failure, in the host's words. -/
  | stated (text : Text)
  deriving DecidableEq

namespace Failure

/-- A failure with an error number: the number and the words for it. -/
def numbered (number : Nat) (words : Text) : Text :=
  words ++ " (os error ".toList ++ Numeral.decimal number ++ ")".toList

def message : Failure → Text
  | .noEntry => numbered 2 "No such file or directory".toList
  | .exists => numbered 17 "File exists".toList
  | .notDirectory => numbered 20 "Not a directory".toList
  | .isDirectory => numbered 21 "Is a directory".toList
  | .noSpace => numbered 28 "No space left on device".toList
  | .nameTooLong => numbered 36 "File name too long".toList
  | .linkLoop => numbered 40 "Too many levels of symbolic links".toList
  | .nulInPath => "file name contained an unexpected NUL byte".toList
  | .notText => "stream did not contain valid UTF-8".toList
  | .stated text => text

/-- The failure of an error number, with the host's words for the numbers that have no name here. -/
def ofNumber (number : Nat) (words : Text) : Failure :=
  match number with
  | 2 => .noEntry
  | 17 => .exists
  | 20 => .notDirectory
  | 21 => .isDirectory
  | 28 => .noSpace
  | 36 => .nameTooLong
  | 40 => .linkLoop
  | n => .stated (numbered n words)

end Failure
end FirmwareVars
