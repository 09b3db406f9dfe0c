/-!
# What can go wrong with a file

The first faults are known by their kind alone; the others come from the operating system
with a number.
-/

namespace PlayerLink

/-- Why a call on a file failed. -/
inductive FileError where
  | interrupted
  | storageFull
  | permissionDenied
  | other
  /-- Data were left over that the file would not take. -/
  | nothingTaken
  | missing
  | noSuchDevice
  | accessDenied
  | notDirectory
  | isDirectory
  | noSpace
  | nameTooLong
  | nulInName
  deriving DecidableEq, Repr

/-- The text of a fault. -/
def FileError.message : FileError → String
  | interrupted => "operation interrupted"
  | storageFull => "no storage space"
  | permissionDenied => "permission denied"
  | other => "other error"
  | nothingTaken => "failed to write whole buffer"
  | missing => "No such file or directory (os error 2)"
  | noSuchDevice => "No such device or address (os error 6)"
  | accessDenied => "Permission denied (os error 13)"
  | notDirectory => "Not a directory (os error 20)"
  | isDirectory => "Is a directory (os error 21)"
  | noSpace => "No space left on device (os error 28)"
  | nameTooLong => "File name too long (os error 36)"
  | nulInName => "file name contained an unexpected NUL byte"

end PlayerLink
