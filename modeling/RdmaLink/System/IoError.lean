import RdmaLink.System.Errno

/-!
# Failures of reading and writing

What can go wrong on a byte stream or a file.  `IoError.message` is the text that stands inside
the errors of the layers above.
-/

namespace RdmaLink

/-- Why a read or a write failed. -/
inductive IoError where
  /-- The operating system refused the call. -/
  | os (errno : Errno)
  /-- The stream ended before the wanted bytes had arrived. -/
  | unexpectedEnd
  /-- The stream took no more bytes. -/
  | writeZero
  /-- A text was wanted and the bytes are not UTF-8. -/
  | notUtf8
  /-- The call cannot be made with this argument. -/
  | invalidInput
  /-- A time limit of no time was wanted. -/
  | zeroLimit
  /-- Any other cause, in its own words. -/
  | other (text : String)
deriving DecidableEq, Repr, Inhabited

namespace IoError

/-- The text of a failure. -/
def message : IoError → String
  | .os e => e.text ++ " (os error " ++ toString e.code ++ ")"
  | .unexpectedEnd => "failed to fill whole buffer"
  | .writeZero => "failed to write whole buffer"
  | .notUtf8 => "stream did not contain valid UTF-8"
  | .invalidInput => "out of range integral type conversion attempted"
  | .zeroLimit => "cannot set a 0 duration timeout"
  | .other text => text

/-- The kind that a failure is of; error numbers without a kind of their own share one. -/
def kind : IoError → String
  | .unexpectedEnd => "UnexpectedEof"
  | .writeZero => "WriteZero"
  | .invalidInput => "InvalidInput"
  | .zeroLimit => "InvalidInput"
  | .notUtf8 => "InvalidData"
  | .other _ => "Other"
  | .os e =>
    if e = Errno.noEntry then "NotFound"
    else if e = Errno.outOfMemory then "OutOfMemory"
    else if e = Errno.permissionDenied then "PermissionDenied"
    else if e = Errno.alreadyExists then "AlreadyExists"
    else if e = Errno.notDirectory then "NotADirectory"
    else if e = Errno.isDirectory then "IsADirectory"
    else if e = Errno.invalidArgument then "InvalidInput"
    else if e = Errno.fileTooLarge then "FileTooLarge"
    else if e = Errno.nameTooLong then "InvalidFilename"
    else "Uncategorized"

/-- The wait for bytes ran into its time limit. -/
def timedOut : IoError := .os Errno.tryAgain

end IoError

end RdmaLink
