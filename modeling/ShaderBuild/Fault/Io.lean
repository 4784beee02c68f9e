/-!
Failures of reading and writing, and their wording.
-/

set_option autoImplicit false
set_option relaxedAutoImplicit false

namespace ShaderBuild

/-- The kinds of failure that a stream or a file reports. -/
inductive IoKind where
  | notFound
  | permissionDenied
  | alreadyExists
  | invalidInput
  | invalidData
  | timedOut
  | writeZero
  | unexpectedEof
  | brokenPipe
  | interrupted
  | outOfMemory
  | storageFull
  | other
  deriving DecidableEq, Repr

/-- The failures of the operating system that files meet. -/
inductive OsFailure where
  | noEntry
  | notDirectory
  | isDirectory
  | noSpace
  | nameTooLong
  deriving DecidableEq, Repr

/-- A failure to read or write: a kind alone, a kind with its own wording, or one of the operating
system. -/
inductive IoError where
  | bare (kind : IoKind)
  | stated (kind : IoKind) (wording : String)
  | system (failure : OsFailure)
  deriving DecidableEq, Repr

def IoKind.message : IoKind → String
  | .notFound => "entity not found"
  | .permissionDenied => "permission denied"
  | .alreadyExists => "entity already exists"
  | .invalidInput => "invalid input parameter"
  | .invalidData => "invalid data"
  | .timedOut => "timed out"
  | .writeZero => "write zero"
  | .unexpectedEof => "unexpected end of file"
  | .brokenPipe => "broken pipe"
  | .interrupted => "operation interrupted"
  | .outOfMemory => "out of memory"
  | .storageFull => "no storage space"
  | .other => "other error"

def OsFailure.message : OsFailure → String
  | .noEntry => "No such file or directory (os error 2)"
  | .notDirectory => "Not a directory (os error 20)"
  | .isDirectory => "Is a directory (os error 21)"
  | .noSpace => "No space left on device (os error 28)"
  | .nameTooLong => "File name too long (os error 36)"

namespace IoError

def message : IoError → String
  | .bare kind => kind.message
  | .stated _ wording => wording
  | .system failure => failure.message

/-- A writer that takes no byte of a non-empty piece. -/
def nothingWritten : IoError := .stated .writeZero "failed to write whole buffer"

/-- A path with a NUL in it, which no file can have. -/
def nulInPath : IoError := .stated .invalidInput "file name contained an unexpected NUL byte"

end IoError

end ShaderBuild
