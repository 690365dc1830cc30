import TwinFiles.Text.Decimal

/-!
# Causes of failure

Why reading, listing or writing failed: the system's error number, or a kind of failure that a
reader or writer raised itself, with or without words of its own. `Cause.text` is the wording that
reports carry, and `Cause.kind` sorts a cause where only its kind matters.
-/

namespace TwinFiles

/-- The kinds of failure. -/
inductive CauseKind where
  | notFound
  | permissionDenied
  | alreadyExists
  | brokenPipe
  | isADirectory
  | notADirectory
  | invalidInput
  | invalidData
  | timedOut
  | unexpectedEof
  | unsupported
  | other
  deriving DecidableEq, Repr

/-- Why an operation failed. -/
inductive Cause where
  /-- A system error number. -/
  | system (number : Int)
  /-- A bare kind. -/
  | plain (kind : CauseKind)
  /-- A kind with words of its own. -/
  | worded (kind : CauseKind) (text : Bytes)
  deriving DecidableEq, Repr

/-- The wording of a bare kind. -/
def CauseKind.text : CauseKind → Bytes
  | notFound => utf8 "entity not found"
  | permissionDenied => utf8 "permission denied"
  | alreadyExists => utf8 "entity already exists"
  | brokenPipe => utf8 "broken pipe"
  | isADirectory => utf8 "is a directory"
  | notADirectory => utf8 "not a directory"
  | invalidInput => utf8 "invalid input parameter"
  | invalidData => utf8 "invalid data"
  | timedOut => utf8 "timed out"
  | unexpectedEof => utf8 "unexpected end of file"
  | unsupported => utf8 "unsupported"
  | other => utf8 "other error"

namespace Cause

/-! ## System errors that resolving a path can meet -/

@[match_pattern] abbrev noEntry : Cause := .system 2
@[match_pattern] abbrev accessDenied : Cause := .system 13
@[match_pattern] abbrev notFolder : Cause := .system 20
@[match_pattern] abbrev isFolder : Cause := .system 21
@[match_pattern] abbrev nameTooLong : Cause := .system 36
@[match_pattern] abbrev tooManyLinks : Cause := .system 40

/-- The path holds a NUL byte, so that the system cannot be asked about it. -/
abbrev nulInName : Cause :=
  .worded .invalidInput (utf8 "file name contained an unexpected NUL byte")

/-- The system's words for an error number. -/
def systemText : Int → Bytes
  | 0 => utf8 "Success"
  | 1 => utf8 "Operation not permitted"
  | 2 => utf8 "No such file or directory"
  | 4 => utf8 "Interrupted system call"
  | 5 => utf8 "Input/output error"
  | 9 => utf8 "Bad file descriptor"
  | 11 => utf8 "Resource temporarily unavailable"
  | 12 => utf8 "Cannot allocate memory"
  | 13 => utf8 "Permission denied"
  | 16 => utf8 "Device or resource busy"
  | 17 => utf8 "File exists"
  | 18 => utf8 "Invalid cross-device link"
  | 20 => utf8 "Not a directory"
  | 21 => utf8 "Is a directory"
  | 22 => utf8 "Invalid argument"
  | 23 => utf8 "Too many open files in system"
  | 24 => utf8 "Too many open files"
  | 26 => utf8 "Text file busy"
  | 27 => utf8 "File too large"
  | 28 => utf8 "No space left on device"
  | 30 => utf8 "Read-only file system"
  | 32 => utf8 "Broken pipe"
  | 36 => utf8 "File name too long"
  | 39 => utf8 "Directory not empty"
  | 40 => utf8 "Too many levels of symbolic links"
  | 75 => utf8 "Value too large for defined data type"
  | 110 => utf8 "Connection timed out"
  | 111 => utf8 "Connection refused"
  | 116 => utf8 "Stale file handle"
  | 122 => utf8 "Disk quota exceeded"
  | n => utf8 "Unknown error " ++ Decimal.signed n

/-- The wording of a cause. -/
def text : Cause → Bytes
  | system n => systemText n ++ utf8 " (os error " ++ Decimal.signed n ++ utf8 ")"
  | plain kind => kind.text
  | worded _ words => words

/-- The kind of a cause. Of the system's errors, only absence and refusal have a kind that
matters here. -/
def kind : Cause → CauseKind
  | noEntry => .notFound
  | system 1 => .permissionDenied
  | accessDenied => .permissionDenied
  | system _ => .other
  | plain k => k
  | worded k _ => k

end Cause

end TwinFiles
