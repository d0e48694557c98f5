import LineShell.Host.Errno

/-! The reasons for which this system refuses requests, with their numbers and words. -/

namespace LineShell.Unix

/-- Why a request failed. -/
inductive Reason
  | notPermitted
  | noEntry
  | noProcess
  | interrupted
  | noDevice
  | tooLong
  | execFormat
  | badDescriptor
  | noChild
  | tryAgain
  | noMemory
  | accessDenied
  | busy
  | fileExists
  | notDirectory
  | isDirectory
  | invalid
  | fileTooLarge
  | noSpace
  | brokenPipe
  | outOfRange
  | nameTooLong
  | notEmpty
  | tooManyLinks
  | overflow
  deriving DecidableEq, Repr

namespace Reason

/-- The number of a reason with its words. -/
def errno : Reason → Errno
  | notPermitted => ⟨1, "Operation not permitted".toList⟩
  | noEntry => ⟨2, "No such file or directory".toList⟩
  | noProcess => ⟨3, "No such process".toList⟩
  | interrupted => ⟨4, "Interrupted system call".toList⟩
  | noDevice => ⟨6, "No such device or address".toList⟩
  | tooLong => ⟨7, "Argument list too long".toList⟩
  | execFormat => ⟨8, "Exec format error".toList⟩
  | badDescriptor => ⟨9, "Bad file descriptor".toList⟩
  | noChild => ⟨10, "No child processes".toList⟩
  | tryAgain => ⟨11, "Resource temporarily unavailable".toList⟩
  | noMemory => ⟨12, "Cannot allocate memory".toList⟩
  | accessDenied => ⟨13, "Permission denied".toList⟩
  | busy => ⟨16, "Device or resource busy".toList⟩
  | fileExists => ⟨17, "File exists".toList⟩
  | notDirectory => ⟨20, "Not a directory".toList⟩
  | isDirectory => ⟨21, "Is a directory".toList⟩
  | invalid => ⟨22, "Invalid argument".toList⟩
  | fileTooLarge => ⟨27, "File too large".toList⟩
  | noSpace => ⟨28, "No space left on device".toList⟩
  | brokenPipe => ⟨32, "Broken pipe".toList⟩
  | outOfRange => ⟨34, "Numerical result out of range".toList⟩
  | nameTooLong => ⟨36, "File name too long".toList⟩
  | notEmpty => ⟨39, "Directory not empty".toList⟩
  | tooManyLinks => ⟨40, "Too many levels of symbolic links".toList⟩
  | overflow => ⟨75, "Value too large for defined data type".toList⟩

/-- The words of a reason. -/
def text (r : Reason) : Text := r.errno.text

end Reason

end LineShell.Unix
