/-!
# Faults of the host

What the operating system says when a file cannot be used or a program cannot
be started.
-/

namespace MakeTen

/-- Why the host refuses something. -/
inductive HostFault where
  /-- There is no such file. -/
  | missing
  /-- There is no device behind a name. -/
  | noDevice
  /-- The arguments of a program take too much room. -/
  | argumentsTooLong
  /-- A file is to be run that is no program and names none. -/
  | notRunnable
  /-- There is no such descriptor. -/
  | badDescriptor
  /-- The file may not be used that way. -/
  | denied
  /-- It is in use. -/
  | busy
  /-- There is something of that name already. -/
  | exists
  /-- A path goes through something that is no directory. -/
  | notDirectory
  /-- The path leads to a directory. -/
  | isDirectory
  /-- The request makes no sense. -/
  | invalid
  /-- There is no room left. -/
  | noSpace
  /-- Nobody reads what is written. -/
  | brokenPipe
  /-- A name on the path is too long. -/
  | nameTooLong
  /-- A directory that should be empty is not. -/
  | notEmpty
  /-- Links lead to links without end. -/
  | tooManyLinks
  /-- The file holds no text. -/
  | invalidUtf8
  /-- A path holds the character that ends texts in the host. -/
  | nulInPath
  /-- A program name or an argument holds that character. -/
  | nulInCommand
  deriving Repr, DecidableEq

namespace HostFault

/-- The fault in words. -/
def text : HostFault → String
  | .missing => "No such file or directory"
  | .noDevice => "No such device or address"
  | .argumentsTooLong => "Argument list too long"
  | .notRunnable => "Exec format error"
  | .badDescriptor => "Bad file descriptor"
  | .denied => "Permission denied"
  | .busy => "Device or resource busy"
  | .exists => "File exists"
  | .notDirectory => "Not a directory"
  | .isDirectory => "Is a directory"
  | .invalid => "Invalid argument"
  | .noSpace => "No space left on device"
  | .brokenPipe => "Broken pipe"
  | .nameTooLong => "File name too long"
  | .notEmpty => "Directory not empty"
  | .tooManyLinks => "Too many levels of symbolic links"
  | .invalidUtf8 => "stream did not contain valid UTF-8"
  | .nulInPath => "file name contained an unexpected NUL byte"
  | .nulInCommand => "nul byte found in provided data"

/-- The host's own number for the fault, if it is the host that finds it. -/
def number? : HostFault → Option Nat
  | .missing => some 2
  | .noDevice => some 6
  | .argumentsTooLong => some 7
  | .notRunnable => some 8
  | .badDescriptor => some 9
  | .denied => some 13
  | .busy => some 16
  | .exists => some 17
  | .notDirectory => some 20
  | .isDirectory => some 21
  | .invalid => some 22
  | .noSpace => some 28
  | .brokenPipe => some 32
  | .nameTooLong => some 36
  | .notEmpty => some 39
  | .tooManyLinks => some 40
  | .invalidUtf8 => none
  | .nulInPath => none
  | .nulInCommand => none

/-- The fault in words, with the host's own number where it has one. -/
def message (fault : HostFault) : String :=
  match fault.number? with
  | some n => fault.text ++ " (os error " ++ toString n ++ ")"
  | none => fault.text

end HostFault
end MakeTen
