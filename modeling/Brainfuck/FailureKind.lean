/-!
# Kinds of failure

The kinds under which reading, writing and working with files can fail.
-/

namespace Brainfuck

inductive FailureKind where
  | notFound
  | permissionDenied
  | connectionReset
  | brokenPipe
  | alreadyExists
  | wouldBlock
  | notADirectory
  | isADirectory
  | invalidInput
  | invalidData
  | timedOut
  | writeZero
  | interrupted
  | invalidFilename
  | unexpectedEof
  | other
  deriving DecidableEq

namespace FailureKind

def all : List FailureKind :=
  [notFound, permissionDenied, connectionReset, brokenPipe, alreadyExists, wouldBlock,
   notADirectory, isADirectory, invalidInput, invalidData, timedOut, writeZero,
   interrupted, invalidFilename, unexpectedEof, other]

def name : FailureKind → String
  | notFound => "NotFound"
  | permissionDenied => "PermissionDenied"
  | connectionReset => "ConnectionReset"
  | brokenPipe => "BrokenPipe"
  | alreadyExists => "AlreadyExists"
  | wouldBlock => "WouldBlock"
  | notADirectory => "NotADirectory"
  | isADirectory => "IsADirectory"
  | invalidInput => "InvalidInput"
  | invalidData => "InvalidData"
  | timedOut => "TimedOut"
  | writeZero => "WriteZero"
  | interrupted => "Interrupted"
  | invalidFilename => "InvalidFilename"
  | unexpectedEof => "UnexpectedEof"
  | other => "Other"

/-- The text of a kind that the operating system reports by number. -/
def systemMessage : FailureKind → String
  | notFound => "No such file or directory (os error 2)"
  | permissionDenied => "Permission denied (os error 13)"
  | alreadyExists => "File exists (os error 17)"
  | notADirectory => "Not a directory (os error 20)"
  | isADirectory => "Is a directory (os error 21)"
  | invalidFilename => "File name too long (os error 36)"
  | other => "Input/output error (os error 5)"
  | invalidInput => "file name contained an unexpected NUL byte"
  | kind => kind.name

def ofName? (name : String) : Option FailureKind :=
  all.find? fun kind => kind.name = name

end FailureKind

end Brainfuck
