import Brainfuck.CCode.Generation
import Brainfuck.CommandLine.Arguments
import Brainfuck.CommandLine.LogEvent
import Brainfuck.FailureKind
import Brainfuck.Listing
import Brainfuck.LogFilter
import Brainfuck.Program
import Brainfuck.Settings

/-!
# Sessions of the command line

A session loads the settings, opens the logs, reads the source and carries out
its command.  It works on any file system; only the run of a program is left to
the caller, which is handed the program and its input.
-/

namespace Brainfuck

namespace CommandLine

/-- What a session needs from the system: the operations on files, and the lines
of its logs, which tell the time.  `Input` is an opened input. -/
structure FileSystem (m : Type → Type) (Input : Type) where
  read : String → m (Except FailureKind ByteArray)
  write : String → ByteArray → m (Except FailureKind Unit)
  append : String → ByteArray → m (Except FailureKind Unit)
  makeDirectories : String → m (Except FailureKind Unit)
  openInput : String → m (Except FailureKind Input)
  standardInput : Input
  plainLine : LogEvent → m String
  structuredLine : LogEvent → m String

inductive Failure where
  | readSettings (path : String) (kind : FailureKind)
  /-- The settings are not TOML, or one of their values does not fit. -/
  | invalidSettings (path : String) (mismatch : Option SettingsMismatch)
  | makeLogDirectory (kind : FailureKind)
  | openLog (kind : FailureKind)
  | openStructuredLog (kind : FailureKind)
  | readSource (path : String) (kind : FailureKind)
  | openInput (path : String) (kind : FailureKind)
  | write (path : String) (kind : FailureKind)
  | source (error : SourceError)
  | program (error : ProgramError)
  | code (error : CCode.CodeError)
  | stream (kind : FailureKind)
  /-- The log filter has no reading. -/
  | logFilter
  /-- The tape of a run does not fit into memory. -/
  | tapeLength

namespace Failure

def message : Failure → String
  | readSettings path _ => "failed to read config " ++ path
  | invalidSettings path _ => "invalid config " ++ path
  | makeLogDirectory kind => kind.systemMessage
  | openLog _ => "failed to create log file"
  | openStructuredLog _ => "failed to create json log file"
  | readSource path _ => "failed to read " ++ path
  | openInput path _ => "failed to open input " ++ path
  | write path _ => "failed to write " ++ path
  | source error => error.message
  | program error => error.message
  | code error => error.message
  | stream _ => "an IO error has occurred"
  | logFilter => "the log filter cuts a character"
  | tapeLength => "the tape does not fit into memory"

/-- Whether a failure ends the program at once, and not by a report of its
own. -/
def isAbrupt : Failure → Bool
  | logFilter => true
  | tapeLength => true
  | _ => false

def exitCode (failure : Failure) : Nat :=
  if failure.isAbrupt then 101 else 1

end Failure

def joinPath (directory name : String) : String :=
  if directory = "" || directory.endsWith "/" then directory ++ name
  else directory ++ "/" ++ name

/-- The name of the log for reading. -/
def plainLogName : String :=
  "output.log"

/-- The name of the log whose lines are data. -/
def structuredLogName : String :=
  "output.json"

def isLogPath (path : String) : Bool :=
  match (path.splitOn "/").getLast? with
  | some name => name = plainLogName || name = structuredLogName
  | none => false

/-- What a session leaves to do. -/
inductive Job (Input : Type) where
  | done
  | run (program : Program) (length : TapeLength) (input : Input)

section

variable {m : Type → Type} [Monad m] {Input : Type}

/-- Report the failure of an operation on files. -/
def attempt {α : Type} (failure : FailureKind → Failure) (action : m (Except FailureKind α)) :
    ExceptT Failure m α :=
  ExceptT.mk do return (← action).mapError failure

def readText (files : FileSystem m Input) (failure : FailureKind → Failure) (path : String) :
    ExceptT Failure m String := do
  match String.fromUTF8? (← attempt failure (files.read path)) with
  | some text => return text
  | none => throw (failure .invalidData)

/-- Load the settings from a file, or take the defaults without one.  A value
that does not fit is reported only if all integers of the file are signed 64-bit
words, as the format promises. -/
def loadSettings (files : FileSystem m Input) : Option String → ExceptT Failure m Settings
  | none => return {}
  | some path => do
      match Toml.parse (← readText files (.readSettings path) path) with
      | none => throw (.invalidSettings path none)
      | some entries =>
          match Settings.ofToml entries with
          | .ok settings => return settings
          | .error mismatch =>
              if Toml.Value.entriesHaveWords entries then
                throw (.invalidSettings path (some mismatch))
              else throw (.invalidSettings path none)

/-- Open both logs, if there is a directory for them.  They begin empty. -/
def openLogs (files : FileSystem m Input) : Option String → ExceptT Failure m Unit
  | none => return ()
  | some directory => do
      attempt .makeLogDirectory (files.makeDirectories directory)
      attempt .openLog (files.write (joinPath directory plainLogName) ByteArray.empty)
      attempt .openStructuredLog
        (files.write (joinPath directory structuredLogName) ByteArray.empty)

/-- Add an event to both logs, if there are any.  A session goes on without it if
that fails. -/
def logEvent (files : FileSystem m Input) (event : LogEvent) :
    Option String → ExceptT Failure m Unit
  | none => return ()
  | some directory => do
      let plain ← files.plainLine event
      let _ ← files.append (joinPath directory plainLogName) plain.toUTF8
      let structured ← files.structuredLine event
      let _ ← files.append (joinPath directory structuredLogName) structured.toUTF8

def writeText (files : FileSystem m Input) (path text : String) : ExceptT Failure m Unit :=
  attempt (.write path) (files.write path text.toUTF8)

def parseSource (source : String) : ExceptT Failure m (List Instruction) :=
  ExceptT.mk (pure ((Source.parse source).mapError .source))

def emitCode (files : FileSystem m Input) (settings : Settings) (source outputPath : String) :
    ExceptT Failure m Unit := do
  let instructions ← parseSource source
  logEvent files (.assembling instructions.length settings.dialect) settings.logDirectory
  match CCode.generate settings.dialect settings.tapeLength instructions with
  | .ok code =>
      logEvent files (.generated code.utf8ByteSize) settings.logDirectory
      writeText files outputPath code
      logEvent files (.wroteCode settings.dialect outputPath) settings.logDirectory
  | .error error => throw (.code error)

def writeListing (files : FileSystem m Input) (instructions : List Instruction) (outputPath : String) :
    ExceptT Failure m Unit :=
  writeText files outputPath (Listing.render instructions)

def dumpSource (files : FileSystem m Input) (source outputPath : String) :
    ExceptT Failure m Unit := do
  writeListing files (← parseSource source) outputPath

/-- Build a program, open its input and make room for its tape. -/
def prepareRun (files : FileSystem m Input) (settings : Settings) (source : String)
    (inputPath : Option String) : ExceptT Failure m (Job Input) := do
  match Program.parse source with
  | .error error => throw (.program error)
  | .ok program =>
      logEvent files (.builtProgram program.size) settings.logDirectory
      let input ←
        match inputPath with
        | none => pure files.standardInput
        | some path => attempt (.openInput path) (files.openInput path)
      logEvent files (.creatingTape settings.tapeLength) settings.logDirectory
      unless settings.tapeLength.fitsMemory do
        throw .tapeLength
      return .run program settings.tapeLength input

/-- Load the settings of a command, open its logs and read its source.  The log
filter is read before the logs are opened.  Every command goes on with a scan of
the source, whose first events are recorded here. -/
def openSession (files : FileSystem m Input) (filePath : String) (configPath : Option String)
    (tapeLength : Option TapeLength) (dialect : Option Dialect) :
    ExceptT Failure m (Settings × String) := do
  let settings := (← loadSettings files configPath).override tapeLength dialect
  unless LogFilter.isReadable settings.logFilter do
    throw .logFilter
  openLogs files settings.logDirectory
  let source ← readText files (.readSource filePath) filePath
  logEvent files (.gotSource source.utf8ByteSize) settings.logDirectory
  logEvent files (.scanning source.utf8ByteSize) settings.logDirectory
  return (settings, source)

/-- Carry out a command, except for the run of a program. -/
def Command.start (files : FileSystem m Input) : Command → ExceptT Failure m (Job Input)
  | .run filePath configPath tapeLength inputPath => do
      let (settings, source) ← openSession files filePath configPath tapeLength none
      prepareRun files settings source inputPath
  | .emit filePath outputPath configPath tapeLength dialect => do
      let (settings, source) ← openSession files filePath configPath tapeLength dialect
      emitCode files settings source outputPath
      return .done
  | .dump filePath outputPath configPath => do
      let (_, source) ← openSession files filePath configPath none none
      dumpSource files source outputPath
      return .done

end

def versionText : String :=
  "tapefrick 0.1.0\n"

def usageText : String :=
  "Usage: tapefrick <COMMAND>\n\n"
    ++ "Commands:\n"
    ++ "  run   Interpret a program, reading from stdin (or a file) and writing to stdout\n"
    ++ "  emit  Expand a program into C source\n"
    ++ "  dump  Write the parsed instructions as RON"

end CommandLine

end Brainfuck
