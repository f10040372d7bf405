import Brainfuck.CommandLine.Session
import Brainfuck.Execution.Run

/-!
# The command line

The outer layer of the command line: files, standard input and output, and the
exit code.  A program is run step by step on streams that hold at most the next
byte of input, which is read when an instruction asks for it; what the step
writes is passed on at once.
-/

namespace Brainfuck

namespace CommandLine

/-- The kind of a failure that the operating system reports. -/
def kindOf : IO.Error → FailureKind
  | .noFileOrDirectory .. => .notFound
  | .noSuchThing .. => .notFound
  | .alreadyExists .. => .alreadyExists
  | .permissionDenied .. => .permissionDenied
  | .inappropriateType .. => .isADirectory
  | .invalidArgument .. => .invalidInput
  | .interrupted .. => .interrupted
  | .timeExpired .. => .timedOut
  | .resourceVanished .. => .brokenPipe
  | .unexpectedEof => .unexpectedEof
  | _ => .other

/-- Turn an exception into a result. -/
def guarded {α : Type} (action : IO α) : IO (Except FailureKind α) := do
  try
    return .ok (← action)
  catch error =>
    return .error (kindOf error)

/-- The file system of the operating system.  Its logs do not tell the time. -/
def systemFiles (standardInput : IO.FS.Stream) : FileSystem IO IO.FS.Stream where
  read path := guarded (IO.FS.readBinFile path)
  write path content := guarded (IO.FS.writeBinFile path content)
  append path content := guarded do
    (← IO.FS.Handle.mk path .append).write content
  makeDirectories path := guarded (if path = "" then pure () else IO.FS.createDirAll path)
  openInput path := guarded do
    return IO.FS.Stream.ofHandle (← IO.FS.Handle.mk path .read)
  standardInput := standardInput
  plainLine event := pure event.plainLine
  structuredLine event := pure event.structuredLine

/-- Read the next item of an input.  An interrupted call is made again. -/
partial def readItem (input : IO.FS.Stream) : IO InputItem := do
  match ← guarded (input.read 1) with
  | .ok bytes =>
      match bytes.data[0]? with
      | some value => return .byte value
      | none => return .endOfInput
  | .error .interrupted => readItem input
  | .error kind => return .failure kind

/-- Pass on what a step has written and forget its calls. -/
def passOn (output : IO.FS.Stream) : Execution.State → IO Execution.State
  | ⟨machine, streams⟩ => do
      if !streams.output.isEmpty then
        output.write ⟨streams.output⟩
      return ⟨machine, { streams with output := #[], events := #[] }⟩

partial def interpret (program : Program) (input output : IO.FS.Stream)
    (moment : Execution.Moment) : IO Unit := do
  let moment ←
    if program.instructions[moment.index]? = some .input && moment.state.streams.input.isEmpty then do
      output.flush
      let item ← readItem input
      let state := moment.state
      pure { moment with state := { state with streams := { state.streams with input := [item] } } }
    else pure moment
  match Execution.step program moment with
  | .finished .. => output.flush
  | .failed kind state =>
      let _ ← passOn output state
      output.flush
      throw (IO.userError kind.name)
  | .running next =>
      let state ← passOn output next.state
      interpret program input output { next with state }

/-- Carry out the command of the arguments; the exit code. -/
def execute (arguments : List String) : IO UInt32 := do
  let output ← IO.getStdout
  match parse arguments with
  | .error .version =>
      output.putStr versionText
      return 0
  | .error .help =>
      output.putStrLn usageText
      return 0
  | .error error =>
      IO.eprintln (error.message?.getD usageText)
      return 2
  | .ok command =>
      let input ← IO.getStdin
      match ← (command.start (systemFiles input)).run with
      | .error failure => report failure
      | .ok .done => return 0
      | .ok (.run program length input) =>
          let streams : Streams := {}
          try
            interpret program input output { state := ⟨Machine.fresh length, streams⟩ }
            return 0
          catch error =>
            report (.stream (kindOf error))
where
  report (failure : Failure) : IO UInt32 := do
    IO.eprintln ("Error: " ++ failure.message)
    return failure.exitCode.toUInt32

end CommandLine

end Brainfuck

def main (arguments : List String) : IO UInt32 :=
  Brainfuck.CommandLine.execute arguments
