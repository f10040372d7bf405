import Brainfuck.CommandLine.Session
import Brainfuck.Execution.Run
import Brainfuck.FileTree

/-!
# Simulated sessions

A session of the command line on a file tree in memory, with its standard input
given beforehand.
-/

namespace Brainfuck

namespace CommandLine

/-- What an opened input delivers. -/
abbrev InputScript := List InputItem

/-- The input of a file.  A directory can be opened but not read. -/
def openScript (tree : FileTree) (path : String) : Except FailureKind InputScript :=
  match tree.read path with
  | .ok content => .ok (content.toList.map .byte)
  | .error .isADirectory => .ok [.failure .isADirectory]
  | .error kind => .error kind

/-- Keep the tree that an operation returns. -/
def changeTree (change : FileTree → Except FailureKind FileTree) :
    StateM FileTree (Except FailureKind Unit) := fun tree =>
  match change tree with
  | .ok changed => (.ok (), changed)
  | .error kind => (.error kind, tree)

/-- The file system of a file tree.  Its logs do not tell the time. -/
def treeFiles (standardInput : InputScript) : FileSystem (StateM FileTree) InputScript where
  read path := fun tree => (tree.read path, tree)
  write path content := changeTree fun tree => tree.write path content
  append path content := changeTree fun tree => tree.append path content
  makeDirectories path := changeTree fun tree => tree.makeDirectories path
  openInput path := fun tree => (openScript tree path, tree)
  standardInput := standardInput
  plainLine event := pure event.plainLine
  structuredLine event := pure event.structuredLine

/-- What a session leaves behind: its exit code, what it wrote to standard
output, the file tree, and the first line of its failure, without styles, if that
is reported. -/
structure Report where
  exitCode : Nat
  output : Array UInt8
  tree : FileTree
  failure : Option String

/-- The files that a session that began with `before` has made or changed, with
their text; that of logs is not reported. -/
def Report.changes (before : FileTree) (report : Report) : List (String × Option String) :=
  (before.changes report.tree).map fun (path, text) =>
    (path, if isLogPath path then none else some text)

/-- Carry out a run and flush the output once more behind it. -/
def finishRun (limit : Nat) (program : Program) (length : TapeLength) (input : InputScript) :
    Option (Except FailureKind Unit × Array UInt8) :=
  match Execution.run limit program ⟨Machine.fresh length, { input }⟩ with
  | none => none
  | some (.error kind state) => some (.error kind, state.streams.output)
  | some (.ok _ state) =>
      match Execution.flush state with
      | .ok () state => some (.ok (), state.streams.output)
      | .error kind state => some (.error kind, state.streams.output)

def report (tree : FileTree) (output : Array UInt8) : Except Failure Unit → Report
  | .ok () => ⟨0, output, tree, none⟩
  | .error failure =>
      let line := firstLine (Text.unstyled failure.message)
      ⟨failure.exitCode, output, tree, if failure.isAbrupt then none else some line⟩

/-- A whole session.  There is no report if a run takes more than `limit`
steps. -/
def simulate (limit : Nat) (tree : FileTree) (standardInput : InputScript)
    (arguments : List String) : Option Report :=
  match parse arguments with
  | .error error =>
      match error with
      | .help => some ⟨0, #[], tree, none⟩
      | .version => some ⟨0, versionText.toUTF8.data, tree, none⟩
      | error => some ⟨2, #[], tree, error.message?⟩
  | .ok command =>
      match (command.start (treeFiles standardInput)).run.run tree with
      | (.error failure, tree) => some (report tree #[] (.error failure))
      | (.ok .done, tree) => some (report tree #[] (.ok ()))
      | (.ok (.run program length input), tree) =>
          match finishRun limit program length input with
          | none => none
          | some (result, output) => some (report tree output (result.mapError .stream))

end CommandLine

end Brainfuck
