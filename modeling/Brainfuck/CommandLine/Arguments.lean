import Brainfuck.CCode.Dialect
import Brainfuck.CommandLine.Numeral
import Brainfuck.Text.Terminal

/-!
# Arguments of the command line

The first argument names a command; the others are its options and the path of
the program.  An option has a long and a short spelling, and its value stands
in the same argument or is the next one.

A value that is an argument of its own is not looked at before the next option
or path is recognised, or the arguments end; so an unknown argument right
behind it is reported first.
-/

namespace Brainfuck

namespace CommandLine

/-- An option that takes a value, or the path of the program. -/
inductive Parameter where
  | filePath
  | configPath
  | tapeLength
  | inputPath
  | outputPath
  | dialect
  deriving DecidableEq

namespace Parameter

def long? : Parameter → Option String
  | filePath => none
  | configPath => some "config-path"
  | tapeLength => some "tape-length"
  | inputPath => some "input-path"
  | outputPath => some "output-path"
  | dialect => some "dialect"

def short? : Parameter → Option Char
  | filePath => none
  | configPath => some 'c'
  | tapeLength => some 't'
  | inputPath => some 'i'
  | outputPath => some 'o'
  | dialect => some 'd'

/-- How messages show the parameter. -/
def usage : Parameter → String
  | filePath => "<FILE_PATH>"
  | configPath => "--config-path <CONFIG_PATH>"
  | tapeLength => "--tape-length <TAPE_LENGTH>"
  | inputPath => "--input-path <INPUT_PATH>"
  | outputPath => "--output-path <OUTPUT_PATH>"
  | dialect => "--dialect <DIALECT>"

end Parameter

/-- Why arguments are refused, or what they ask for instead of a command. -/
inductive ArgumentError where
  | help
  | version
  | noCommand
  | unknownCommand (name : String)
  | unknownArgument (argument : String)
  | missingValue (parameter : Parameter)
  | repeated (parameter : Parameter)
  | invalidDialect (value : String)
  | invalidTapeLength (value : String) (reason : NumeralError)
  /-- A flag that takes no value has one. -/
  | unexpectedValue (value flag : String)
  | missingParameters

/-- The first line of a text, without its end. -/
def firstLine (text : String) : String :=
  let line := text.toList.takeWhile (· ≠ '\n')
  let isEnded := line.length < text.length
  String.ofList (if isEnded && line.getLast? = some '\r' then line.dropLast else line)

namespace ArgumentError

/-- The first line of the report; requests for help or the version have none.
Of what the arguments contain it holds what a terminal shows. -/
def message? : ArgumentError → Option String
  | help => none
  | version => none
  | noCommand => none
  | unknownCommand name => report ("unrecognized subcommand '" ++ Text.shown name ++ "'")
  | unknownArgument argument =>
      report ("unexpected argument '" ++ Text.shown argument ++ "' found")
  | missingValue parameter =>
      report ("a value is required for '" ++ parameter.usage ++ "' but none was supplied")
  | repeated parameter =>
      report ("the argument '" ++ parameter.usage ++ "' cannot be used multiple times")
  | invalidDialect value =>
      report ("invalid value '" ++ Text.shown value ++ "' for '" ++ Parameter.dialect.usage ++ "'")
  | invalidTapeLength value reason =>
      report ("invalid value '" ++ Text.shown value ++ "' for '" ++ Parameter.tapeLength.usage
        ++ "': " ++ reason.message)
  | unexpectedValue value flag =>
      report ("unexpected value '" ++ Text.shown value ++ "' for '" ++ flag
        ++ "' found; no more were expected")
  | missingParameters => report "the following required arguments were not provided:"
where
  report (text : String) : Option String :=
    some (firstLine ("error: " ++ text))

end ArgumentError

inductive CommandName where
  | run
  | emit
  | dump
  deriving DecidableEq

namespace CommandName

def ofName? : String → Option CommandName
  | "run" => some run
  | "emit" => some emit
  | "dump" => some dump
  | _ => none

def options : CommandName → List Parameter
  | run => [.configPath, .tapeLength, .inputPath]
  | emit => [.outputPath, .configPath, .tapeLength, .dialect]
  | dump => [.outputPath, .configPath]

end CommandName

inductive Command where
  /-- Run a program on an input file or on standard input. -/
  | run (filePath : String) (configPath : Option String) (tapeLength : Option TapeLength)
      (inputPath : Option String)
  /-- Write a program as C code. -/
  | emit (filePath outputPath : String) (configPath : Option String)
      (tapeLength : Option TapeLength) (dialect : Option Dialect)
  /-- Write a program as a listing. -/
  | dump (filePath outputPath : String) (configPath : Option String)

/-- The parameters that were accepted so far. -/
structure Parameters where
  filePath : Option String := none
  configPath : Option String := none
  tapeLength : Option TapeLength := none
  inputPath : Option String := none
  outputPath : Option String := none
  dialect : Option Dialect := none

namespace Parameters

/-- A path must not be empty. -/
def checkPath (parameter : Parameter) (value : String) : Except ArgumentError String :=
  if value = "" then .error (.missingValue parameter) else .ok value

/-- A parameter must not be given twice. -/
def checkFirst {α : Type} (parameter : Parameter) (old : Option α) : Except ArgumentError Unit :=
  if old.isSome then .error (.repeated parameter) else .ok ()

def accept (parameters : Parameters) (parameter : Parameter) (value : String) :
    Except ArgumentError Parameters :=
  match parameter with
  | .filePath => do
      checkFirst parameter parameters.filePath
      return { parameters with filePath := ← checkPath parameter value }
  | .configPath => do
      checkFirst parameter parameters.configPath
      return { parameters with configPath := ← checkPath parameter value }
  | .inputPath => do
      checkFirst parameter parameters.inputPath
      return { parameters with inputPath := ← checkPath parameter value }
  | .outputPath => do
      checkFirst parameter parameters.outputPath
      return { parameters with outputPath := ← checkPath parameter value }
  | .tapeLength => do
      checkFirst parameter parameters.tapeLength
      match readTapeLength value with
      | .ok length => return { parameters with tapeLength := length }
      | .error reason => throw (.invalidTapeLength value reason)
  | .dialect => do
      checkFirst parameter parameters.dialect
      match Dialect.ofKey? (← checkPath parameter value) with
      | some dialect => return { parameters with dialect }
      | none => throw (.invalidDialect value)

/-- The command of a name with the parameters, some of which it requires. -/
def toCommand (parameters : Parameters) (name : CommandName) : Except ArgumentError Command :=
  match name, parameters.filePath, parameters.outputPath with
  | .run, some filePath, _ =>
      .ok (.run filePath parameters.configPath parameters.tapeLength parameters.inputPath)
  | .emit, some filePath, some outputPath =>
      .ok (.emit filePath outputPath parameters.configPath parameters.tapeLength
        parameters.dialect)
  | .dump, some filePath, some outputPath =>
      .ok (.dump filePath outputPath parameters.configPath)
  | _, _, _ => .error .missingParameters

end Parameters

/-- A parameter that was recognised but not yet accepted. -/
inductive Pending where
  | nothing
  /-- An option whose value is the next argument. -/
  | awaiting (parameter : Parameter)
  | value (parameter : Parameter) (text : String)

/-- What has been read of the arguments of a command. -/
structure Reading where
  parameters : Parameters := {}
  pending : Pending := .nothing
  /-- Whether the path of the program has been met. -/
  hasPath : Bool := false

namespace Reading

def settle (reading : Reading) : Except ArgumentError Reading :=
  match reading.pending with
  | .nothing => .ok reading
  | .awaiting parameter => .error (.missingValue parameter)
  | .value parameter text => do
      let parameters ← reading.parameters.accept parameter text
      return { reading with parameters, pending := .nothing }

/-- An option, with its value if that stands in the same argument. -/
def addOption (reading : Reading) (parameter : Parameter) :
    (value : Option String) → Except ArgumentError Reading
  | none => do return { ← reading.settle with pending := .awaiting parameter }
  | some value => do
      let reading ← reading.settle
      return { reading with parameters := ← reading.parameters.accept parameter value }

/-- The path of the program; there is only one. -/
def addPath (reading : Reading) (path : String) : Except ArgumentError Reading :=
  if reading.hasPath then .error (.unknownArgument path)
  else do
    return { ← reading.settle with pending := .value .filePath path, hasPath := true }

def askHelp (reading : Reading) : Except ArgumentError Reading := do
  let _ ← reading.settle
  throw .help

end Reading

inductive Argument where
  /-- Two dashes, behind which there are no options. -/
  | separator
  /-- A name behind two dashes, perhaps with a value behind an equals sign. -/
  | long (name : String) (value : Option String)
  /-- A character behind one dash, and the rest of the argument. -/
  | short (name : Char) (rest : List Char)
  | word (text : String)

namespace Argument

def ofString (text : String) : Argument :=
  match text.toList with
  | ['-', '-'] => .separator
  | '-' :: '-' :: chars =>
      let name := chars.takeWhile (· ≠ '=')
      let value :=
        match chars.drop name.length with
        | [] => none
        | _ :: value => some (String.ofList value)
      .long (String.ofList name) value
  | '-' :: name :: rest => .short name rest
  | _ => .word text

/-- The value behind a short option, if there is one; an equals sign in front
of it does not count. -/
def shortValue? : List Char → Option String
  | [] => none
  | '=' :: value => some (String.ofList value)
  | value => some (String.ofList value)

end Argument

/-- Read the arguments behind a separator: they are paths. -/
def readPaths (reading : Reading) : List String → Except ArgumentError Reading
  | [] => reading.settle
  | text :: rest => do readPaths (← reading.addPath text) rest

def readArguments (options : List Parameter) (reading : Reading) :
    List String → Except ArgumentError Reading
  | [] => reading.settle
  | text :: rest =>
      match Argument.ofString text with
      | .separator => readPaths reading rest
      | .long name value =>
          match options.find? fun option => option.long? = some name with
          | some option => do readArguments options (← reading.addOption option value) rest
          | none =>
              if name ≠ "help" then .error (.unknownArgument ("--" ++ name))
              else
                match value with
                | some value => .error (.unexpectedValue value "--help")
                | none => reading.askHelp
      | .short name value =>
          match options.find? fun option => option.short? = some name with
          | some option => do
              readArguments options
                (← reading.addOption option (Argument.shortValue? value)) rest
          | none =>
              if name = 'h' then reading.askHelp
              else .error (.unknownArgument (String.ofList ['-', name]))
      | .word text =>
          match reading.pending with
          | .awaiting parameter =>
              readArguments options { reading with pending := .value parameter text } rest
          | _ => do readArguments options (← reading.addPath text) rest

def readHelp : List String → ArgumentError
  | [] => .help
  | [name] =>
      if (CommandName.ofName? name).isSome || name = "help" then .help
      else .unknownCommand name
  | name :: next :: _ =>
      if (CommandName.ofName? name).isSome || name = "help" then .unknownCommand next
      else .unknownCommand name

def readTopFlag (name : String) (value : Option String) : ArgumentError :=
  match name, value with
  | "help", none => .help
  | "version", none => .version
  | "help", some value => .unexpectedValue value "--help"
  | "version", some value => .unexpectedValue value "--version"
  | _, _ => .unknownArgument ("--" ++ name)

def parse : List String → Except ArgumentError Command
  | [] => .error .noCommand
  | text :: rest =>
      match Argument.ofString text with
      | .separator =>
          match rest with
          | [] => .error .noCommand
          | next :: _ =>
              if (CommandName.ofName? next).isSome || next = "help" then
                .error (.unknownArgument next)
              else .error (.unknownCommand next)
      | .long name value => .error (readTopFlag name value)
      | .short 'h' _ => .error .help
      | .short 'V' _ => .error .version
      | .short name _ => .error (.unknownArgument (String.ofList ['-', name]))
      | .word text =>
          match CommandName.ofName? text with
          | some name => do
              let reading ← readArguments name.options {} rest
              reading.parameters.toCommand name
          | none =>
              if text = "help" then .error (readHelp rest) else .error (.unknownCommand text)

end CommandLine

end Brainfuck
