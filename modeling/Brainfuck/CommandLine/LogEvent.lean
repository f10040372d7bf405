import Brainfuck.CCode.Dialect
import Brainfuck.Tape
import Brainfuck.Text.Quoted

/-!
# Log events

A session records what it is about to do and what it has done.  How the line of
an event looks in a log is left to the system, since it tells the time; the lines
below are those that do not.

Two things are left out: the events of the run of a program, from its first
instruction on, and standard error, which shows the events that the log filter
lets through.
-/

namespace Brainfuck

namespace CommandLine

inductive LogLevel where
  | info
  | debug

def LogLevel.name : LogLevel → String
  | .info => "INFO"
  | .debug => "DEBUG"

/-- What a session records.  Lengths of texts count bytes. -/
inductive LogEvent where
  | gotSource (length : Nat)
  | scanning (length : Nat)
  | builtProgram (size : Nat)
  | creatingTape (length : TapeLength)
  | assembling (size : Nat) (dialect : Dialect)
  | generated (length : Nat)
  | wroteCode (dialect : Dialect) (path : String)

namespace LogEvent

def level : LogEvent → LogLevel
  | gotSource _ => .debug
  | scanning _ => .info
  | builtProgram _ => .debug
  | creatingTape _ => .debug
  | assembling .. => .info
  | generated _ => .debug
  | wroteCode .. => .info

/-- The part of the program that records the event. -/
def target : LogEvent → String
  | gotSource _ => "tapefrick_hlir"
  | scanning _ => "tapefrick_hlir"
  | builtProgram _ => "tapefrick_machine::program"
  | creatingTape _ => "tapefrick_machine"
  | assembling .. => "tapefrick_c_assembler"
  | generated _ => "tapefrick_c_assembler"
  | wroteCode .. => "tapefrick"

def message : LogEvent → String
  | gotSource length => "got source with length " ++ toString length
  | scanning length => "scanning " ++ toString length ++ " chars"
  | builtProgram size => "built program with " ++ toString size ++ " instructions"
  | creatingTape length => "creating tape with " ++ toString length.count ++ " cells"
  | assembling size dialect =>
      "assembling " ++ toString size ++ " instructions as " ++ dialect.title
  | generated length => "generated " ++ toString length ++ " bytes of source"
  | wroteCode dialect path => "wrote " ++ dialect.title ++ " source to " ++ path

/-- The line of the event in the log for reading, without the time.  Levels are
aligned on the right. -/
def plainLine (event : LogEvent) : String :=
  let level := event.level.name
  "".pushn ' ' (5 - level.length) ++ level ++ " " ++ event.target ++ ": " ++ event.message ++ "\n"

/-- The line of the event in the log whose lines are data, without the time. -/
def structuredLine (event : LogEvent) : String :=
  "\x7b\"level\":" ++ Text.quotedJson event.level.name ++ ",\"message\":"
    ++ Text.quotedJson event.message ++ ",\"target\":" ++ Text.quotedJson event.target ++ "\x7d\n"

end LogEvent

end CommandLine

end Brainfuck
