/-!
# Dialects of C

The generated code is C or C++.  The dialects differ in the headers, in the
line that opens the main function, and in how names from the headers are
qualified.
-/

namespace Brainfuck

inductive Dialect where
  | c
  | cpp
  deriving DecidableEq

namespace Dialect

def all : List Dialect :=
  [c, cpp]

/-- The name of the dialect in settings and on the command line. -/
def key : Dialect → String
  | c => "c"
  | cpp => "cpp"

def ofKey? (key : String) : Option Dialect :=
  all.find? fun dialect => dialect.key = key

/-- The name of the dialect for readers. -/
def title : Dialect → String
  | c => "C"
  | cpp => "C++"

def includes : Dialect → List String
  | c => ["<stdio.h>", "<stddef.h>"]
  | cpp => ["<cstdio>", "<cstddef>"]

def mainHead : Dialect → String
  | c => "int main(void)"
  | cpp => "int main()"

/-- What stands before a name from the headers. -/
def qualifier : Dialect → String
  | c => ""
  | cpp => "std::"

end Dialect

end Brainfuck
