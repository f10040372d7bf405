import Brainfuck.Toml.Value

/-!
# TOML documents

A document is built up from its lines.  A header opens a table or appends one
to an array of tables, and a key with a value belongs to the table that was
opened last.  Tables on the way to a key come into being by themselves.  A
table may be opened by a header only once, and what dotted keys have defined is
not opened again; values of other kinds are never extended.
-/

namespace Brainfuck

namespace Toml

/-- How a table came into being. -/
inductive Origin where
  /-- On the way to the table of a header. -/
  | implied
  /-- By a header of its own. -/
  | header
  /-- On the way to a dotted key. -/
  | dotted
  deriving DecidableEq

/-- A value of a document that is being built. -/
inductive Node where
  /-- A value that is complete. -/
  | leaf (value : Value)
  | table (origin : Origin) (entries : List (String × Node))
  /-- An array of tables: the last one, which is still open, and the earlier
  ones, last first. -/
  | tables (last : List (String × Node)) (earlier : List (List (String × Node)))

abbrev Entries := List (String × Node)

namespace Entries

def get? (entries : Entries) (key : String) : Option Node :=
  entries.lookup key

/-- Change the entry of a key, or add it at the end. -/
def set (key : String) (node : Node) : Entries → Entries
  | [] => [(key, node)]
  | (other, old) :: rest =>
      if other = key then (key, node) :: rest else (other, old) :: set key node rest

/-- Change the table at the end of a path of headers; missing tables on the way
are implied. -/
def update (change : Entries → Option Entries) : (path : List String) → Entries → Option Entries
  | [], entries => change entries
  | key :: path, entries =>
      match entries.get? key with
      | none => do
          return entries.set key (.table .implied (← update change path []))
      | some (.table origin inner) => do
          return entries.set key (.table origin (← update change path inner))
      | some (.tables last earlier) => do
          return entries.set key (.tables (← update change path last) earlier)
      | some (.leaf _) => none

/-- Open the table of a header whose last key is `key`. -/
def openTable (key : String) (entries : Entries) : Option Entries :=
  match entries.get? key with
  | none => some (entries.set key (.table .header []))
  | some (.table .implied inner) => some (entries.set key (.table .header inner))
  | some _ => none

/-- Append a table to the array of tables at `key`. -/
def openElement (key : String) (entries : Entries) : Option Entries :=
  match entries.get? key with
  | none => some (entries.set key (.tables [] []))
  | some (.tables last earlier) => some (entries.set key (.tables [] (last :: earlier)))
  | some _ => none

/-- Add a value under a dotted key, whose keys but the last are in `path`.
`isDotted` says whether the table itself was defined by dotted keys. -/
def assign (key : String) (value : Value) :
    (isDotted : Bool) → (path : List String) → Entries → Option Entries
  | isDotted, [], entries =>
      match isDotted, entries.get? key with
      | true, none => some (entries.set key (.leaf value))
      | _, _ => none
  | _, segment :: path, entries =>
      match entries.get? segment with
      | none => do
          return entries.set segment (.table .dotted (← assign key value true path []))
      | some (.table .dotted inner) => do
          return entries.set segment (.table .dotted (← assign key value true path inner))
      | some (.table .implied inner) => do
          return entries.set segment (.table .implied (← assign key value false path inner))
      | some (.tables last earlier) => do
          return entries.set segment (.tables (← assign key value false path last) earlier)
      | some (.table .header _) => none
      | some (.leaf _) => none

end Entries

mutual

def Node.toValue : Node → Value
  | .leaf value => value
  | .table _ entries => .table (entriesToValues entries)
  | .tables last earlier => .array (tablesToValues [.table (entriesToValues last)] earlier)

def entriesToValues : List (String × Node) → List (String × Value)
  | [] => []
  | (key, node) :: rest => (key, node.toValue) :: entriesToValues rest

/-- Put tables, last first, in front of those in `behind`. -/
def tablesToValues (behind : List Value) : List (List (String × Node)) → List Value
  | [] => behind
  | entries :: rest => tablesToValues (.table (entriesToValues entries) :: behind) rest

end

/-- A document that is being built: its root table, and the path of the table
that was opened last. -/
structure Document where
  root : Entries := []
  current : List String := []

namespace Document

/-- Take in a header; `isElement` tells the header of an array of tables. -/
def addHeader (document : Document) (isElement : Bool) (path : List String) (key : String) :
    Option Document := do
  let change := if isElement then Entries.openElement key else Entries.openTable key
  return { root := ← document.root.update change path, current := path ++ [key] }

/-- Take in a key, whose keys but the last are in `path`, and its value. -/
def addValue (document : Document) (path : List String) (key : String) (value : Value) :
    Option Document := do
  let root ← document.root.update (Entries.assign key value true path) document.current
  return { document with root }

end Document

end Toml

end Brainfuck
