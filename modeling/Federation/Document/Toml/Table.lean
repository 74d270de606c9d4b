import Federation.Document.Value

/-!
# Federation.Document.Toml.Table — building tables

Assignments and headers of a document name their places by paths of keys. Here they are put
together into tables. How a table came about decides who may add to it: one that an assignment
with dots made may be extended by such assignments only, one that a header named may not be named
again, and one that only lay on the way to a header may still be named by one.
-/

namespace Federation.Document.Toml

/-- How a table came about. -/
inductive Origin where
  /-- By a header, or as the document itself. -/
  | header
  /-- On the way to a table that a header names. -/
  | implied
  /-- By an assignment with dots. -/
  | dotted
deriving DecidableEq

/-- What stands under a key while a document is put together. -/
inductive Node where
  | value (v : Value)
  | table (origin : Origin) (entries : List (String × Node))
  /-- The elements of a list of tables, each of them a table. -/
  | elements (tables : List Node)

/-- The entries of a table, in the order in which they were made. -/
abbrev Entries := List (String × Node)

/-! ## Finished values -/

mutual

/-- The value that a node stands for. -/
def Node.toValue : Node → Value
  | .value v => v
  | .table _ entries => .object (entriesToValues entries)
  | .elements tables => .list (nodesToValues tables)

/-- The members that entries stand for. -/
def entriesToValues : List (String × Node) → List (String × Value)
  | [] => []
  | (key, node) :: rest => (key, node.toValue) :: entriesToValues rest

/-- The items that nodes stand for. -/
def nodesToValues : List Node → List Value
  | [] => []
  | node :: rest => node.toValue :: nodesToValues rest

end

namespace Entries

/-- The node under a key. -/
def get? (entries : Entries) (key : String) : Option Node :=
  (entries.find? (·.1 = key)).map (·.2)

/-- Puts a node under a key, in the place of one that is there. -/
def put (entries : Entries) (key : String) (node : Node) : Entries :=
  if entries.any (·.1 = key) then
    entries.map fun e => if e.1 = key then (key, node) else e
  else entries ++ [(key, node)]

/-! ## Paths -/

/-- Changes the table at a path below a table of the given origin. Tables that are missing on the
way are made; a list of tables leads to its last element. A way of dots must not lead through a
table that a header named. -/
def atPath (byDots : Bool) (f : Origin → Entries → Option Entries) :
    List String → Origin → Entries → Option Entries
  | [], origin, entries => f origin entries
  | key :: path, _, entries =>
    match get? entries key with
    | none => do
      let origin := if byDots then .dotted else .implied
      let made ← atPath byDots f path origin []
      return put entries key (.table origin made)
    | some (.table origin inner) =>
      if byDots && origin = .header then none
      else do
        let changed ← atPath byDots f path origin inner
        return put entries key (.table origin changed)
    | some (.elements tables) =>
      match tables.getLast? with
      | some (.table origin inner) => do
        let changed ← atPath byDots f path origin inner
        return put entries key (.elements (tables.dropLast ++ [.table origin changed]))
      | _ => none
    | some (.value _) => none

/-! ## Assignments -/

/-- An assignment: the path of its key, the last part of it, and the value. -/
structure Assignment where
  path : List String
  key : String
  value : Value

/-- Makes an assignment in a table. Nothing may stand there yet. -/
def assign (entries : Entries) (a : Assignment) : Option Entries :=
  atPath true (fun origin inner =>
    if origin = .dotted ↔ a.path = [] then none
    else if (get? inner a.key).isSome then none
    else some (inner ++ [(a.key, .value a.value)])) a.path .header entries

/-- Makes assignments one after another. -/
def assignAll (entries : Entries) (assignments : List Assignment) : Option Entries :=
  assignments.foldlM assign entries

/-! ## Sections -/

/-- Where the assignments of a section belong. -/
inductive Target where
  /-- The document itself. -/
  | document
  /-- The table with this path and last key. -/
  | table (path : List String) (key : String)
  /-- A new element of the list of tables with this path and last key. -/
  | element (path : List String) (key : String)

/-- A header, or the beginning of the document, with the assignments up to the next header. -/
structure Section where
  target : Target
  assignments : List Assignment

/-- The entries of a table that a header may name: none, or those of one that only lay on the way
to another. -/
def reopened? : Option Node → Option Entries
  | none => some []
  | some (.table .implied inner) => some inner
  | some _ => none

/-- The elements of a list of tables to which one may be added. -/
def elements? : Option Node → Option (List Node)
  | none => some []
  | some (.elements tables) => some tables
  | some _ => none

/-- Adds a section to the document. -/
def addSection (document : Entries) (s : Section) : Option Entries :=
  match s.target with
  | .document => assignAll document s.assignments
  | .table path key =>
    atPath false (fun _ parent => do
      let inner ← assignAll (← reopened? (get? parent key)) s.assignments
      return put parent key (.table .header inner)) path .header document
  | .element path key =>
    atPath false (fun _ parent => do
      let tables ← elements? (get? parent key)
      let inner ← assignAll [] s.assignments
      return put parent key (.elements (tables ++ [.table .header inner]))) path .header document

/-- The document that sections make up. -/
def ofSections (sections : List Section) : Option Entries :=
  sections.foldlM addSection []

end Entries

end Federation.Document.Toml
