import Federation.Document.Toml.Lexical
import Federation.Document.Toml.Moment
import Federation.Document.Toml.Number
import Federation.Document.Toml.Table

/-!
# Federation.Document.Toml.Reader — documents in TOML

A reader for TOML 1.0. A document is read into sections, and the sections are put together into
tables; what cannot be put together is refused like what cannot be read. Lists and inline tables
nest up to a fixed depth.
-/

namespace Federation.Document.Toml

open Entries (Assignment Section Target)

/-! ## Values -/

/-- Splits the parts of a key into its path and its last part. -/
def splitKey : List String → Option (List String × String)
  | [] => none
  | [key] => some ([], key)
  | part :: rest => (splitKey rest).map fun (path, key) => (part :: path, key)

/-- A number or a moment. -/
def numberOrMoment? (s : List Char) : Option (Value × List Char) :=
  ((Moment.read? s).map fun (m, rest) => (m.toValue, rest)) <|> float? s <|> integer? s

/-- A truth value. -/
def truth? : List Char → Option (Value × List Char)
  | 't' :: 'r' :: 'u' :: 'e' :: rest => some (.truth true, rest)
  | 'f' :: 'a' :: 'l' :: 's' :: 'e' :: rest => some (.truth false, rest)
  | _ => none

/-- A value that holds no others. -/
def scalar? (s : List Char) : Option (Value × List Char) :=
  match s with
  | '"' :: _ | '\x27' :: _ => (text? s).map fun (cs, rest) => (.text (String.ofList cs), rest)
  | 't' :: _ | 'f' :: _ => truth? s
  | _ => numberOrMoment? s

mutual

/-- A value, with lists and inline tables nested `depth` deep in it at most. -/
def value (depth fuel : Nat) (s : List Char) : Option (Value × List Char) :=
  match fuel with
  | 0 => none
  | fuel + 1 =>
    match s, depth with
    | '[' :: rest, depth + 1 => (items depth fuel rest).map fun (vs, rest) => (.list vs, rest)
    | '\x7b' :: rest, depth + 1 => do
      let (assignments, rest) ← match skipSpace rest with
        | '\x7d' :: rest => some ([], rest)
        | rest => members depth fuel rest
      let entries ← Entries.assignAll [] assignments
      return (.object (entriesToValues entries), rest)
    | '[' :: _, 0 | '\x7b' :: _, 0 => none
    | s, _ => scalar? s

/-- The items of a list, from the next one on, or its end. -/
def items (depth fuel : Nat) (s : List Char) : Option (List Value × List Char) :=
  match fuel with
  | 0 => none
  | fuel + 1 =>
    match skipBlank s with
    | ']' :: rest => some ([], rest)
    | s => do
      let (v, rest) ← value depth fuel s
      match skipBlank rest with
      | ',' :: rest =>
        let (vs, rest) ← items depth fuel rest
        return (v :: vs, rest)
      | ']' :: rest => return ([v], rest)
      | _ => none

/-- The assignments of an inline table, from the next one on. -/
def members (depth fuel : Nat) (s : List Char) : Option (List Assignment × List Char) :=
  match fuel with
  | 0 => none
  | fuel + 1 => do
    let (parts, rest) ← key? s
    let (path, key) ← splitKey parts
    match rest with
    | '=' :: rest =>
      let (v, rest) ← value depth fuel (skipSpace rest)
      match skipSpace rest with
      | ',' :: rest =>
        let (others, rest) ← members depth fuel rest
        return (⟨path, key, v⟩ :: others, rest)
      | '\x7d' :: rest => return ([⟨path, key, v⟩], rest)
      | _ => none
    | _ => none

end

/-! ## Lines -/

/-- An assignment on a line of its own. -/
def assignment? (s : List Char) : Option (Assignment × List Char) := do
  let (parts, rest) ← key? s
  let (path, key) ← splitKey parts
  match rest with
  | '=' :: rest =>
    let (v, rest) ← value depthLimit (2 * rest.length + 2) (skipSpace rest)
    return (⟨path, key, v⟩, ← lineEnd? rest)
  | _ => none

/-- A header on a line of its own. -/
def header? : List Char → Option (Target × List Char)
  | '[' :: '[' :: rest => do
    let (parts, rest) ← key? rest
    let (path, key) ← splitKey parts
    match rest with
    | ']' :: ']' :: rest => return (.element path key, ← lineEnd? rest)
    | _ => none
  | '[' :: rest => do
    let (parts, rest) ← key? rest
    let (path, key) ← splitKey parts
    match rest with
    | ']' :: rest => return (.table path key, ← lineEnd? rest)
    | _ => none
  | _ => none

/-- The rest of a document: the assignments before the next header, and the sections from there
on. -/
def lines (fuel : Nat) (s : List Char) : Option (List Assignment × List Section) :=
  match fuel with
  | 0 => none
  | fuel + 1 =>
    match skipBlank s with
    | [] => some ([], [])
    | '[' :: rest => do
      let (target, rest) ← header? ('[' :: rest)
      let (assignments, sections) ← lines fuel rest
      return ([], ⟨target, assignments⟩ :: sections)
    | s => do
      let (a, rest) ← assignment? s
      let (assignments, sections) ← lines fuel rest
      return (a :: assignments, sections)

/-- Drops a byte order mark. -/
def skipMark : List Char → List Char
  | '\uFEFF' :: rest => rest
  | s => s

/-- The table that a document stands for. -/
def read? (document : String) : Option Value := do
  let s := skipMark document.toList
  let (assignments, sections) ← lines (s.length + 1) s
  let entries ← Entries.ofSections (⟨.document, assignments⟩ :: sections)
  return .object (entriesToValues entries)

end Federation.Document.Toml
