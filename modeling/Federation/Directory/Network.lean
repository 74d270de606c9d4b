import Federation.Dialogue
import Federation.Directory.Basic

/-!
# Federation.Directory.Network — directories that a store can reach

A list of directories as a network. A backend id leads to the first enabled directory that has
it; a disabled directory is never reached. An id that no enabled directory has cannot be reached,
and a request to it fails.
-/

namespace Federation.Directory

/-- Whether requests for the backend id lead to the directory. -/
def answersTo (d : Directory) (backend : Int32) : Bool :=
  d.config.enabled && d.config.id = backend

/-- Puts a request to the directory that a backend id leads to. -/
def serveAt (backend : Int32) (r : Request) : List Directory → Reply r (List Directory)
  | [] => ⟨.error (.connection "no such backend"), [], []⟩
  | d :: rest =>
    if d.answersTo backend then
      let reply := d.serve r
      ⟨reply.outcome, reply.state :: rest, reply.log⟩
    else
      let reply := serveAt backend r rest
      ⟨reply.outcome, d :: reply.state, reply.log⟩

/-- Whether the directory that a backend id leads to supports a claim URI. -/
def supportsAt (backend : Int32) (uri : String) (directories : List Directory) : Bool :=
  match directories.find? (·.answersTo backend) with
  | some d => d.supports uri
  | none => false

/-- The network of a list of directories. -/
def network : Network (List Directory) := ⟨serveAt, supportsAt⟩

end Federation.Directory
