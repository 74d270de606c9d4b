import Federation.Backend.Request
import Federation.Error
import Federation.Event

/-!
# Federation.Dialogue — what the store says to its backends

An operation of the store is a dialogue: it puts requests to backends, goes on according to their
answers, writes events to the log, and ends with a value or an error. A dialogue fixes what the
store does for every answer that a backend could give, and nothing of what backends are. Run
against a network of backends, it yields the store's answer, the state of the network, the
questions that were asked and the events that were logged.
-/

namespace Federation

/-! ## Dialogues -/

/-- A conversation with backends, which are addressed by their ids. -/
inductive Dialogue (α : Type) where
  /-- The end, with a value. -/
  | done (a : α)
  /-- The end, with an error. -/
  | fail (e : StoreError)
  /-- A request, and how to go on after the answer or failure. -/
  | ask (backend : Int32) (r : Request) (next : Except BackendError r.Answer → Dialogue α)
  /-- The question whether a backend supports a claim URI. -/
  | probe (backend : Int32) (uri : String) (next : Bool → Dialogue α)
  /-- An event for the log. -/
  | note (e : Event) (next : Dialogue α)

namespace Dialogue

variable {α β : Type}

/-- Goes on after a dialogue that ends with a value. -/
def bind : Dialogue α → (α → Dialogue β) → Dialogue β
  | done a, f => f a
  | fail e, _ => fail e
  | ask b r next, f => ask b r fun answer => (next answer).bind f
  | probe b uri next, f => probe b uri fun answer => (next answer).bind f
  | note e next, f => note e (next.bind f)

instance : Monad Dialogue where
  pure := done
  bind := bind

/-- A value, or an error at once. -/
def ofExcept : Except StoreError α → Dialogue α
  | .ok a => done a
  | .error e => fail e

/-- Puts a request to a backend. If the backend fails, so does the dialogue, with the failure as
its cause. -/
def demand (task : Task) (backend : Int32) (r : Request) : Dialogue r.Answer :=
  ask backend r fun
    | .ok answer => done answer
    | .error e => fail (.backendFailure task e)

/-- Writes an event to the log. -/
def tell (e : Event) : Dialogue Unit := note e (done ())

@[simp] theorem done_bind (a : α) (f : α → Dialogue β) : (done a >>= f) = f a := rfl

@[simp] theorem fail_bind (e : StoreError) (f : α → Dialogue β) : (fail e >>= f) = fail e := rfl

@[simp] theorem ask_bind (b : Int32) (r : Request)
    (next : Except BackendError r.Answer → Dialogue α) (f : α → Dialogue β) :
    (ask b r next >>= f) = ask b r fun answer => next answer >>= f := rfl

@[simp] theorem probe_bind (b : Int32) (uri : String) (next : Bool → Dialogue α)
    (f : α → Dialogue β) : (probe b uri next >>= f) = probe b uri fun answer => next answer >>= f :=
  rfl

@[simp] theorem note_bind (e : Event) (next : Dialogue α) (f : α → Dialogue β) :
    (note e next >>= f) = note e (next >>= f) := rfl

end Dialogue

/-! ## Running -/

/-- Backends that can be reached by their ids and share a state `ω`. -/
structure Network (ω : Type) where
  serve : (backend : Int32) → (r : Request) → ω → Reply r ω
  supports : (backend : Int32) → (uri : String) → ω → Bool

/-- What came of a dialogue. -/
structure Run (α ω : Type) where
  result : Except StoreError α
  state : ω
  /-- The questions that backends were asked, in order. -/
  asked : List (Int32 × Question)
  events : List Event

/-- Holds a dialogue with a network in a given state. -/
def Dialogue.run {α ω : Type} (net : Network ω) : Dialogue α → ω → Run α ω
  | done a, s => ⟨.ok a, s, [], []⟩
  | fail e, s => ⟨.error e, s, [], []⟩
  | ask b r next, s =>
    let reply := net.serve b r s
    let rest := (next reply.outcome).run net reply.state
    { rest with asked := reply.log.map (b, ·) ++ rest.asked }
  | probe b uri next, s =>
    let rest := (next (net.supports b uri s)).run net s
    { rest with asked := (b, .supportsClaim uri) :: rest.asked }
  | note e next, s =>
    let rest := next.run net s
    { rest with events := e :: rest.events }

end Federation
