import Federation.Backend.Request

/-!
# Federation.Backend.Default — requests that come down to others

What a backend does with the requests it has no method of its own for. Claims are selected from
all claims of the entity, a batch is added one by one up to the first failure, and every other
change is refused.
-/

namespace Federation.Backend

variable {σ : Type}

/-- A backend's way to deal with requests. -/
abbrev Service (σ : Type) := (r : Request) → σ → Reply r σ

/-- Selects claims from all claims of the entity. -/
def selectClaims (serve : Service σ) (k : Kind) (id : String) (metas : List MetaClaim) (s : σ) :
    Reply (.claimsFor k id metas) σ :=
  let reply := serve (.claims k id) s
  ⟨reply.outcome.map (Claim.select metas), reply.state, reply.log⟩

/-- Adds the payloads one by one. The first failure ends the batch; what was added stays. -/
def addEach (serve : Service σ) (k : Kind) :
    List (Payload k) → σ → Except BackendError (List String) × σ × List Question
  | [], s => (.ok [], s, [])
  | p :: rest, s =>
    let first := serve (.add k p) s
    match first.outcome with
    | .error e => (.error e, first.state, first.log)
    | .ok id =>
      let (outcome, s', log) := addEach serve k rest first.state
      (outcome.map (id :: ·), s', first.log ++ log)

/-- A batch as a sequence of single additions. -/
def addOneByOne (serve : Service σ) (k : Kind) (payloads : List (Payload k)) (s : σ) :
    Reply (.addAll k payloads) σ :=
  let (outcome, s', log) := addEach serve k payloads s
  ⟨outcome, s', log⟩

/-- Refuses a request without looking at it. -/
def refuse (r : Request) (s : σ) : Reply r σ :=
  ⟨.error (.notSupported r.title), s, []⟩

end Federation.Backend
