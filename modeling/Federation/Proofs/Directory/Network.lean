import Federation.Directory.Network
import Federation.Proofs.Dialogue

/-!
# Federation.Proofs.Directory.Network — backends that keep to themselves

In a separated network every backend has a part of the state of its own: requests read and change
the part of the backend that they go to. A dialogue with one backend then depends on that
backend's part only, and leaves all others alone. A list of directories is such a network, in
which the part of a backend is the directory that its id leads to.
-/

namespace Federation

/-! ## Separation -/

section Separation

variable {ω π : Type}

/-- Every backend has a part of the state of its own, which alone decides what the backend says,
and which is all that the backend can change. -/
structure Network.Separated (net : Network ω) (part : Int32 → ω → π) : Prop where
  /-- The same part gives the same answer, and the same part afterwards. -/
  serve_congr {b : Int32} {r : Request} {w w' : ω} (h : part b w = part b w') :
    (net.serve b r w).outcome = (net.serve b r w').outcome ∧
      (net.serve b r w).log = (net.serve b r w').log ∧
      part b (net.serve b r w).state = part b (net.serve b r w').state
  serve_frame {b c : Int32} {r : Request} {w : ω} (h : c ≠ b) :
    part c (net.serve b r w).state = part c w
  supports_congr {b : Int32} {uri : String} {w w' : ω} (h : part b w = part b w') :
    net.supports b uri w = net.supports b uri w'

namespace Dialogue

variable {α : Type} {net : Network ω} {part : Int32 → ω → π} {b : Int32}

/-- Two runs of a dialogue that cannot be told apart by the client, nor by the backend `b`. -/
structure Alike (net : Network ω) (part : Int32 → ω → π) (b : Int32) (d : Dialogue α)
    (w w' : ω) : Prop where
  result : (d.run net w).result = (d.run net w').result
  exchanges : d.exchanges net w = d.exchanges net w'
  events : (d.run net w).events = (d.run net w').events
  part : part b (d.run net w).state = part b (d.run net w').state

/-- A dialogue goes by the parts of the backends that it may speak to. -/
theorem SpeaksWithin.alike {P : Int32 → Prop} {d : Dialogue α} (hd : d.SpeaksWithin P)
    (hnet : net.Separated part) {w w' : ω} (h : ∀ c, P c → part c w = part c w') (hb : P b) :
    Alike net part b d w w' := by
  induction d generalizing w w' with
  | done a => exact ⟨rfl, rfl, rfl, h b hb⟩
  | fail e => exact ⟨rfl, rfl, rfl, h b hb⟩
  | ask c r next ih =>
    rcases hd with ⟨hc, hnext⟩
    rcases hnet.serve_congr (r := r) (h c hc) with ⟨houtcome, hlog, hpart⟩
    -- the backend that was asked is in the same state in both runs, and the others still are
    have hparts : ∀ a, P a →
        part a (net.serve c r w).state = part a (net.serve c r w').state := by
      intro a ha
      by_cases hac : a = c
      · rw [hac]
        exact hpart
      · rw [hnet.serve_frame hac, hnet.serve_frame hac]
        exact h a ha
    have hrest := ih _ (hnext (net.serve c r w).outcome) hparts
    constructor
    · simp only [run, ← houtcome, hrest.result]
    · simp only [exchanges, ← houtcome, ← hlog, hrest.exchanges]
    · simp only [run, ← houtcome, hrest.events]
    · simp only [run, ← houtcome, hrest.part]
  | probe c uri next ih =>
    rcases hd with ⟨hc, hnext⟩
    have hsame : net.supports c uri w = net.supports c uri w' := hnet.supports_congr (h c hc)
    have hrest := ih _ (hnext (net.supports c uri w)) h
    constructor
    · simp only [run, ← hsame, hrest.result]
    · simp only [exchanges, ← hsame, hrest.exchanges]
    · simp only [run, ← hsame, hrest.events]
    · simp only [run, ← hsame, hrest.part]
  | note e next ih =>
    have hrest := ih hd h
    constructor
    · exact hrest.result
    · exact hrest.exchanges
    · simp only [run, hrest.events]
    · exact hrest.part

/-- A dialogue leaves all backends alone that it may not speak to. -/
theorem SpeaksWithin.frame {P : Int32 → Prop} {d : Dialogue α} (hd : d.SpeaksWithin P)
    (hnet : net.Separated part) {c : Int32} (hc : ¬ P c) (w : ω) :
    part c (d.run net w).state = part c w := by
  induction d generalizing w with
  | done a => rfl
  | fail e => rfl
  | ask c' r next ih =>
    rcases hd with ⟨hc', hnext⟩
    have hne : c ≠ c' := fun h => hc (h ▸ hc')
    have hrest := ih _ (hnext (net.serve c' r w).outcome) (net.serve c' r w).state
    exact hrest.trans (hnet.serve_frame hne)
  | probe c' uri next ih =>
    rcases hd with ⟨-, hnext⟩
    exact ih _ (hnext (net.supports c' uri w)) w
  | note e next ih => exact ih hd w

/-- A dialogue with one backend goes by that backend's part of the state. -/
theorem SpeaksTo.alike {d : Dialogue α} (hd : d.SpeaksTo b) (hnet : net.Separated part)
    {w w' : ω} (h : part b w = part b w') : Alike net part b d w w' := by
  refine (speaksTo_iff_within.1 hd).alike hnet ?_ rfl
  rintro c rfl
  exact h

/-- A dialogue with one backend leaves the others alone. -/
theorem SpeaksTo.frame {d : Dialogue α} (hd : d.SpeaksTo b) (hnet : net.Separated part)
    {c : Int32} (hc : c ≠ b) (w : ω) : part c (d.run net w).state = part c w :=
  (speaksTo_iff_within.1 hd).frame hnet hc w

end Dialogue

end Separation

/-! ## Directories -/

namespace Directory

/-- The directory that requests for a backend id lead to. -/
def at? (b : Int32) (ds : List Directory) : Option Directory :=
  ds.find? (·.answersTo b)

/-- A call does not change the configuration of a directory. -/
theorem config_call (r : Request) (d : Directory) : (d.call r).state.config = d.config := by
  unfold call
  split
  · rfl
  · rfl

theorem config_single (r : Request) (d : Directory) : (d.single r).state.config = d.config := by
  unfold single
  split
  · exact config_call r d
  · rfl

theorem config_addEach (k : Kind) (payloads : List (Payload k)) (d : Directory) :
    (Backend.addEach single k payloads d).2.1.config = d.config := by
  induction payloads generalizing d with
  | nil => rfl
  | cons p rest ih =>
    have hfirst := config_single (.add k p) d
    cases houtcome : (single (.add k p) d).outcome with
    | error e => simp only [Backend.addEach, houtcome, hfirst]
    | ok id => simp only [Backend.addEach, houtcome, ih, hfirst]

/-- No request changes the configuration of a directory. -/
theorem config_serve (r : Request) (d : Directory) : (d.serve r).state.config = d.config := by
  unfold serve
  split
  · exact config_single _ d
  · split
    · exact config_call _ d
    · exact config_addEach _ _ d
  · exact config_single _ d

/-- So requests for the same ids lead to it as before. -/
theorem answersTo_serve (r : Request) (d : Directory) (b : Int32) :
    (d.serve r).state.answersTo b = d.answersTo b := by
  rw [answersTo, answersTo, config_serve]

/-- No directory answers to two ids. -/
theorem not_answersTo {d : Directory} {b c : Int32} (h : d.answersTo b = true) (hc : c ≠ b) :
    d.answersTo c = false := by
  simp only [answersTo, Bool.and_eq_true, decide_eq_true_eq] at h
  simp [answersTo, h.2, hc.symm]

/-- A request to a directory that is there is answered by it alone. -/
theorem serveAt_of_some {b : Int32} {r : Request} {ds : List Directory} {d : Directory}
    (h : at? b ds = some d) :
    (serveAt b r ds).outcome = (d.serve r).outcome ∧ (serveAt b r ds).log = (d.serve r).log ∧
      at? b (serveAt b r ds).state = some (d.serve r).state := by
  induction ds with
  | nil => contradiction
  | cons d' rest ih =>
    cases hb : d'.answersTo b with
    | true =>
      have hd : d' = d := by
        simpa only [at?, List.find?_cons, hb, Option.some.injEq] using h
      subst hd
      simp only [serveAt, hb, if_true, at?, List.find?_cons, answersTo_serve, and_self]
    | false =>
      have hrest : at? b rest = some d := by
        simpa only [at?, List.find?_cons, hb] using h
      rcases ih hrest with ⟨houtcome, hlog, hstate⟩
      simp only [serveAt, hb, Bool.false_eq_true, if_false]
      refine ⟨houtcome, hlog, ?_⟩
      simpa only [at?, List.find?_cons, hb] using hstate

/-- A request to a directory that is not there fails, and changes nothing. -/
theorem serveAt_of_none {b : Int32} {r : Request} {ds : List Directory} (h : at? b ds = none) :
    serveAt b r ds = ⟨.error (.connection "no such backend"), ds, []⟩ := by
  induction ds with
  | nil => rfl
  | cons d rest ih =>
    cases hb : d.answersTo b with
    | true => simp only [at?, List.find?_cons, hb, reduceCtorEq] at h
    | false =>
      have hrest : at? b rest = none := by
        simpa only [at?, List.find?_cons, hb] using h
      simp only [serveAt, hb, Bool.false_eq_true, if_false, ih hrest]

/-- A request changes no directory but the one that it leads to. -/
theorem at?_serveAt {b c : Int32} {r : Request} {ds : List Directory} (hc : c ≠ b) :
    at? c (serveAt b r ds).state = at? c ds := by
  induction ds with
  | nil => rfl
  | cons d rest ih =>
    cases hb : d.answersTo b with
    | true =>
      have hd : d.answersTo c = false := not_answersTo hb hc
      simp only [serveAt, hb, if_true, at?, List.find?_cons, answersTo_serve, hd]
    | false =>
      simp only [serveAt, hb, Bool.false_eq_true, if_false, at?, List.find?_cons]
      cases d.answersTo c with
      | true => rfl
      | false => exact ih

/-- Directories are separated: the part of a backend is the directory that its id leads to. -/
theorem network_separated : network.Separated at? where
  serve_congr {b r w w'} h := by
    -- the id leads to the same directory in both lists, or to none in either
    show (serveAt b r w).outcome = (serveAt b r w').outcome ∧
      (serveAt b r w).log = (serveAt b r w').log ∧
      at? b (serveAt b r w).state = at? b (serveAt b r w').state
    cases hw : at? b w with
    | none =>
      rw [serveAt_of_none hw, serveAt_of_none (h ▸ hw)]
      exact ⟨rfl, rfl, h⟩
    | some d =>
      rcases serveAt_of_some (r := r) hw with ⟨ho, hl, hs⟩
      rcases serveAt_of_some (r := r) (h ▸ hw) with ⟨ho', hl', hs'⟩
      exact ⟨ho.trans ho'.symm, hl.trans hl'.symm, hs.trans hs'.symm⟩
  serve_frame h := at?_serveAt h
  supports_congr {b uri w w'} h := by
    show supportsAt b uri w = supportsAt b uri w'
    unfold at? at h
    unfold supportsAt
    rw [h]

end Directory

end Federation
