import Federation.Proofs.Store.Discretion
import Federation.Proofs.Store.Interleaving
import Mathlib.Data.List.Forall2

/-!
# Federation.Proofs.Store.Secrecy — the log tells no secrets

Claim values, search patterns and credentials do not get into the log. Two operations that differ
in nothing else mirror each other: whatever they look at, they look only whether it is there, and
as long as backends answer both alike, they go the same way and write the same events. Nor does the
log tell in which words backends refuse a login, except at the level of debugging.
-/

namespace Federation

/-! ## Arguments that differ in secrets only -/

/-- Two claims that differ in their values only, of which neither or both are empty. -/
structure Claim.SameButValue (c c' : Claim) : Prop where
  uri : c.uri = c'.uri
  blank : c.isBlank = c'.isBlank

/-- The patterns of two searches may be any. -/
inductive Filter.SameButSecrets : Filter → Filter → Prop
  | all : SameButSecrets .all .all
  | byClaim {c c' : Claim} (h : c.SameButValue c') : SameButSecrets (.byClaim c) (.byClaim c')
  | byMetaClaim (m : MetaClaim) (pattern pattern' : String) :
      SameButSecrets (.byMetaClaim m pattern) (.byMetaClaim m pattern')

/-- Of credentials nothing is the same but how many there are. -/
def Payload.SameButSecrets : {k : Kind} → Payload k → Payload k → Prop
  | .user, u, u' => List.Forall₂ Claim.SameButValue (NewUser.claims u) (NewUser.claims u') ∧
      (NewUser.credentials u).length = (NewUser.credentials u').length
  | .group, g, g' => List.Forall₂ Claim.SameButValue (NewGroup.claims g) (NewGroup.claims g')

/-- Two operations that differ in nothing but claim values, patterns and credentials. -/
inductive Operation.SameButSecrets : Operation → Operation → Prop
  | same (op : Operation) : SameButSecrets op op
  | authenticate {c c' : Claim} {l l' : List Credential} (name : Option String)
      (hclaim : c.SameButValue c') (hcredentials : l.length = l'.length) :
      SameButSecrets (.authenticate c l name) (.authenticate c' l' name)
  | getByClaim {c c' : Claim} (k : Kind) (name : Option String) (hclaim : c.SameButValue c') :
      SameButSecrets (.getByClaim k c name) (.getByClaim k c' name)
  | list {f f' : Filter} (k : Kind) (offset length : Int32) (name : Option String)
      (hfilter : f.SameButSecrets f') :
      SameButSecrets (.list k f offset length name) (.list k f' offset length name)
  | add {k : Kind} {p p' : Payload k} (name : Option String)
      (hpayload : Payload.SameButSecrets p p') :
      SameButSecrets (.add k p name) (.add k p' name)
  | addAll {k : Kind} {ps ps' : List (Payload k)} (name : Option String)
      (hpayloads : List.Forall₂ Payload.SameButSecrets ps ps') :
      SameButSecrets (.addAll k ps name) (.addAll k ps' name)
  | replaceClaims {cs cs' : List Claim} (k : Kind) (uniqueId : String)
      (hclaims : List.Forall₂ Claim.SameButValue cs cs') :
      SameButSecrets (.replaceClaims k uniqueId cs) (.replaceClaims k uniqueId cs')
  | changeClaims {add add' remove remove' : List Claim} (k : Kind) (uniqueId : String)
      (hadd : List.Forall₂ Claim.SameButValue add add')
      (hremove : List.Forall₂ Claim.SameButValue remove remove') :
      SameButSecrets (.changeClaims k uniqueId add remove)
        (.changeClaims k uniqueId add' remove')
  | replaceCredentials {l l' : List Credential} (user : String) (h : l.length = l'.length) :
      SameButSecrets (.replaceCredentials user l) (.replaceCredentials user l')
  | changeCredentials {add add' remove remove' : List Credential} (user : String)
      (hadd : add.length = add'.length) (hremove : remove.length = remove'.length) :
      SameButSecrets (.changeCredentials user add remove) (.changeCredentials user add' remove')

/-- Two commands of which the operations are so. -/
def Command.SameButSecrets (c c' : Command) : Prop :=
  c.operation.SameButSecrets c'.operation

/-! ## What is checked of them -/

/-- Lists of the same length are both empty or both not. -/
theorem isEmpty_congr {α β : Type} {l : List α} {l' : List β} (h : l.length = l'.length) :
    l.isEmpty = l'.isEmpty := by
  rw [Bool.eq_iff_iff, List.isEmpty_iff_length_eq_zero, List.isEmpty_iff_length_eq_zero, h]

theorem Claim.SameButValue.checkSearch {c c' : Claim} (h : c.SameButValue c') :
    c.checkSearch = c'.checkSearch := by
  rw [Claim.checkSearch, Claim.checkSearch, h.uri, h.blank]

theorem Filter.SameButSecrets.check {f f' : Filter} (h : f.SameButSecrets f') :
    f.check = f'.check := by
  cases h with
  | all => rfl
  | byClaim h => exact h.checkSearch
  | byMetaClaim m pattern pattern' => rfl

/-- Claims that differ in their values are searched for a user name to the same effect. -/
theorem isNone_find?_congr {cs cs' : List Claim} (h : List.Forall₂ Claim.SameButValue cs cs')
    (uri : String) :
    (cs.find? fun c => c.uri = uri && !c.isBlank).isNone =
      (cs'.find? fun c => c.uri = uri && !c.isBlank).isNone := by
  induction h with
  | nil => rfl
  | cons h _ ih =>
    rw [List.find?_cons, List.find?_cons, h.uri, h.blank]
    split
    · rfl
    · exact ih

namespace Store

variable {s : Store} {k : Kind}

theorem validate_congr {p p' : Payload k} (h : Payload.SameButSecrets p p') :
    s.validate p = s.validate p' := by
  cases k with
  | user =>
    rcases h with ⟨hclaims, hcredentials⟩
    have hempty : NewUser.isEmpty p = NewUser.isEmpty p' := by
      rw [NewUser.isEmpty, NewUser.isEmpty, isEmpty_congr hclaims.length_eq,
        isEmpty_congr hcredentials]
    have hclaimless : (Payload.claims p).isEmpty = (Payload.claims p').isEmpty :=
      isEmpty_congr hclaims.length_eq
    have hname : (NewUser.claim? p s.config.usernameUri).isNone =
        (NewUser.claim? p' s.config.usernameUri).isNone := isNone_find?_congr hclaims _
    rw [validate, validate, hempty, hclaimless, hname]
  | group =>
    have hempty : NewGroup.isEmpty p = NewGroup.isEmpty p' :=
      isEmpty_congr (List.Forall₂.length_eq h)
    rw [validate, validate, hempty]

theorem validateAll_congr {ps ps' : List (Payload k)}
    (h : List.Forall₂ Payload.SameButSecrets ps ps') : s.validateAll ps = s.validateAll ps' := by
  induction h with
  | nil => rfl
  | cons h _ ih => rw [validateAll, validateAll, validate_congr h, ih]

theorem validateBatch_congr {ps ps' : List (Payload k)}
    (h : List.Forall₂ Payload.SameButSecrets ps ps') :
    s.validateBatch ps = s.validateBatch ps' := by
  rw [validateBatch, validateBatch, isEmpty_congr h.length_eq, validateAll_congr h]

end Store

/-! ## What backends say -/

/-- What a backend can say in answer to a question, apart from what the question was. -/
inductive Word where
  | truth (b : Bool)
  | found (localId : Option String)
  | ids (localIds : List String)
  | claims (claims : List Claim)
  | id (localId : String)
  | done

/-- The answer to a request, apart from the request. -/
def Request.word : (r : Request) → r.Answer → Word
  | isPresent .., b | isMember .., b => .truth b
  | find .., localId => .found localId
  | list .., ids | memberships .., ids | addAll .., ids => .ids ids
  | claims .., cs | claimsFor .., cs => .claims cs
  | authenticate .., id | add .., id => .id id
  | replaceClaims .., _ | changeClaims .., _ | replaceCredentials .., _
  | changeCredentials .., _ | delete .., _ | replaceMemberships .., _
  | changeMemberships .., _ => .done

/-- Answers to one request that are told apart are different words. -/
theorem Request.word_injective {r : Request} {a a' : r.Answer} (h : r.word a = r.word a') :
    a = a' := by
  cases r with
  | isPresent | isMember => exact Word.truth.inj h
  | find => exact Word.found.inj h
  | list | memberships | addAll => exact Word.ids.inj h
  | claims | claimsFor => exact Word.claims.inj h
  | authenticate | add => exact Word.id.inj h
  | _ => rfl

/-- What the backend said in an exchange: a word, or its failure. -/
def Exchange.said : Exchange → Except BackendError Word
  | request _ r outcome _ => outcome.map r.word
  | support _ _ answer => .ok (.truth answer)

/-- Two sequences agree as far as both of them go. -/
def Agree {α : Type} (l l' : List α) : Prop :=
  ∀ (i : Nat) (a a' : α), l[i]? = some a → l'[i]? = some a' → a = a'

theorem Agree.of_eq {α : Type} {l l' : List α} (h : l = l') : Agree l l' := by
  intro i a a' ha ha'
  rw [h, ha'] at ha
  exact (Option.some.inj ha).symm

theorem Agree.cons {α : Type} {a a' : α} {l l' : List α} (h : Agree (a :: l) (a' :: l')) :
    a = a' ∧ Agree l l' :=
  ⟨h 0 a a' rfl rfl, fun i => h (i + 1)⟩

/-! ## Dialogues that mirror each other -/

namespace Dialogue

variable {α β : Type}

/-- Two dialogues that go the same way as long as backends say the same to both: they ask the same
backends, though what they ask them may differ, and write the same events. -/
inductive Mirrors : Dialogue α → Dialogue α → Prop
  | done (a : α) : Mirrors (.done a) (.done a)
  | fail (e : StoreError) : Mirrors (.fail e) (.fail e)
  | ask (b : Int32) {r r' : Request} {next : Except BackendError r.Answer → Dialogue α}
      {next' : Except BackendError r'.Answer → Dialogue α}
      (h : ∀ outcome outcome', outcome.map r.word = outcome'.map r'.word →
        Mirrors (next outcome) (next' outcome')) :
      Mirrors (.ask b r next) (.ask b r' next')
  | probe (b : Int32) (uri : String) {next next' : Bool → Dialogue α}
      (h : ∀ answer, Mirrors (next answer) (next' answer)) :
      Mirrors (.probe b uri next) (.probe b uri next')
  | note (e : Event) {next next' : Dialogue α} (h : Mirrors next next') :
      Mirrors (.note e next) (.note e next')

namespace Mirrors

/-- What is said alike is a failure in both cases, or an answer in both. -/
theorem of_outcomes {b : Int32} {r r' : Request} {next : Except BackendError r.Answer → Dialogue α}
    {next' : Except BackendError r'.Answer → Dialogue α}
    (hanswer : ∀ a a', r.word a = r'.word a' → Mirrors (next (.ok a)) (next' (.ok a')))
    (hfailure : ∀ e, Mirrors (next (.error e)) (next' (.error e))) :
    Mirrors (.ask b r next) (.ask b r' next') := by
  refine .ask b ?_
  rintro (e | a) (e' | a') h
  · injection h with h
    subst h
    exact hfailure e
  · contradiction
  · contradiction
  · injection h with h
    exact hanswer a a' h

/-- A dialogue mirrors itself. -/
theorem refl (d : Dialogue α) : Mirrors d d := by
  induction d with
  | done a => exact .done a
  | fail e => exact .fail e
  | ask b r next ih =>
    apply of_outcomes
    · intro a a' h
      rw [Request.word_injective h]
      exact ih _
    · exact fun e => ih _
  | probe b uri next ih => exact .probe b uri ih
  | note e next ih => exact .note e ih

theorem bind {d d' : Dialogue α} {f f' : α → Dialogue β} (h : Mirrors d d')
    (hf : ∀ a, Mirrors (f a) (f' a)) : Mirrors (d >>= f) (d' >>= f') := by
  induction h with
  | done a => exact hf a
  | fail e => exact .fail e
  | ask b _ ih => exact .ask b ih
  | probe b uri _ ih => exact .probe b uri ih
  | note e _ ih => exact .note e ih

theorem map {d d' : Dialogue α} (f : α → β) (h : Mirrors d d') : Mirrors (f <$> d) (f <$> d') :=
  h.bind fun a => .done (f a)

/-- A check with the same outcome. -/
theorem guard {x x' : Except StoreError α} {f f' : α → Dialogue β} (hx : x = x')
    (hf : ∀ a, Mirrors (f a) (f' a)) : Mirrors (ofExcept x >>= f) (ofExcept x' >>= f') := by
  subst hx
  exact (refl _).bind hf

/-- Two changes of which both or neither have nothing to do. -/
theorem unlessIdle {idle idle' : Bool} {a : α} {d d' : Dialogue α} (hidle : idle = idle')
    (h : Mirrors d d') :
    Mirrors (if idle then .done a else d) (if idle' then .done a else d') := by
  subst hidle
  split
  · exact .done a
  · exact h

/-- Requests that must succeed: what follows them has to do with answers in the same words. -/
theorem demand_bind {task : Task} {b : Int32} {r r' : Request} {f : r.Answer → Dialogue β}
    {f' : r'.Answer → Dialogue β}
    (hf : ∀ a a', r.word a = r'.word a' → Mirrors (f a) (f' a')) :
    Mirrors (demand task b r >>= f) (demand task b r' >>= f') := by
  rw [Dialogue.demand_bind, Dialogue.demand_bind]
  exact of_outcomes hf fun e => .fail _

/-- In runs in which backends say the same, as far as both go, the dialogues end the same, write
the same events and are over at the same time. -/
theorem run {d d' : Dialogue α} (h : Mirrors d d') {ω ω' : Type} (net : Network ω) (w : ω)
    (net' : Network ω') (w' : ω') {rest rest' : List (Except BackendError Word)}
    (hsaid : Agree ((d.exchanges net w).map Exchange.said ++ rest)
      ((d'.exchanges net' w').map Exchange.said ++ rest')) :
    (d.run net w).result = (d'.run net' w').result ∧
      (d.run net w).events = (d'.run net' w').events ∧ Agree rest rest' := by
  -- `rest` is what is said after the dialogues; nothing of it is used up by them
  induction h generalizing w w' with
  | done a => exact ⟨rfl, rfl, hsaid⟩
  | fail e => exact ⟨rfl, rfl, hsaid⟩
  | ask b _ ih =>
    rcases hsaid.cons with ⟨hsame, hlater⟩
    exact ih _ _ hsame _ _ hlater
  | probe b uri _ ih =>
    rcases hsaid.cons with ⟨hsame, hlater⟩
    have hanswer : net.supports b uri w = net'.supports b uri w' :=
      Word.truth.inj (Except.ok.inj hsame)
    simp only [Dialogue.run, ← hanswer] at hlater ⊢
    exact ih _ _ _ hlater
  | note e _ ih =>
    rcases ih _ _ hsaid with ⟨hresult, hevents, hrest⟩
    refine ⟨hresult, ?_, hrest⟩
    simp only [Dialogue.run, hevents]

end Mirrors

end Dialogue

/-! ## Operations -/

namespace Store

open Dialogue (Mirrors)

variable {s : Store} {k : Kind}

/-- A login at one backend. -/
theorem mirrors_authenticateAt (b : BackendConfig) (c c' : Claim) (l l' : List Credential) :
    Mirrors (authenticateAt b c l) (authenticateAt b c' l') := by
  apply Mirrors.of_outcomes
  · intro localId localId' h
    rw [Word.id.inj h]
    exact .refl _
  · exact fun e => .refl _

/-- A search for a backend that accepts a login. -/
theorem mirrors_scan {c c' : Claim} (hclaim : c.SameButValue c') (l l' : List Credential)
    (bs : List BackendConfig) : Mirrors (scan c l bs) (scan c' l' bs) := by
  induction bs with
  | nil => exact .fail _
  | cons b rest ih =>
    -- of the claim only the URI is looked at
    simp only [scan, hclaim.uri]
    apply Mirrors.probe
    rintro (_ | _)
    · exact .note _ ih
    · apply Mirrors.of_outcomes
      · intro localId localId' h
        rw [Word.id.inj h]
        exact .refl _
      · intro e
        show Mirrors (if e.isAuthentication then _ else _) (if e.isAuthentication then _ else _)
        split
        · exact .note _ ih
        · exact .refl _

theorem mirrors_authenticate {c c' : Claim} {l l' : List Credential} (name : Option String)
    (hclaim : c.SameButValue c') (hcredentials : l.length = l'.length) :
    Mirrors (s.authenticate c l name) (s.authenticate c' l' name) := by
  rw [authenticate, authenticate, hclaim.blank, isEmpty_congr hcredentials]
  split
  · exact .fail _
  · split
    · exact .guard rfl fun b => mirrors_authenticateAt b c c' l l'
    · exact mirrors_scan hclaim l l' _

/-- Operations that differ in secrets only mirror each other. -/
theorem mirrors_perform {op op' : Operation} (h : op.SameButSecrets op') :
    Mirrors (s.perform op) (s.perform op') := by
  cases h with
  | same op => exact .refl _
  | authenticate name hclaim hcredentials =>
    exact (mirrors_authenticate name hclaim hcredentials).map _
  | getByClaim k name hclaim =>
    apply Mirrors.map
    refine .guard hclaim.checkSearch fun _ => .guard rfl fun b => .demand_bind ?_
    intro found found' hfound
    rw [Word.found.inj hfound, hclaim.uri]
    cases found' with
    | none => exact .fail _
    | some localId => exact .done _
  | list k offset length name hfilter =>
    apply Mirrors.map
    refine .guard hfilter.check fun _ => .guard rfl fun page => ?_
    cases page with
    | none => exact .refl _
    | some page =>
      refine .guard rfl fun b => .demand_bind ?_
      intro ids ids' hids
      rw [Word.ids.inj hids]
      exact .refl _
  | add name hpayload =>
    apply Mirrors.map
    refine .guard (validate_congr hpayload) fun _ => .guard rfl fun b => .demand_bind ?_
    intro id id' hid
    rw [Word.id.inj hid]
    exact .refl _
  | addAll name hpayloads =>
    apply Mirrors.map
    refine .guard (validateBatch_congr hpayloads) fun _ => .guard rfl fun b => .demand_bind ?_
    intro ids ids' hids
    rw [Word.ids.inj hids]
    exact .refl _
  | replaceClaims k uniqueId hclaims =>
    apply Mirrors.map
    exact .guard rfl fun p => .of_outcomes (fun _ _ _ => .done ()) fun e => .fail _
  | @changeClaims add add' remove remove' k uniqueId hadd hremove =>
    apply Mirrors.map
    have hidle : (add.isEmpty && remove.isEmpty) = (add'.isEmpty && remove'.isEmpty) := by
      rw [isEmpty_congr hadd.length_eq, isEmpty_congr hremove.length_eq]
    refine .guard rfl fun p => .unlessIdle hidle ?_
    exact .of_outcomes (fun _ _ _ => .done ()) fun e => .fail _
  | replaceCredentials user h =>
    apply Mirrors.map
    exact .guard rfl fun p => .of_outcomes (fun _ _ _ => .done ()) fun e => .fail _
  | @changeCredentials add add' remove remove' user hadd hremove =>
    apply Mirrors.map
    have hidle : (add.isEmpty && remove.isEmpty) = (add'.isEmpty && remove'.isEmpty) := by
      rw [isEmpty_congr hadd, isEmpty_congr hremove]
    refine .guard rfl fun p => .unlessIdle hidle ?_
    exact .of_outcomes (fun _ _ _ => .done ()) fun e => .fail _

/-! ## Sequences of commands -/

/-- All that backends say while commands are carried out, call for call. -/
def replies {ω : Type} (s : Store) (net : Network ω) (cs : List Command) (w : ω) :
    List (Except BackendError Word) :=
  (s.course net cs w).1.flatMap fun o => o.exchanges.map Exchange.said

/-- Commands that differ in secrets only have the same answers and leave the same log, if backends
say the same as far as both sequences go. -/
theorem course_mirrors {ω ω' : Type} (net : Network ω) (net' : Network ω') {cs cs' : List Command}
    (h : List.Forall₂ Command.SameButSecrets cs cs') {w : ω} {w' : ω'}
    (hsaid : Agree (s.replies net cs w) (s.replies net' cs' w')) :
    (s.course net cs w).1.map (·.result) = (s.course net' cs' w').1.map (·.result) ∧
      (s.course net cs w).1.map (·.events) = (s.course net' cs' w').1.map (·.events) := by
  induction h generalizing w w' with
  | nil => exact ⟨rfl, rfl⟩
  | @cons c c' rest rest' hc _ ih =>
    have hmirrors : Mirrors (s.obey c) (s.obey c') := mirrors_perform hc
    rcases hmirrors.run net w net' w' hsaid with ⟨hresult, hevents, hlater⟩
    rcases ih hlater with ⟨hresults, hlogs⟩
    exact ⟨congrArg₂ List.cons hresult hresults, congrArg₂ List.cons hevents hlogs⟩

end Store

/-! ## Logins -/

/-- The event is for more than debugging: its level is `info` or above. -/
def Event.isAudible (e : Event) : Bool := e.level ≠ .debug

namespace Store

/-- What is heard of a login that ends so: nothing but the failure of a backend for another reason
than the credentials. -/
def alarms {α : Type} : Except StoreError α → List Event
  | .error (.backendFailure (.authenticate backend) e) => [.attemptFailed backend e]
  | _ => []

/-- Nothing else is heard of a search for a backend that accepts a login. -/
theorem audible_scan {ω : Type} (c : Claim) (l : List Credential) (bs : List BackendConfig)
    (net : Network ω) (w : ω) :
    ((scan c l bs).run net w).events.filter (·.isAudible) =
      alarms ((scan c l bs).run net w).result := by
  induction bs generalizing w with
  | nil => rfl
  | cons b rest ih =>
    have hrejected : ∀ e, (Event.rejected b.name e).isAudible = false := fun _ => rfl
    have hfailed : ∀ e, (Event.attemptFailed b.name e).isAudible = true := fun _ => rfl
    cases hsupports : net.supports b.id c.uri w with
    | false =>
      have hskipped : (Event.unsupported b.name c.uri).isAudible = false := rfl
      simp only [scan, Dialogue.run, hsupports, List.filter_cons, hskipped, Bool.false_eq_true,
        if_false, ih]
    | true =>
      rcases hserve : net.serve b.id (.authenticate c l) w with ⟨e | localId, w', log⟩
      · cases he : e.isAuthentication with
        | true =>
          simp only [scan, Dialogue.run, hsupports, hserve, he, if_true, List.filter_cons,
            hrejected, Bool.false_eq_true, if_false, ih]
        | false =>
          simp only [scan, Dialogue.run, hsupports, hserve, he, Bool.false_eq_true, if_false,
            List.filter_cons, hfailed, if_true]
          rfl
      · simp only [scan, Dialogue.run, hsupports, hserve]
        rfl

end Store

namespace Login

variable {ω ω' : Type}

/-- The log of a login. -/
def events (x : Login ω) : List Event := (x.dialogue.run x.net x.state).events

/-- What is heard of a login without a backend name is decided by how it ends. -/
theorem audible_of_unnamed {x : Login ω} (h : x.Unnamed) :
    x.events.filter (·.isAudible) = Store.alarms x.result := by
  rw [events, result, dialogue_of_unnamed h]
  split
  · rfl
  · exact Store.audible_scan _ _ _ _ _

/-- So nothing is heard of how backends refuse it. -/
theorem Resembles.audible {x : Login ω} {y : Login ω'} (h : x.Resembles y) :
    x.events.filter (·.isAudible) = y.events.filter (·.isAudible) := by
  rw [audible_of_unnamed h.unnamed.1, audible_of_unnamed h.unnamed.2, h.alike.1]

end Login

/-- The log is discreet. Commands that differ only in claim values, search patterns and
credentials leave the same log, as long as backends say the same; and of two logins without a
backend name that differ only in how backends refuse them, the same is logged at the level of
`info` and above. -/
theorem Store.log_discreet {ω ω' : Type} :
    (∀ (s : Store) (net : Network ω) (net' : Network ω') (cs cs' : List Command) (w : ω) (w' : ω'),
      List.Forall₂ Command.SameButSecrets cs cs' →
      Agree (s.replies net cs w) (s.replies net' cs' w') →
        (s.course net cs w).1.map (·.events) = (s.course net' cs' w').1.map (·.events) ∧
        (s.course net cs w).1.map (·.result) = (s.course net' cs' w').1.map (·.result)) ∧
    ∀ (x : Login ω) (y : Login ω'), x.Resembles y →
      x.events.filter (·.isAudible) = y.events.filter (·.isAudible) := by
  constructor
  · intro s net net' cs cs' w w' h hsaid
    exact (course_mirrors net net' h hsaid).symm
  · exact fun x y h => h.audible

/-- Two users with different names and passwords are added and log in, and the log is the same. Two
logins that both backends refuse are told apart at the level of debugging only. -/
theorem Store.log_discreet_poles :
    let s : Store := ⟨.standard, .poles⟩
    let ds := Registry.poles.ordered.map Directory.new
    let visit (name secret : String) : List Command :=
      [.operate (.add .user ⟨[⟨Claim.usernameUri, name⟩], [.password secret]⟩ none),
        .operate (.authenticate ⟨Claim.usernameUri, name⟩ [.password secret] none)]
    let refused (words : BackendError) : Login Unit :=
      ⟨s, Login.closed fun _ => words, (), ⟨"name", "eve"⟩, [.password "?"], none⟩
    let locked := refused (.authenticationFailed "locked")
    let wrong := refused (.invalidCredentials "wrong password")
    (s.course Directory.network (visit "ann" "secret") ds).1.map (·.events) =
        (s.course Directory.network (visit "bob" "pw") ds).1.map (·.events) ∧
      (s.course Directory.network (visit "bob" "pw") ds).1.map (·.events) =
        [[.added .user "north"], [.authenticated "north"]] ∧
      locked.events.filter (·.isAudible) = wrong.events.filter (·.isAudible) ∧
      locked.events ≠ wrong.events := by
  intro s ds visit refused locked wrong
  have hclaim : Claim.SameButValue ⟨Claim.usernameUri, "ann"⟩ ⟨Claim.usernameUri, "bob"⟩ :=
    ⟨rfl, rfl⟩
  have hvisits : List.Forall₂ Command.SameButSecrets (visit "ann" "secret") (visit "bob" "pw") :=
    .cons (.add none ⟨.cons hclaim .nil, rfl⟩) (.cons (.authenticate none hclaim rfl) .nil)
  have hsaid : Agree (s.replies Directory.network (visit "ann" "secret") ds)
      (s.replies Directory.network (visit "bob" "pw") ds) := .of_eq rfl
  have hexplains : ∀ words, ∀ x ∈ (refused words).exchanges,
      (Oracle.ofState (Login.closed fun _ => words) ()).Explains x :=
    fun words => Oracle.explains_ofState _ _
  have hresembles : locked.Resembles wrong := by
    refine ⟨⟨rfl, rfl⟩, rfl, rfl, ?_, ?_⟩
    · exact ⟨_, _, Registry.ofList_poles, Registry.ofList_poles, rfl⟩
    · exact ⟨_, _, hexplains _, hexplains _, fun b _ => ⟨rfl, .refused rfl rfl⟩⟩
  obtain ⟨hlogs, -⟩ := Store.log_discreet.1 s Directory.network Directory.network _ _ ds ds
    hvisits hsaid
  refine ⟨hlogs, rfl, ?_, ?_⟩
  · exact Store.log_discreet.2 locked wrong hresembles
  · decide

end Federation
