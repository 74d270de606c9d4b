import Federation.Proofs.Store.MembershipUpdate

/-!
# Federation.Proofs.Store.RecordEdit — changes of claims and credentials

What is recorded of one entity, its claims and a user's credentials, can be replaced as a whole or
changed by additions and removals. In a directory that offers all changes and has no faults, such
an edit does to the records what the directory does with its request, and nothing else; this holds
too where there is nothing to be done and the directory is not asked.
-/

namespace Federation

open Directory (network)

/-- A change of what is recorded of one entity. -/
inductive RecordEdit : Kind → Type where
  | replaceClaims {k : Kind} (claims : List Claim) : RecordEdit k
  | changeClaims {k : Kind} (add remove : List Claim) : RecordEdit k
  | replaceCredentials (credentials : List Credential) : RecordEdit .user
  | changeCredentials (add remove : List Credential) : RecordEdit .user

namespace RecordEdit

/-- The operation of the store, for the entity with a unique id. -/
def operation (uniqueId : String) : {k : Kind} → RecordEdit k → Operation
  | k, replaceClaims claims => .replaceClaims k uniqueId claims
  | k, changeClaims add remove => .changeClaims k uniqueId add remove
  | _, replaceCredentials credentials => .replaceCredentials uniqueId credentials
  | _, changeCredentials add remove => .changeCredentials uniqueId add remove

/-- The request to a backend, for the entity with a local id. -/
def request (localId : String) : {k : Kind} → RecordEdit k → Request
  | k, replaceClaims claims => .replaceClaims k localId claims
  | k, changeClaims add remove => .changeClaims k localId add remove
  | _, replaceCredentials credentials => .replaceCredentials localId credentials
  | _, changeCredentials add remove => .changeCredentials localId add remove

/-- What the store says that failed if the backend fails. -/
def task (uniqueId : String) : {k : Kind} → RecordEdit k → Task
  | k, replaceClaims _ | k, changeClaims _ _ => .updateClaims k uniqueId
  | _, replaceCredentials _ | _, changeCredentials _ _ => .updateCredentials uniqueId

/-- Nothing is to be added and nothing to be removed. -/
def isIdle : {k : Kind} → RecordEdit k → Bool
  | _, replaceClaims _ | _, replaceCredentials _ => false
  | _, changeClaims add remove => add.isEmpty && remove.isEmpty
  | _, changeCredentials add remove => add.isEmpty && remove.isEmpty

end RecordEdit

/-! ## Records -/

namespace Contents

variable {c : Contents} {k : Kind} {l : String} {stored : List Claim}

/-- Claims that are set to what they are stay as they are. -/
theorem setEntity_of_get? (h : (c.entities k).get? l = some stored) : c.setEntity k l stored = c := by
  rw [setEntity, Dict.insert_of_get? h]
  cases k with
  | user => rfl
  | group => rfl

/-- The claims of an entity that is there can be changed. -/
theorem updateClaims_of_get? (h : (c.entities k).get? l = some stored)
    (f : List Claim → List Claim) : c.updateClaims k l f = (.ok (), c.setEntity k l (f stored)) := by
  rw [updateClaims, h]

/-- No edit of an entity that is there fails. -/
theorem respond_edit (h : (c.entities k).get? l = some stored) (edit : RecordEdit k) :
    ∃ a, (c.respond (edit.request l)).1 = .ok a := by
  cases edit with
  | replaceClaims claims => exact ⟨(), congrArg Prod.fst (updateClaims_of_get? h _)⟩
  | changeClaims add remove => exact ⟨(), congrArg Prod.fst (updateClaims_of_get? h _)⟩
  | replaceCredentials credentials => exact ⟨(), rfl⟩
  | changeCredentials add remove => exact ⟨(), rfl⟩

/-- An edit with nothing to be done changes nothing. -/
theorem respond_idle_edit (h : (c.entities k).get? l = some stored) {edit : RecordEdit k}
    (hidle : edit.isIdle = true) : (c.respond (edit.request l)).2 = c := by
  cases edit with
  | replaceClaims claims | replaceCredentials credentials => contradiction
  | changeClaims add remove =>
    rw [RecordEdit.isIdle, Bool.and_eq_true, List.isEmpty_iff, List.isEmpty_iff] at hidle
    obtain ⟨rfl, rfl⟩ := hidle
    have hsame : stored.filter (fun x => !([] : List Claim).contains x) ++ [] = stored := by simp
    show (c.updateClaims k l _).2 = c
    rw [updateClaims_of_get? h, hsame]
    exact setEntity_of_get? h
  | changeCredentials add remove =>
    rw [RecordEdit.isIdle, Bool.and_eq_true, List.isEmpty_iff, List.isEmpty_iff] at hidle
    obtain ⟨rfl, rfl⟩ := hidle
    rfl

end Contents

namespace Store

variable {s : Store} {k : Kind} {uniqueId l : String}

/-! ## Operations -/

/-- An edit is done at once if it is idle, and else comes down to one request. -/
theorem perform_edit {e : EntityId} (hread : s.registry.decode uniqueId = .ok e)
    (edit : RecordEdit k) : s.perform (edit.operation uniqueId) =
      if edit.isIdle then .done .nothing
      else (fun _ => .nothing) <$>
        Dialogue.demand (edit.task uniqueId) e.backend (edit.request e.localId) := by
  obtain ⟨b, -, hb, hlocate⟩ := locate_of_decode hread k
  rw [← hb]
  cases edit with
  | replaceClaims claims =>
    show _ <$> s.replaceClaims k uniqueId claims = _
    rw [replaceClaims, hlocate]
    rfl
  | changeClaims add remove =>
    show _ <$> s.changeClaims k uniqueId add remove = _
    rw [changeClaims, hlocate, RecordEdit.isIdle]
    show _ <$> (if (add.isEmpty && remove.isEmpty) = true then _ else _) = _
    cases add.isEmpty && remove.isEmpty with
    | true => rfl
    | false => rfl
  | replaceCredentials credentials =>
    show _ <$> s.replaceCredentials uniqueId credentials = _
    rw [replaceCredentials, hlocate]
    rfl
  | changeCredentials add remove =>
    show _ <$> s.changeCredentials uniqueId add remove = _
    rw [changeCredentials, hlocate, RecordEdit.isIdle]
    show _ <$> (if (add.isEmpty && remove.isEmpty) = true then _ else _) = _
    cases add.isEmpty && remove.isEmpty with
    | true => rfl
    | false => rfl

/-- An edit of an entity that is there is made in the records of its directory. -/
theorem done_edit (x : Slot) {c : Contents}
    (hread : s.registry.decode uniqueId = .ok ⟨x.backend, l⟩)
    (hpresent : (c.entities k).contains l = true) (edit : RecordEdit k) :
    s.Done [.operate (edit.operation uniqueId)] (x.holding c)
      (x.holding (c.respond (edit.request l)).2) := by
  obtain ⟨stored, hstored⟩ := Dict.contains_iff.1 hpresent
  have hperform := perform_edit hread edit
  cases hidle : edit.isIdle with
  | true =>
    -- the directory is not asked, and would change nothing if it were
    rw [hidle, if_pos rfl] at hperform
    rw [Contents.respond_idle_edit hstored hidle]
    apply done_singleton
    · rw [hperform]
      rfl
    · rw [hperform]
      rfl
  | false =>
    rw [hidle, if_neg Bool.false_ne_true] at hperform
    have hserve : network.serve x.backend (edit.request l) (x.holding c) =
        ⟨(c.respond (edit.request l)).1, x.holding (c.respond (edit.request l)).2,
          [.request (edit.request l)]⟩ := by
      cases edit with
      | _ => exact x.serve c rfl rfl
    exact done_of_demand x hperform hserve (Contents.respond_edit hstored edit)

end Store

end Federation
