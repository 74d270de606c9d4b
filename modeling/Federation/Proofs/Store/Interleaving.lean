import Federation.Proofs.Directory.Network
import Federation.Proofs.Store.Conduct

/-!
# Federation.Proofs.Store.Interleaving — clients of different backends

Two clients share a store, and each of them keeps to a backend of its own. A command reads and
changes its own backend only, so whatever the order in which the commands of both are carried out,
each client gets the answers that it would get alone, and leaves its backend as it would alone.
-/

namespace Federation

/-! ## Interleavings -/

/-- The third sequence has the items of the two others, each of them in its own order, and tells
which of the two an item is from. -/
inductive Interleaving {α β : Type} : List α → List β → List (α ⊕ β) → Prop
  | nil : Interleaving [] [] []
  | left (x : α) {xs : List α} {ys : List β} {l : List (α ⊕ β)} (h : Interleaving xs ys l) :
      Interleaving (x :: xs) ys (.inl x :: l)
  | right (y : β) {xs : List α} {ys : List β} {l : List (α ⊕ β)} (h : Interleaving xs ys l) :
      Interleaving xs (y :: ys) (.inr y :: l)

/-! ## Runs of commands -/

/-- What there is to see of a command: its answer, what was said to backends, and the log. -/
structure Outcome where
  result : Except StoreError Answer
  exchanges : List Exchange
  asked : List (Int32 × Question)
  events : List Event

namespace Store

variable {ω : Type} (s : Store) (net : Network ω)

/-- Carries out one command. -/
def carryOut (c : Command) (w : ω) : Outcome × ω :=
  let run := (s.obey c).run net w
  (⟨run.result, (s.obey c).exchanges net w, run.asked, run.events⟩, run.state)

/-- Carries out a sequence of commands. -/
def course : List Command → ω → List Outcome × ω
  | [], w => ([], w)
  | c :: rest, w =>
    let (o, w') := s.carryOut net c w
    let (os, w'') := course rest w'
    (o :: os, w'')

/-- Carries out the commands of two clients, and keeps apart what each of them sees. -/
def joint : List (Command ⊕ Command) → ω → List (Outcome ⊕ Outcome) × ω
  | [], w => ([], w)
  | .inl c :: rest, w =>
    let (o, w') := s.carryOut net c w
    let (os, w'') := joint rest w'
    (.inl o :: os, w'')
  | .inr c :: rest, w =>
    let (o, w') := s.carryOut net c w
    let (os, w'') := joint rest w'
    (.inr o :: os, w'')

/-- It makes no difference to the store whose command it carries out. -/
theorem course_joint (l : List (Command ⊕ Command)) (w : ω) :
    s.course net (l.map (Sum.elim id id)) w =
      ((s.joint net l w).1.map (Sum.elim id id), (s.joint net l w).2) := by
  induction l generalizing w with
  | nil => rfl
  | cons x rest ih =>
    cases x with
    | inl c =>
      have hrest := ih (s.carryOut net c w).2
      simp only [List.map_cons, Sum.elim_inl, id_eq, course, joint, hrest]
    | inr c =>
      have hrest := ih (s.carryOut net c w).2
      simp only [List.map_cons, Sum.elim_inr, id_eq, course, joint, hrest]

/-- What is seen of a command in a sequence is what is seen of it in some state. -/
theorem exists_carryOut_of_mem_course {cs : List Command} {w : ω} {c : Command} {o : Outcome}
    (h : (c, o) ∈ cs.zip (s.course net cs w).1) : ∃ w', o = (s.carryOut net c w').1 := by
  induction cs generalizing w with
  | nil => exact absurd h List.not_mem_nil
  | cons c' rest ih =>
    rw [course, List.zip_cons_cons] at h
    rcases List.mem_cons.1 h with heq | hlater
    · injection heq with hc ho
      subst hc
      exact ⟨w, ho⟩
    · exact ih hlater

/-- What every command preserves, a sequence of commands preserves. -/
theorem course_preserves {I : ω → Prop} (hstep : ∀ c w, I w → I (s.carryOut net c w).2)
    (cs : List Command) {w : ω} (hw : I w) : I (s.course net cs w).2 := by
  induction cs generalizing w with
  | nil => exact hw
  | cons c rest ih => exact ih (hstep c w hw)

/-! ## One command -/

variable {s net} {π : Type} {part : Int32 → ω → π} {a b : Int32}

/-- There is nothing else to see of a command than what runs that are alike have in common. -/
theorem carryOut_of_alike {c : Command} {w w' : ω}
    (h : Dialogue.Alike net part a (s.obey c) w w') :
    (s.carryOut net c w).1 = (s.carryOut net c w').1 := by
  unfold carryOut
  simp only [Dialogue.asked_run, h.result, h.exchanges, h.events]

/-- A command goes by the state of the backend that it addresses. -/
theorem carryOut_congr (hnet : net.Separated part) {c : Command}
    (hc : s.Addresses a c.operation) {w w' : ω} (h : part a w = part a w') :
    (s.carryOut net c w).1 = (s.carryOut net c w').1 ∧
      part a (s.carryOut net c w).2 = part a (s.carryOut net c w').2 := by
  have hspeaks : (s.obey c).SpeaksTo a := speaksTo_perform hc
  have halike := hspeaks.alike hnet h
  exact ⟨carryOut_of_alike halike, halike.part⟩

/-- A command changes no other backend. -/
theorem carryOut_frame (hnet : net.Separated part) {c : Command}
    (hc : s.Addresses a c.operation) (hb : b ≠ a) (w : ω) :
    part b (s.carryOut net c w).2 = part b w := by
  have hspeaks : (s.obey c).SpeaksTo a := speaksTo_perform hc
  exact hspeaks.frame hnet hb w

/-! ## All commands -/

/-- Two clients of different backends see nothing of each other, even if they start from states
that differ elsewhere. -/
theorem joint_of_interleaving (hnet : net.Separated part) (hab : a ≠ b) {A B : List Command}
    {l : List (Command ⊕ Command)} (hl : Interleaving A B l)
    (hA : ∀ c ∈ A, s.Addresses a c.operation) (hB : ∀ c ∈ B, s.Addresses b c.operation)
    {w wA wB : ω} (ha : part a w = part a wA) (hb : part b w = part b wB) :
    Interleaving (s.course net A wA).1 (s.course net B wB).1 (s.joint net l w).1 ∧
      part a (s.joint net l w).2 = part a (s.course net A wA).2 ∧
      part b (s.joint net l w).2 = part b (s.course net B wB).2 := by
  -- by the order of the commands; each keeps the joint state alike to both states of clients alone
  induction hl generalizing w wA wB with
  | nil => exact ⟨.nil, ha, hb⟩
  | left c _ ih =>
    rcases List.forall_mem_cons.1 hA with ⟨hc, hrest⟩
    rcases carryOut_congr hnet hc ha with ⟨hsame, hown⟩
    have hother := carryOut_frame hnet hc hab.symm w
    rcases ih hrest hB hown (hother.trans hb) with ⟨hseen, hleft, hright⟩
    refine ⟨?_, hleft, hright⟩
    simp only [course, joint, ← hsame]
    exact .left _ hseen
  | right c _ ih =>
    rcases List.forall_mem_cons.1 hB with ⟨hc, hrest⟩
    rcases carryOut_congr hnet hc hb with ⟨hsame, hown⟩
    have hother := carryOut_frame hnet hc hab w
    rcases ih hA hrest (hother.trans ha) hown with ⟨hseen, hleft, hright⟩
    refine ⟨?_, hleft, hright⟩
    simp only [course, joint, ← hsame]
    exact .right _ hseen

/-- Backends do not interfere. If all commands of one client address one backend, and all of
another client another one, then in any interleaving each of them sees what it sees alone, and its
directory ends as it ends alone. -/
theorem course_independent (s : Store) (ds : List Directory) {a b : Int32} (hab : a ≠ b)
    {A B : List Command} {l : List (Command ⊕ Command)} (hl : Interleaving A B l)
    (hA : ∀ c ∈ A, s.Addresses a c.operation) (hB : ∀ c ∈ B, s.Addresses b c.operation) :
    let aloneA := s.course Directory.network A ds
    let aloneB := s.course Directory.network B ds
    let together := s.joint Directory.network l ds
    Interleaving aloneA.1 aloneB.1 together.1 ∧
      Directory.at? a together.2 = Directory.at? a aloneA.2 ∧
      Directory.at? b together.2 = Directory.at? b aloneB.2 :=
  joint_of_interleaving Directory.network_separated hab hl hA hB rfl rfl

/-- Between two additions to the primary backend, a user of the other one is told to join a group
that is not in reach. -/
theorem course_independent_poles :
    let s : Store := ⟨.standard, .poles⟩
    let ds := Registry.poles.ordered.map Directory.new
    let ann := Command.operate (.add .user ⟨[⟨Claim.usernameUri, "ann"⟩], []⟩ none)
    let staff := Command.operate (.add .group ⟨[⟨Claim.groupnameUri, "staff"⟩]⟩ (some ""))
    let stray := Command.act .user ⟨EntityId.encode ⟨2147483647, "u.1"⟩, "south"⟩
      (.replaceMemberships [EntityId.encode ⟨-2147483648, "g.2"⟩])
    let alone := s.course Directory.network [ann, staff] ds
    let together := s.joint Directory.network [.inl ann, .inr stray, .inl staff] ds
    Interleaving alone.1 (s.course Directory.network [stray] ds).1 together.1 ∧
      Directory.at? (-2147483648) together.2 = Directory.at? (-2147483648) alone.2 := by
  intro s ds ann staff stray alone together
  have hprimary : ∀ name, given? name = none → s.NameLeadsTo (-2147483648) name := by
    intro name hname b hb
    have hb : s.registry.primary = b := by simpa only [resolve, hname, Except.ok.injEq] using hb
    rw [← hb]
    rfl
  have hann : s.Addresses (-2147483648) ann.operation := hprimary none rfl
  have hstaff : s.Addresses (-2147483648) staff.operation := hprimary (some "") rfl
  have hstray : s.Addresses 2147483647 stray.operation :=
    s.idLeadsTo_encode (e := ⟨2147483647, "u.1"⟩) (by decide)
  have hl : Interleaving [ann, staff] [stray] [.inl ann, .inr stray, .inl staff] :=
    .left _ (.right _ (.left _ .nil))
  obtain ⟨hseen, hnorth, -⟩ := course_independent s ds (by decide) hl
    (List.forall_mem_cons.2 ⟨hann, List.forall_mem_singleton.2 hstaff⟩)
    (List.forall_mem_singleton.2 hstray)
  exact ⟨hseen, hnorth⟩

end Store

end Federation
