import Federation.Proofs.Store.Enabled
import Federation.Proofs.Store.Listing

/-!
# Federation.Proofs.Store.Ground — stores over directories

A store that is made of the configurations of some directories reaches one of them by every name
that it does not refuse: the directory that the backend of this name is the configuration of.
-/

namespace Federation

/-- Entities of one backend with different local ids have different handles. -/
theorem Handle.of_injective {k : Kind} (b : BackendConfig) :
    Function.Injective (Handle.of b : String → Handle k) := by
  intro l l' h
  have hraw : EntityId.encode ⟨b.id, l⟩ = EntityId.encode ⟨b.id, l'⟩ :=
    congrArg Handle.uniqueId h
  exact congrArg EntityId.localId (EntityId.encode_injective hraw)

namespace Store

variable {s : Store} {ds : List Directory} {name : Option String}

/-- The store is made of the configurations of the directories. -/
def Over (s : Store) (ds : List Directory) : Prop :=
  ∃ config, ((create config (ds.map (·.config))).run Directory.network ds).result = .ok s

/-- What the directories hold does not matter for that. -/
theorem Over.of_configs {ds' : List Directory} (h : s.Over ds)
    (hconfigs : ds'.map (·.config) = ds.map (·.config)) : s.Over ds' := by
  obtain ⟨config, hmade⟩ := h
  refine ⟨config, ?_⟩
  rw [(run_create config _ Directory.network _).1] at hmade ⊢
  rw [hconfigs]
  exact hmade

/-- Every backend of the store is one of the directories, and can be reached. -/
theorem Over.at? (h : s.Over ds) {b : BackendConfig} (hb : b ∈ s.registry.ordered) :
    ∃ d ∈ ds, d.config = b ∧ Directory.at? b.id ds = some d := by
  obtain ⟨config, hmade⟩ := h
  rw [(run_create config _ Directory.network ds).1] at hmade
  obtain ⟨hmem, henabled⟩ := (mem_ordered_iff hmade).1 hb
  obtain ⟨d, hd, rfl⟩ := List.mem_map.1 hmem
  have hfound : (Directory.at? d.config.id ds).isSome = true := by
    rw [Directory.at?, List.find?_isSome]
    exact ⟨d, hd, by simp [Directory.answersTo, henabled]⟩
  obtain ⟨d', hd'⟩ := Option.isSome_iff_exists.1 hfound
  -- another directory with this id would be another backend with this id
  have hanswers := (Directory.at?_eq_some_iff.1 hd').1
  have hmem' := Directory.mem_of_at? hd'
  simp only [Directory.answersTo, Bool.and_eq_true, decide_eq_true_eq] at hanswers
  have hb' : d'.config ∈ s.registry.ordered :=
    (mem_ordered_iff hmade).2 ⟨List.mem_map_of_mem hmem', hanswers.1⟩
  exact ⟨d', hmem', Registry.eq_of_id_eq hb' hb hanswers.2, hd'⟩

/-- A directory that can be reached is one of the backends of the store. -/
theorem Over.registered (h : s.Over ds) {b : Int32} {d : Directory}
    (hat : Directory.at? b ds = some d) : s.registry.Registered b := by
  obtain ⟨config, hmade⟩ := h
  rw [(run_create config _ Directory.network ds).1] at hmade
  have hanswers := (Directory.at?_eq_some_iff.1 hat).1
  simp only [Directory.answersTo, Bool.and_eq_true, decide_eq_true_eq] at hanswers
  have hmem : d.config ∈ ds.map (·.config) := List.mem_map_of_mem (Directory.mem_of_at? hat)
  exact ⟨d.config, (mem_ordered_iff hmade).2 ⟨hmem, hanswers.1⟩, hanswers.2⟩

/-- The name leads to the backend `b`, which is the directory `d`. -/
structure Leads (s : Store) (name : Option String) (ds : List Directory) (b : BackendConfig)
    (d : Directory) : Prop where
  resolve : s.resolve name = .ok b
  at? : Directory.at? b.id ds = some d

/-- Every name that is not unknown leads to a directory. -/
theorem Over.leads (h : s.Over ds) (hname : s.Known name) :
    ∃ b ∈ s.registry.ordered, ∃ d ∈ ds, d.config = b ∧ s.Leads name ds b d := by
  obtain ⟨b, hresolve⟩ := exists_resolve hname
  have hb := mem_of_resolve hresolve
  obtain ⟨d, hd, hconfig, hat⟩ := h.at? hb
  exact ⟨b, hb, d, hd, hconfig, hresolve, hat⟩

/-- The unique ids of entities of one of two backends are read. -/
theorem decode_north {l : String} (hl : l ≠ "") :
    Registry.poles.decode (EntityId.encode ⟨-2147483648, l⟩) = .ok ⟨-2147483648, l⟩ :=
  Registry.decode_eq_ok_iff.2 ⟨⟨_, List.mem_cons_self, rfl⟩, hl, rfl⟩

/-- A store is made of the configurations of two directories. -/
theorem create_poles (ds : List Directory) (h : ds.map (·.config) = Registry.poles.ordered) :
    ((create .standard (ds.map (·.config))).run Directory.network ds).result =
      .ok ⟨.standard, .poles⟩ := by
  have hall : Registry.poles.ordered.filter (·.enabled) = Registry.poles.ordered := rfl
  rw [(run_create _ _ _ _).1, h, hall, Registry.ofList_poles]
  rfl

/-- It is one over these directories. -/
theorem over_poles (ds : List Directory) (h : ds.map (·.config) = Registry.poles.ordered) :
    (⟨.standard, .poles⟩ : Store).Over ds :=
  ⟨.standard, create_poles ds h⟩

end Store

end Federation
