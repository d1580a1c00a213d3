import TypeGraph.Proofs.Loader.History
import TypeGraph.Proofs.Loader.Meaning

/-!
The instances that a loader keeps over its whole life. Declarations may be edited at will between
calls, those of kept names included, so a kept type need not be what is declared now. It is still
what was declared when it was built: it has the name under which it is kept and is made of types
kept before it, and no call or edit ever touches it again.
-/

namespace TypeGraph

namespace Definition

@[simp] theorem id_assemble (id : Nat) (name : Text) (d : Definition)
    (targets : List DataType) : (d.assemble id name targets).id = id := by
  obtain ⟨ns, attributes, shape⟩ := d
  cases shape <;> rfl

/-- What a definition makes of targets, one for each reference, is made of these. -/
theorem parts_assemble {d : Definition} {targets : List DataType}
    (len : d.references.length = targets.length) (id : Nat) (name : Text) :
    (d.assemble id name targets).parts = targets := by
  obtain ⟨ns, attributes, shape⟩ := d
  cases shape with
  | object properties =>
      have len : properties.keys.length = targets.length :=
        properties.length_keys_eq_values.trans len
      exact List.map_snd_zip (Nat.le_of_eq len.symm)
  | composition kind items => rfl

end Definition

namespace Loader

section Explains

variable {definitions : Mapping Json} {resolved : Mapping DataType} {name : Text}
  {t part : DataType}

theorem Explains.id_eq (h : Explains definitions resolved name t) :
    t.id = resolved.position name := by
  cases h with
  | declared place _ _ _ => rw [Definition.id_assemble, place]
  | primitive place _ _ | unresolved place _ _ => exact place.symm

theorem Explains.kept_of_mem_parts (h : Explains definitions resolved name t)
    (hpart : part ∈ t.parts) :
    ∃ ref, resolved.get? ref = some part ∧ resolved.position ref < resolved.position name := by
  cases h with
  | declared place _ _ parts =>
      rw [Definition.parts_assemble parts.length_eq] at hpart
      obtain ⟨i, hi, rfl⟩ := List.getElem_of_mem hpart
      obtain ⟨ref, -, known, before⟩ := parts.get (parts.length_eq ▸ hi) hi
      exact ⟨ref, known, place ▸ before⟩
  | primitive _ _ _ | unresolved _ _ _ => exact absurd hpart List.not_mem_nil

end Explains

section ExplainedBy

variable {sources : Set (Mapping Json)} {resolved : Mapping DataType}

theorem ExplainedBy.name_eq (explained : ExplainedBy sources resolved) {name : Text}
    {t : DataType} (known : resolved.get? name = some t) : t.name = name := by
  obtain ⟨_, -, explains⟩ := explained name t known
  exact explains.name_eq

theorem ExplainedBy.id_eq (explained : ExplainedBy sources resolved) {name : Text}
    {t : DataType} (known : resolved.get? name = some t) : t.id = resolved.position name := by
  obtain ⟨_, -, explains⟩ := explained name t known
  exact explains.id_eq

theorem ExplainedBy.eq_of_id_eq (explained : ExplainedBy sources resolved)
    {name other : Text} {t u : DataType} (known : resolved.get? name = some t)
    (known' : resolved.get? other = some u) (same : t.id = u.id) : name = other := by
  rw [explained.id_eq known, explained.id_eq known'] at same
  exact Mapping.position_injective (Mapping.mem_keys_of_get? known) same

theorem ExplainedBy.kept_of_mem_parts (explained : ExplainedBy sources resolved)
    {name : Text} {t part : DataType} (known : resolved.get? name = some t)
    (hpart : part ∈ t.parts) :
    resolved.get? part.name = some part ∧
      resolved.position part.name < resolved.position name := by
  obtain ⟨_, -, explains⟩ := explained name t known
  obtain ⟨ref, knownPart, before⟩ := explains.kept_of_mem_parts hpart
  have same := explained.name_eq knownPart
  subst same
  exact ⟨knownPart, before⟩

/-- Whatever a kept type shows is kept before it. -/
theorem ExplainedBy.kept_of_mem_children (explained : ExplainedBy sources resolved)
    {name : Text} {t child : DataType} (known : resolved.get? name = some t)
    (hchild : child ∈ t.children) :
    resolved.get? child.name = some child ∧
      resolved.position child.name < resolved.position name := by
  -- A merged property belongs to a part, which is kept before the type.
  induction hp : resolved.position name using Nat.strongRecOn generalizing name t with
  | ind place ih =>
      rcases DataType.mem_parts_of_mem_children hchild with hpart | ⟨part, hpart, hchild⟩
      · exact hp ▸ explained.kept_of_mem_parts known hpart
      · obtain ⟨knownPart, before⟩ := explained.kept_of_mem_parts known hpart
        rw [hp] at before
        obtain ⟨knownChild, earlier⟩ := ih _ before knownPart hchild rfl
        exact ⟨knownChild, Nat.lt_trans earlier before⟩

end ExplainedBy

/-- What holds between calls, whatever has become of the declarations meanwhile. -/
structure Steady (l : Loader) : Prop where
  idle : l.resolving = []
  explained : ExplainedBy Set.univ l.resolved

theorem steady_ofDefinitions (definitions : Mapping Json) : (ofDefinitions definitions).Steady :=
  ⟨rfl, fun _ _ known => nomatch known⟩

theorem Steady.advance {l l' : Loader} (steady : l.Steady) (h : l.Advances l') : l'.Steady :=
  ⟨h.resolving.trans steady.idle, h.explained (Set.mem_univ _) steady.explained⟩

theorem Steady.perform {l : Loader} (steady : l.Steady) (operation : Operation) :
    (l.perform operation).Steady ∧ l.resolved.Grows (l.perform operation).resolved := by
  cases operation with
  | resolve ref =>
      have advances := resolve_advances steady.idle ref
      exact ⟨steady.advance advances, advances.grows⟩
  | load =>
      have advances := load_advances steady.idle
      exact ⟨steady.advance advances, advances.grows⟩
  | define _ _ | undefine _ => exact ⟨⟨steady.idle, steady.explained⟩, .refl _⟩

theorem Steady.run {l : Loader} (steady : l.Steady) (operations : List Operation) :
    (l.run operations).Steady ∧ l.resolved.Grows (l.run operations).resolved := by
  induction operations generalizing l with
  | nil => exact ⟨steady, .refl _⟩
  | cons operation operations ih =>
      obtain ⟨steady', grows⟩ := steady.perform operation
      obtain ⟨steady'', grows'⟩ := ih steady'
      exact ⟨steady'', grows.trans grows'⟩

theorem resolve_of_kept {l : Loader} {name : Text} {t : DataType}
    (known : l.resolved.get? name = some t) : l.resolve (.str name) = (.ok t, l) :=
  (Finds.kept known).resolveWithin_eq _

theorem Steady.kept_of_resolve {l : Loader} (steady : l.Steady) {name : Text} {t : DataType}
    (h : (l.resolve (.str name)).1 = .ok t) :
    (l.resolve (.str name)).2.resolved.get? name = some t := by
  have resolves := (resolve_eq_ok_iff steady.idle).mp (Prod.ext h rfl)
  cases resolves.keeps with
  | cons head _ =>
      obtain ⟨_, same, known, -⟩ := head
      obtain rfl := Json.str.inj same
      exact known

theorem Steady.load_of_kept {l : Loader} (steady : l.Steady) {name : Text} {t : DataType}
    (known : l.resolved.get? name = some t) {types : Mapping DataType}
    (h : l.load.1 = .ok types) (declared : name ∈ types.keys) : types.get? name = some t := by
  obtain ⟨ts, l₁, resolves, rfl, -⟩ := (load_eq_ok_iff steady.idle).mp (Prod.ext h rfl)
  obtain ⟨u, loaded⟩ := Mapping.exists_get?_of_mem_keys declared
  rw [loaded, ← kept_of_loaded resolves loaded, resolves.grows.get? known]

/-- Whatever is done with a loader, nothing is being built between calls, each name is kept with an
instance of its own that bears the name, and what an instance shows is kept before it. Entries stay
as and where they are, so a name that has been resolved once keeps its instance. -/
theorem run_keeps_instances (definitions : Mapping Json) (operations : List Operation) :
    let l := (ofDefinitions definitions).run operations
    l.resolving = [] ∧
    (∀ name t, l.resolved.get? name = some t → t.name = name) ∧
    (∀ name other t u, l.resolved.get? name = some t → l.resolved.get? other = some u →
      t.id = u.id → name = other) ∧
    (∀ name t, l.resolved.get? name = some t → ∀ child ∈ t.children,
      l.resolved.get? child.name = some child ∧
        l.resolved.position child.name < l.resolved.position name) ∧
    (∀ operation, l.resolved.Grows (l.perform operation).resolved) ∧
    ∀ name t, (l.resolve (.str name)).1 = .ok t → ∀ more,
      let later := (l.resolve (.str name)).2.run more
      (later.resolve (.str name)).1 = .ok t ∧
        ∀ types, later.load.1 = .ok types → name ∈ types.keys → types.get? name = some t := by
  intro l
  have steady : l.Steady := ((steady_ofDefinitions definitions).run operations).1
  refine ⟨steady.idle, ?names, ?distinct, ?children, ?grows, ?stays⟩
  case names => exact fun name t known => steady.explained.name_eq known
  case distinct =>
    exact fun name other t u known known' => steady.explained.eq_of_id_eq known known'
  case children => exact fun name t known child => steady.explained.kept_of_mem_children known
  case grows => exact fun operation => (steady.perform operation).2
  case stays =>
    intro name t resolved more later
    have after := steady.perform (.resolve (.str name))
    obtain ⟨steadyLater, grows⟩ := after.1.run more
    have known : later.resolved.get? name = some t := grows.get? (steady.kept_of_resolve resolved)
    constructor
    · rw [resolve_of_kept known]
    · intro types loaded declared
      exact steadyLater.load_of_kept known loaded declared

end Loader
end TypeGraph
