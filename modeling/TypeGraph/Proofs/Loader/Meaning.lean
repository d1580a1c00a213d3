import TypeGraph.Proofs.Flattening
import TypeGraph.Proofs.Loader.Cache
import TypeGraph.Proofs.Loader.Reading

/-!
What kept types say, in terms of the declarations alone: their names, which of them are
unresolved, what they require, the object definitions that they merge and the properties that
these give.
-/

namespace TypeGraph

namespace Declarations

def fields (definitions : Mapping Json) (name : Text) : Mapping Json :=
  match definitions.get? name with
  | some (.obj entries) => Mapping.ofList entries
  | _ => Mapping.empty

/-- The properties that a name's definition gives, each with what it refers to. -/
def properties (definitions : Mapping Json) (name : Text) : List (Text × Text) :=
  match (fields definitions name).get? "properties" with
  | some (.obj entries) =>
      (Mapping.ofList entries).entries.filterMap fun e => e.2.asText?.map (Prod.mk e.1)
  | _ => []

/-- The names that a name's definition lists as required. -/
def required (definitions : Mapping Json) (name : Text) : List Text :=
  match (fields definitions name).get? "required" with
  | some (.arr names) => names.filterMap Json.asText?
  | _ => []

/-- A reference that is neither declared nor primitive, or is declared in the namespace of
unresolved types. -/
def Dangling (definitions : Mapping Json) (ref : Text) : Prop :=
  (ref ∉ definitions.keys ∧ Primitive.ofName? ref = none) ∨
    ((fields definitions ref).get? "namespace").bind Json.asText? = some unresolvedNamespace

instance (definitions : Mapping Json) (ref : Text) : Decidable (Dangling definitions ref) :=
  inferInstanceAs (Decidable (_ ∨ _))

/-- A name is declared with a shape. -/
def Declares (definitions : Mapping Json) (name : Text) (shape : Shape) : Prop :=
  ∃ entries, definitions.get? name = some (.obj entries) ∧
    Definition.Describes (Mapping.ofList entries) shape

/-- The object definitions that a name merges, in order and with repetitions. -/
structure LeafSequence (definitions : Mapping Json) (leaves : Text → List Text) : Prop where
  undeclared : ∀ name, definitions.get? name = none → leaves name = []
  object : ∀ name properties, Declares definitions name (.object properties) →
    leaves name = [name]
  allOf : ∀ name (items : List Text),
    Declares definitions name (.composition .allOf (items.map .str)) →
      leaves name = items.flatMap leaves
  unflattened : ∀ name kind items, kind ≠ CompositionKind.allOf →
    Declares definitions name (.composition kind items) → leaves name = []

theorem fields_of_declared {definitions : Mapping Json} {name : Text}
    {entries : List (Text × Json)} (declared : definitions.get? name = some (.obj entries)) :
    fields definitions name = Mapping.ofList entries := by
  rw [fields, declared]

theorem fields_of_undeclared {definitions : Mapping Json} {name : Text}
    (undeclared : definitions.get? name = none) : fields definitions name = Mapping.empty := by
  rw [fields, undeclared]

theorem properties_of_declares {definitions : Mapping Json} {name : Text}
    {listed : Mapping Json} (declares : Declares definitions name (.object listed)) :
    properties definitions name =
      listed.entries.filterMap fun e => e.2.asText?.map (Prod.mk e.1) := by
  obtain ⟨entries, declared, described⟩ := declares
  cases described with
  | object _ given =>
      rw [properties, fields_of_declared declared]
      cases hp : (Mapping.ofList entries).get? "properties" with
      | none =>
          rw [hp, Option.getD_none, Json.obj.injEq] at given
          subst given
          rfl
      | some value =>
          rw [hp, Option.getD_some] at given
          subst given
          rfl

end Declarations

open Declarations

namespace Definition

@[simp] theorem name_assemble (id : Nat) (name : Text) (d : Definition)
    (targets : List DataType) : (d.assemble id name targets).name = name := by
  obtain ⟨ns, attributes, shape⟩ := d
  cases shape <;> rfl

@[simp] theorem ns_assemble (id : Nat) (name : Text) (d : Definition)
    (targets : List DataType) : (d.assemble id name targets).ns = d.ns := by
  obtain ⟨ns, attributes, shape⟩ := d
  cases shape <;> rfl

@[simp] theorem attributes_assemble (id : Nat) (name : Text) (d : Definition)
    (targets : List DataType) : (d.assemble id name targets).attributes = d.attributes := by
  obtain ⟨ns, attributes, shape⟩ := d
  cases shape <;> rfl

@[simp] theorem isObject_assemble (id : Nat) (name : Text) (d : Definition)
    (targets : List DataType) : (d.assemble id name targets).isObject = true := by
  obtain ⟨ns, attributes, shape⟩ := d
  cases shape <;> rfl

theorem assemble_of_object {d : Definition} {properties : Mapping Json}
    (shape : d.shape = .object properties) (id : Nat) (name : Text) (targets : List DataType) :
    d.assemble id name targets =
      .object id d.attributes name d.ns (properties.keys.zip targets) := by
  rw [assemble, shape]

theorem assemble_of_composition {d : Definition} {kind : CompositionKind} {items : List Json}
    (shape : d.shape = .composition kind items) (id : Nat) (name : Text)
    (targets : List DataType) :
    d.assemble id name targets = .composed id d.attributes name d.ns kind targets := by
  rw [assemble, shape]

theorem isRequired_ofValues (value? : Keyword → Option Json) (enum : Option (List Json))
    (names : List Json) (property : Text) :
    (Constraints.ofValues value? enum names).isRequired property = true ↔
      property ∈ names.filterMap Json.asText? := by
  change names.any _ = true ↔ _
  rw [List.any_eq_true, List.mem_filterMap]
  refine exists_congr fun entry => and_congr_right fun _ => ?_
  cases entry with
  | str name => simp [Json.asText?]
  | null | bool _ | int _ | float _ | arr _ | obj _ => simp [Json.asText?]

theorem isRequired_iff_of_constrains {fields : Mapping Json} {constraints : Option Constraints}
    (h : Constrains fields constraints) (property : Text) :
    constraints.any (fun c => c.isRequired property) = true ↔
      ∃ names, fields.get? "required" = some (.arr names) ∧
        property ∈ names.filterMap Json.asText? := by
  cases h with
  | none absent =>
      have noRequired : fields.get? "required" = none := absent .required
      simp [noRequired]
  | @some keyword enum names present required text values =>
      rw [Option.any_some, isRequired_ofValues]
      cases hr : fields.get? "required" with
      | none =>
          rw [hr, Option.getD_none, Json.arr.injEq] at required
          simp [← required]
      | some value =>
          rw [hr, Option.getD_some] at required
          simp [required]

end Definition

namespace Loader

section Explains

variable {definitions : Mapping Json} {resolved : Mapping DataType} {name : Text} {t : DataType}

theorem Explains.name_eq (h : Explains definitions resolved name t) : t.name = name := by
  cases h with
  | declared _ _ _ _ => exact Definition.name_assemble _ _ _ _
  | primitive _ _ known => exact (Primitive.ofName?_eq_some_iff.mp known).symm
  | unresolved _ _ _ => rfl

/-- A kept type is unresolved exactly if its name is dangling. -/
theorem Explains.isUnresolved_iff (h : Explains definitions resolved name t) :
    t.isUnresolved = true ↔ Dangling definitions name := by
  rw [DataType.isUnresolved, beq_iff_eq, Dangling, ← Mapping.get?_eq_none_iff]
  cases h with
  | declared _ declared read _ =>
      obtain ⟨entries, rfl, reads⟩ := Definition.ofJson_eq_ok_iff.mp read
      have hns := reads.ns
      rw [Definition.ns_assemble, fields_of_declared declared, declared]
      cases h : (Mapping.ofList entries).get? "namespace" with
      | none =>
          rw [h, Option.getD_none, Json.str.injEq] at hns
          simp [← hns, unresolvedNamespace]
      | some value =>
          rw [h, Option.getD_some] at hns
          simp [hns, Json.asText?]
  | @primitive _ kind _ undeclared known =>
      have resolvable : kind.ns ≠ unresolvedNamespace := by cases kind <;> decide
      simp [DataType.ns, resolvable, known, fields_of_undeclared undeclared, Mapping.get?,
        Mapping.empty]
  | unresolved _ undeclared unknown => simp [DataType.ns, undeclared, unknown]

theorem Explains.isRequired_iff (h : Explains definitions resolved name t) (property : Text) :
    t.isRequired property = true ↔ property ∈ required definitions name := by
  rw [DataType.isRequired, Bool.and_eq_true, required]
  cases h with
  | declared _ declared read _ =>
      obtain ⟨entries, rfl, reads⟩ := Definition.ofJson_eq_ok_iff.mp read
      rw [Definition.isObject_assemble, Definition.attributes_assemble,
        Definition.isRequired_iff_of_constrains reads.constraints, fields_of_declared declared]
      split
      · rename_i names h
        simp [h]
      · rename_i h
        simp only [true_and, List.not_mem_nil, iff_false]
        rintro ⟨names, listed, -⟩
        exact h names listed
  | primitive _ undeclared _ | unresolved _ undeclared _ =>
      rw [fields_of_undeclared undeclared]
      simp [DataType.isObject, Mapping.get?, Mapping.empty]

end Explains

section Coherent

variable {l : Loader} {name : Text} {t : DataType}

/-- A kept type has the shape that is declared, or is of no shape. -/
theorem Coherent.declares_or_undeclared (coherent : l.Coherent)
    (known : l.resolved.get? name = some t) :
    (∃ shape, Declares l.definitions name shape) ∨
      (l.definitions.get? name = none ∧ t.isObject = false) := by
  cases coherent name t known with
  | declared _ declared read _ =>
      obtain ⟨entries, rfl, reads⟩ := Definition.ofJson_eq_ok_iff.mp read
      exact .inl ⟨_, entries, declared, reads.shape⟩
  | primitive _ undeclared _ | unresolved _ undeclared _ => exact .inr ⟨undeclared, rfl⟩

theorem Coherent.of_declares (coherent : l.Coherent) (known : l.resolved.get? name = some t)
    {shape : Shape} (declares : Declares l.definitions name shape) :
    ∃ (d : Definition) (targets : List DataType), d.shape = shape ∧
      t = d.assemble (l.resolved.position name) name targets ∧
      List.Forall₂ (KeptBefore l.resolved (l.resolved.position name)) shape.references
        targets := by
  obtain ⟨entries, declared, described⟩ := declares
  cases coherent name t known with
  | @declared _ _ d targets place declared' read parts =>
      cases declared.symm.trans declared'
      obtain ⟨_, same, reads⟩ := Definition.ofJson_eq_ok_iff.mp read
      cases same
      obtain rfl := described.unique reads.shape
      rw [Definition.references_eq] at parts
      exact ⟨d, targets, rfl, by rw [place], place ▸ parts⟩
  | primitive _ undeclared _ | unresolved _ undeclared _ =>
      rw [undeclared] at declared
      cases declared

theorem Coherent.refs_eq (coherent : l.Coherent) {place : Nat} {refs : List Json}
    {ts : List DataType} (kept : List.Forall₂ (KeptBefore l.resolved place) refs ts) :
    refs = (ts.map DataType.name).map .str ∧
      ∀ t ∈ ts, l.resolved.get? t.name = some t ∧ l.resolved.position t.name < place := by
  induction kept with
  | nil => exact ⟨rfl, fun t ht => absurd ht List.not_mem_nil⟩
  | @cons ref t refs ts head _ ih =>
      obtain ⟨name, rfl, known, before⟩ := head
      have same := (coherent name t known).name_eq
      subst same
      constructor
      · rw [List.map_cons, List.map_cons, ← ih.1]
      · exact List.forall_mem_cons.mpr ⟨⟨known, before⟩, ih.2⟩

/-- Loading resolves the declared names in order and keeps what they resolve to. -/
theorem Coherent.names_of_resolves {l' : Loader} {ts : List DataType} (coherent : l'.Coherent)
    (h : l.Resolves l.declaredRefs ts l') :
    l.definitions.keys = ts.map DataType.name ∧ ∀ t ∈ ts, l'.resolved.get? t.name = some t := by
  obtain ⟨hrefs, hkept⟩ := coherent.refs_eq h.keeps
  exact ⟨List.map_injective_iff.mpr (fun _ _ => Json.str.inj) hrefs, fun t ht => (hkept t ht).1⟩

/-- An object type has the properties that its definition gives, and keeps what they refer to. -/
theorem Coherent.properties_of_object (coherent : l.Coherent)
    (known : l.resolved.get? name = some t) {id : Nat} {a : Attributes} {own ns : Text}
    {parts : List (Text × DataType)} (object : t = .object id a own ns parts) :
    (t.properties.entries.map fun e => (e.1, e.2.name)) = properties l.definitions name ∧
      ∀ e ∈ t.properties.entries, l.resolved.get? e.2.name = some e.2 := by
  rcases coherent.declares_or_undeclared known with ⟨shape, declares⟩ | ⟨-, shapeless⟩
  · obtain ⟨d, targets, hshape, assembled, kept⟩ := coherent.of_declares known declares
    cases shape with
    | object listed =>
        obtain ⟨hrefs, hkept⟩ := coherent.refs_eq kept
        change listed.values = _ at hrefs
        have len : listed.keys.length = targets.length :=
          listed.length_keys_eq_values.trans kept.length_eq
        have hentries : t.properties.entries = listed.keys.zip targets := by
          rw [assembled, Definition.assemble_of_object hshape, DataType.properties]
          exact listed.entries_ofList_zip len
        rw [hentries, properties_of_declares declares, listed.entries_eq_zip, hrefs]
        constructor
        · have stated : (listed.keys.zip ((targets.map DataType.name).map Json.str)).filterMap
              (fun e => e.2.asText?.map (Prod.mk e.1)) =
              listed.keys.zip (targets.map DataType.name) := by
            rw [List.zip_map_right, List.filterMap_map]
            exact List.filterMap_some
          rw [stated, List.zip_map_right]
          rfl
        · exact fun e he => (hkept e.2 (List.of_mem_zip he).2).1
    | composition _ _ =>
        rw [Definition.assemble_of_composition hshape, object] at assembled
        cases assembled
  · rw [object] at shapeless
    cases shapeless

/-- A kept type merges the object definitions that its name merges, and keeps them. -/
theorem Coherent.leaves_eq (coherent : l.Coherent) {leaves : Text → List Text}
    (seq : LeafSequence l.definitions leaves) (known : l.resolved.get? name = some t) :
    leaves name = t.leaves.map DataType.name ∧
      ∀ leaf ∈ t.leaves, l.resolved.get? leaf.name = some leaf := by
  -- Constituents are kept before the composition, so the induction is on the place of the type.
  induction hp : l.resolved.position name using Nat.strongRecOn generalizing name t with
  | ind place ih =>
      have hname := (coherent name t known).name_eq
      rcases coherent.declares_or_undeclared known with ⟨shape, declares⟩ | ⟨undeclared, shapeless⟩
      · obtain ⟨d, targets, hshape, assembled, kept⟩ := coherent.of_declares known declares
        cases shape with
        | object properties =>
            rw [Definition.assemble_of_object hshape] at assembled
            have single : t.leaves = [t] := by rw [assembled, DataType.leaves]
            rw [seq.object name properties declares, single]
            constructor
            · rw [List.map_singleton, hname]
            · intro leaf hleaf
              rw [List.mem_singleton.mp hleaf, hname]
              exact known
        | composition kind items =>
            rw [Definition.assemble_of_composition hshape] at assembled
            obtain ⟨hrefs, hkept⟩ := coherent.refs_eq kept
            change items = _ at hrefs
            subst hrefs
            by_cases flattened : kind = .allOf
            · subst flattened
              have parts : t.leaves = targets.flatMap DataType.leaves := by
                rw [assembled, DataType.leaves_allOf]
              have each (u : DataType) (hu : u ∈ targets) :=
                ih _ (hp ▸ (hkept u hu).2) (hkept u hu).1 rfl
              rw [seq.allOf name _ declares, parts]
              constructor
              · rw [List.flatMap_map, List.map_flatMap]
                exact List.flatMap_congr fun u hu => (each u hu).1
              · intro leaf hleaf
                obtain ⟨u, hu, hleaf⟩ := List.mem_flatMap.mp hleaf
                exact (each u hu).2 leaf hleaf
            · have empty : t.leaves = [] := by
                rw [assembled, DataType.leaves_of_unflattened flattened]
              rw [seq.unflattened name _ _ flattened declares, empty]
              exact ⟨rfl, fun leaf hleaf => absurd hleaf List.not_mem_nil⟩
      · rw [seq.undeclared name undeclared, DataType.leaves_eq_nil shapeless]
        exact ⟨rfl, fun leaf hleaf => absurd hleaf List.not_mem_nil⟩

/-- The names of the object types that the kept type of a name merges. -/
def keptLeaves (l : Loader) (name : Text) : List Text :=
  match l.resolved.get? name with
  | some t => t.leaves.map DataType.name
  | none => []

theorem keptLeaves_of_get? (known : l.resolved.get? name = some t) :
    l.keptLeaves name = t.leaves.map DataType.name := by
  rw [keptLeaves, known]

/-- Where all declared names are kept, the kept types tell which object definitions they merge. -/
theorem Coherent.leafSequence (coherent : l.Coherent)
    (complete : ∀ name ∈ l.definitions.keys, name ∈ l.resolved.keys) :
    LeafSequence l.definitions l.keptLeaves := by
  have kept_of_declares {name : Text} {shape : Shape}
      (declares : Declares l.definitions name shape) : ∃ t, l.resolved.get? name = some t := by
    obtain ⟨_, declared, -⟩ := declares
    exact Mapping.exists_get?_of_mem_keys (complete name (Mapping.mem_keys_of_get? declared))
  refine ⟨?undeclared, ?object, ?allOf, ?unflattened⟩
  case undeclared =>
    intro name undeclared
    cases known : l.resolved.get? name with
    | none => rw [keptLeaves, known]
    | some t =>
        rw [keptLeaves_of_get? known]
        rcases coherent.declares_or_undeclared known with ⟨_, _, declared, -⟩ | ⟨-, shapeless⟩
        · rw [undeclared] at declared
          cases declared
        · rw [DataType.leaves_eq_nil shapeless, List.map_nil]
  case object =>
    intro name properties declares
    obtain ⟨t, known⟩ := kept_of_declares declares
    obtain ⟨d, targets, hshape, assembled, -⟩ := coherent.of_declares known declares
    have hname := (coherent name t known).name_eq
    rw [Definition.assemble_of_object hshape] at assembled
    have single : t.leaves = [t] := by rw [assembled, DataType.leaves]
    rw [keptLeaves_of_get? known, single, List.map_singleton, hname]
  case allOf =>
    intro name items declares
    obtain ⟨t, known⟩ := kept_of_declares declares
    obtain ⟨d, targets, hshape, assembled, kept⟩ := coherent.of_declares known declares
    obtain ⟨hrefs, hkept⟩ := coherent.refs_eq kept
    have hitems : items = targets.map DataType.name :=
      List.map_injective_iff.mpr (fun _ _ => Json.str.inj) hrefs
    rw [Definition.assemble_of_composition hshape] at assembled
    rw [keptLeaves_of_get? known, assembled, DataType.leaves_allOf, hitems, List.flatMap_map,
      List.map_flatMap]
    exact List.flatMap_congr fun u hu => (keptLeaves_of_get? (hkept u hu).1).symm
  case unflattened =>
    intro name kind items unflattened declares
    obtain ⟨t, known⟩ := kept_of_declares declares
    obtain ⟨d, targets, hshape, assembled, -⟩ := coherent.of_declares known declares
    rw [Definition.assemble_of_composition hshape] at assembled
    rw [keptLeaves_of_get? known, assembled, DataType.leaves_of_unflattened unflattened,
      List.map_nil]

end Coherent

end Loader
end TypeGraph
