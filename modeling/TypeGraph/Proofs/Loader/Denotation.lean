import TypeGraph.Proofs.Loader.Acyclicity
import TypeGraph.Proofs.Loader.Instances

/-!
What a document says its names are, read off the declarations without regard to the order in which
references are resolved. Loading gives every declared name the type that it denotes, made of the
instances that are held for its references, and holds an instance for nothing but the declared
names and the references.
-/

namespace TypeGraph

namespace Declarations

/-- A reference is text, and the type is the instance held for it. -/
def Holds (held : Mapping DataType) (ref : Json) (t : DataType) : Prop :=
  ∃ name, ref = .str name ∧ held.get? name = some t

/-- The type that a name denotes, given the instances held for all names. A declared name denotes
what its definition describes, be it the name of a primitive or not. -/
inductive Denotes (definitions : Mapping Json) (held : Mapping DataType) (name : Text) :
    DataType → Prop
  | object {id : Nat} {a : Attributes} {ns : Text} {stated : Mapping Json}
      {parts : Mapping DataType} (declares : Declares definitions name (.object stated))
      (within : ((fields definitions name).get? "namespace").getD (.str "") = .str ns)
      (holds : List.Forall₂ (fun e part => e.1 = part.1 ∧ Holds held e.2 part.2)
        stated.entries parts.entries) :
      Denotes definitions held name (.object id a name ns parts.entries)
  | composition {id : Nat} {a : Attributes} {ns : Text} {kind : CompositionKind}
      {items : List Json} {constituents : List DataType}
      (declares : Declares definitions name (.composition kind items))
      (within : ((fields definitions name).get? "namespace").getD (.str "") = .str ns)
      (holds : List.Forall₂ (Holds held) items constituents) :
      Denotes definitions held name (.composed id a name ns kind constituents)
  | primitive {id : Nat} {kind : Primitive} (undeclared : name ∉ definitions.keys)
      (registered : Primitive.ofName? name = some kind) :
      Denotes definitions held name (.primitive id .none kind)
  | unresolved {id : Nat} (undeclared : name ∉ definitions.keys)
      (unregistered : Primitive.ofName? name = none) :
      Denotes definitions held name (.unresolved id .none name)

theorem forall₂_entries_zip {α β : Type} {R : α → β → Prop} {entries : List (Text × α)}
    {values : List β} (h : List.Forall₂ R (entries.map Prod.snd) values) :
    List.Forall₂ (fun e part => e.1 = part.1 ∧ R e.2 part.2) entries
      ((entries.map Prod.fst).zip values) := by
  induction entries generalizing values with
  | nil => exact .nil
  | cons e entries ih =>
      cases h with
      | cons head tail => exact .cons ⟨rfl, head⟩ (ih tail)

/-- What a definition mentions is among the types that its name shows. -/
theorem Denotes.child_of_refers {definitions : Mapping Json} {held : Mapping DataType}
    {name ref : Text} {t : DataType} (denotes : Denotes definitions held name t)
    (refers : Loader.Refers definitions name ref) :
    ∃ child ∈ t.children, held.get? ref = some child := by
  obtain ⟨_, declared, entries, shape, rfl, described, mentioned⟩ := refers
  cases denotes with
  | @object _ _ _ stated parts declares _ holds =>
      obtain ⟨_, declared', described'⟩ := declares
      cases declared.symm.trans declared'
      obtain rfl := described.unique described'
      obtain ⟨e, he, same⟩ := List.mem_map.mp mentioned
      obtain ⟨i, hi, rfl⟩ := List.getElem_of_mem he
      have hi' : i < parts.entries.length := holds.length_eq ▸ hi
      obtain ⟨-, _, held, known⟩ := holds.get hi hi'
      have shown : parts.entries[i].2 ∈ parts.values :=
        List.mem_map_of_mem (List.getElem_mem hi')
      refine ⟨parts.entries[i].2, List.mem_append_left _ ?_, ?_⟩
      · rw [DataType.properties, Mapping.ofList_entries]
        exact shown
      · obtain rfl := Json.str.inj (same.symm.trans held)
        exact known
  | @composition _ _ _ _ items constituents declares _ holds =>
      obtain ⟨_, declared', described'⟩ := declares
      cases declared.symm.trans declared'
      obtain rfl := described.unique described'
      obtain ⟨i, hi, same⟩ := List.getElem_of_mem mentioned
      have hi' : i < constituents.length := holds.length_eq ▸ hi
      obtain ⟨_, held, known⟩ := holds.get hi hi'
      refine ⟨constituents[i], List.mem_append_right _ (List.getElem_mem hi'), ?_⟩
      obtain rfl := Json.str.inj (same.symm.trans held)
      exact known
  | primitive undeclared _ | unresolved undeclared _ =>
      exact absurd (Mapping.mem_keys_of_get? declared) undeclared

end Declarations

open Declarations

namespace Loader

theorem KeptBefore.holds {resolved : Mapping DataType} {place : Nat} {ref : Json} {t : DataType}
    (h : KeptBefore resolved place ref t) : Holds resolved ref t := by
  obtain ⟨name, rfl, known, -⟩ := h
  exact ⟨name, rfl, known⟩

/-- A type that the definitions explain is what its name denotes. -/
theorem Explains.denotes {definitions : Mapping Json} {resolved : Mapping DataType}
    {name : Text} {t : DataType} (h : Explains definitions resolved name t) :
    Denotes definitions resolved name t := by
  cases h with
  | @declared id _ d targets _ declared read parts =>
      obtain ⟨entries, rfl, reads⟩ := Definition.ofJson_eq_ok_iff.mp read
      have declares : Declares definitions name d.shape := ⟨entries, declared, reads.shape⟩
      have within := reads.ns
      rw [← fields_of_declared declared] at within
      rw [Definition.references_eq] at parts
      have holds := parts.imp fun _ _ kept => kept.holds
      cases shape : d.shape with
      | object stated =>
          rw [shape] at declares holds
          have len : stated.keys.length = targets.length :=
            stated.length_keys_eq_values.trans holds.length_eq
          rw [Definition.assemble_of_object shape, ← stated.entries_ofList_zip len]
          apply Denotes.object declares within
          rw [stated.entries_ofList_zip len]
          exact forall₂_entries_zip holds
      | composition kind items =>
          rw [shape] at declares holds
          rw [Definition.assemble_of_composition shape]
          exact .composition declares within holds
  | primitive _ undeclared known => exact .primitive (Mapping.get?_eq_none_iff.mp undeclared) known
  | unresolved _ undeclared unknown =>
      exact .unresolved (Mapping.get?_eq_none_iff.mp undeclared) unknown

theorem Finds.kept_or_eq {l l' : Loader} {name other : Text} {t : DataType}
    (h : l.Finds name t l') (kept : other ∈ l'.resolved.keys) :
    other ∈ l.resolved.keys ∨ other = name := by
  cases h with
  | kept _ => exact .inl kept
  | primitive _ _ _ | unresolved _ _ _ => exact Mapping.mem_keys_set.mp kept

/-- Nothing is kept that is not reached from the references. -/
theorem Resolves.reached_of_kept {l l' : Loader} {refs : List Json} {ts : List DataType}
    (h : l.Resolves refs ts l') {name : Text} (kept : name ∈ l'.resolved.keys) :
    name ∈ l.resolved.keys ∨
      ∃ ref, .str ref ∈ refs ∧ Relation.ReflTransGen (Refers l.definitions) ref name := by
  induction h with
  | nil => exact .inl kept
  | @found l l₁ l₂ found t refs ts head _ ih =>
      rcases ih kept with kept | ⟨ref, mentioned, reached⟩
      · refine (head.kept_or_eq kept).imp_right fun same => ?_
        exact ⟨found, List.mem_cons_self .., same ▸ .refl⟩
      · exact .inr ⟨ref, List.mem_cons_of_mem _ mentioned, head.frame.1 ▸ reached⟩
  | @built l l₁ l₂ owner d refs targets ts opens parts _ ihParts ihRest =>
      rcases ihRest kept with kept | ⟨ref, mentioned, reached⟩
      · rcases Mapping.mem_keys_set.mp kept with kept | same
        · refine (ihParts kept).imp_right ?_
          rintro ⟨ref, mentioned, reached⟩
          exact ⟨owner, List.mem_cons_self .., .head (opens.refers mentioned) reached⟩
        · exact .inr ⟨owner, List.mem_cons_self .., same ▸ .refl⟩
      · have same : l₁.definitions = l.definitions := parts.frame.1
        exact .inr ⟨ref, List.mem_cons_of_mem _ mentioned, same ▸ reached⟩

/-- Loading a document on a new loader keeps the declared names and the references. -/
theorem mem_keys_of_loaded {definitions : Mapping Json} {ts : List DataType} {l : Loader}
    (h : (ofDefinitions definitions).Resolves (ofDefinitions definitions).declaredRefs ts l)
    {name : Text} :
    name ∈ l.resolved.keys ↔
      name ∈ definitions.keys ∨ ∃ owner, Refers definitions owner name := by
  have coherent := h.coherent (coherent_ofDefinitions definitions)
  have same : l.definitions = definitions := h.frame.1
  have declared {owner : Text} (hdeclared : owner ∈ definitions.keys) :
      owner ∈ l.resolved.keys := h.mem_keys (List.mem_map_of_mem hdeclared)
  constructor
  · intro kept
    rcases h.reached_of_kept kept with kept | ⟨ref, mentioned, reached⟩
    · cases kept
    · rcases Relation.ReflTransGen.cases_tail reached with rfl | ⟨owner, -, refers⟩
      · obtain ⟨_, hdeclared, same⟩ := List.mem_map.mp mentioned
        exact .inl (Json.str.inj same ▸ hdeclared)
      · exact .inr ⟨owner, refers⟩
  · rintro (hdeclared | ⟨owner, refers⟩)
    · exact declared hdeclared
    · have kept := declared refers.declared
      exact (coherent.kept_of_refers kept (same ▸ refers)).1

/-- A document that loads means what it says: the declared names are loaded in order, each with the
instance held for it. Each held instance is what its name denotes, other names have other
instances, and instances are held for the declared names and the references alone. -/
theorem loaded_denotes_document {document : Json} {l l' : Loader} {types : Mapping DataType}
    (read : ofDocument document = .ok l) (loaded : l.load = (.ok types, l')) :
    types.keys = l.definitions.keys ∧
    (∀ name ∈ types.keys, types.get? name = l'.resolved.get? name) ∧
    (∀ name t, l'.resolved.get? name = some t → Denotes l.definitions l'.resolved name t) ∧
    (∀ name other t u, l'.resolved.get? name = some t → l'.resolved.get? other = some u →
      t.id = u.id → name = other) ∧
    ∀ name, name ∈ l'.resolved.keys ↔
      name ∈ l.definitions.keys ∨ ∃ owner, Refers l.definitions owner name := by
  obtain ⟨definitions, rfl⟩ := ofDocument_eq_ok read
  obtain ⟨ts, l₁, resolves, rfl, rfl⟩ := (load_eq_ok_iff rfl).mp loaded
  have coherent := resolves.coherent (coherent_ofDefinitions definitions)
  have same : l₁.definitions = definitions := resolves.frame.1
  refine ⟨keys_of_resolves resolves, ?held, ?denotes, ?distinct,
    fun _ => mem_keys_of_loaded resolves⟩
  case held =>
    intro name declared
    obtain ⟨t, known⟩ := Mapping.exists_get?_of_mem_keys declared
    rw [known]
    exact (kept_of_loaded resolves known).symm
  case denotes =>
    intro name t known
    exact same ▸ (coherent name t known).denotes
  case distinct =>
    intro name other t u known known'
    exact (coherent_iff.mp coherent).eq_of_id_eq known known'

/-- A document in which a primitive's name is declared after its first use, and one name is used
twice. -/
theorem shadowed_primitive_denotes_document :
    let document : Json := .obj [("types", .obj [
      ("Pair", .obj [("type", .str "oneOf"), ("items", .arr [.str "Long", .str "Long"])]),
      ("Long", .obj [("namespace", .str "model"),
        ("properties", .obj [("low", .str "Integer"), ("high", .str "Word")])])])]
    ∃ (l l' : Loader) (types : Mapping DataType),
      ofDocument document = .ok l ∧ l.load = (.ok types, l') ∧
      types.keys = l.definitions.keys ∧
      (∀ name ∈ types.keys, types.get? name = l'.resolved.get? name) ∧
      (∀ name t, l'.resolved.get? name = some t → Denotes l.definitions l'.resolved name t) ∧
      (∀ name other t u, l'.resolved.get? name = some t → l'.resolved.get? other = some u →
        t.id = u.id → name = other) ∧
      ∀ name, name ∈ l'.resolved.keys ↔
        name ∈ l.definitions.keys ∨ ∃ owner, Refers l.definitions owner name := by
  intro document
  have read : ofDocument document = .ok _ := rfl
  exact ⟨_, _, _, read, rfl, loaded_denotes_document read rfl⟩

end Loader
end TypeGraph
