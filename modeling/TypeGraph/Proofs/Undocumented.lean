import TypeGraph.Proofs.Flattening
import TypeGraph.Report

/-!
Types without documentation. What a report says on a type depends on nobody's documentation but the
type's own, and on that only where it is shown.
-/

namespace TypeGraph

def Attributes.undocumented (a : Attributes) : Attributes := { a with documentation := .none }

namespace DataType

mutual

/-- The type without its documentation and without that of everything that it is made of. -/
def undocumented : DataType → DataType
  | primitive id a kind => primitive id a.undocumented kind
  | unresolved id a name => unresolved id a.undocumented name
  | object id a name ns fields => object id a.undocumented name ns (undocumentedFields fields)
  | composed id a name ns kind constituents =>
      composed id a.undocumented name ns kind (undocumentedEach constituents)

def undocumentedFields : List (Text × DataType) → List (Text × DataType)
  | [] => []
  | (name, t) :: fields => (name, undocumented t) :: undocumentedFields fields

def undocumentedEach : List DataType → List DataType
  | [] => []
  | t :: rest => undocumented t :: undocumentedEach rest

end

theorem undocumentedFields_eq (fields : List (Text × DataType)) :
    undocumentedFields fields = fields.map fun e => (e.1, e.2.undocumented) := by
  induction fields with
  | nil => rfl
  | cons e fields ih => rw [undocumentedFields, ih, List.map_cons]

theorem undocumentedEach_eq (ts : List DataType) :
    undocumentedEach ts = ts.map undocumented := by
  induction ts with
  | nil => rfl
  | cons t ts ih => rw [undocumentedEach, ih, List.map_cons]

section

variable (t : DataType)

@[simp] theorem attributes_undocumented :
    t.undocumented.attributes = t.attributes.undocumented := by
  cases t <;> rfl

@[simp] theorem name_undocumented : t.undocumented.name = t.name := by
  cases t <;> rfl

@[simp] theorem ns_undocumented : t.undocumented.ns = t.ns := by
  cases t <;> rfl

@[simp] theorem isObject_undocumented : t.undocumented.isObject = t.isObject := by
  cases t <;> rfl

@[simp] theorem composition?_undocumented : t.undocumented.composition? = t.composition? := by
  cases t <;> rfl

@[simp] theorem isUnresolved_undocumented : t.undocumented.isUnresolved = t.isUnresolved := by
  simp [isUnresolved]

@[simp] theorem kindLabel_undocumented : t.undocumented.kindLabel = t.kindLabel := by
  unfold kindLabel
  rw [isUnresolved_undocumented]
  cases t <;> rfl

@[simp] theorem isRequired_undocumented : t.undocumented.isRequired = t.isRequired := by
  funext property
  simp [isRequired, Attributes.undocumented]

@[simp] theorem constituents_undocumented :
    t.undocumented.constituents = t.constituents.map undocumented := by
  cases t with
  | composed id a name ns kind constituents => exact undocumentedEach_eq constituents
  | _ => rfl

theorem filter_isObject_map_undocumented (ts : List DataType) :
    (ts.map undocumented).filter isObject = (ts.filter isObject).map undocumented := by
  rw [List.filter_map]
  simp only [Function.comp_def, isObject_undocumented]

/-- Flattening keeps the properties apart from what is said on them. -/
@[simp] theorem properties_undocumented :
    t.undocumented.properties = t.properties.map undocumented := by
  induction t using induction_on_parts with
  | primitive _ _ _ | unresolved _ _ _ => rfl
  | object id a name ns fields _ =>
      rw [undocumented, undocumentedFields_eq, properties, properties, Mapping.map_ofList]
  | composed id a name ns kind constituents ih =>
      rw [undocumented, undocumentedEach_eq]
      cases kind with
      | oneOf | anyOf => rfl
      | allOf =>
          rw [properties, properties, Mapping.map_merge, propertiesOfEach_eq, propertiesOfEach_eq,
            filter_isObject_map_undocumented, List.map_map, List.map_map]
          congr 1
          apply List.map_congr_left
          intro t ht
          exact ih t (List.mem_filter.mp ht).1

@[simp] theorem imports_undocumented : t.undocumented.imports = t.imports := by
  induction t using induction_on_parts with
  | primitive _ _ _ | unresolved _ _ _ | object _ _ _ _ _ _ => rfl
  | composed id a name ns kind constituents ih =>
      have each : importsOfEach (constituents.map undocumented) = importsOfEach constituents := by
        induction constituents with
        | nil => rfl
        | cons t rest ihrest =>
            obtain ⟨here, there⟩ := List.forall_mem_cons.mp ih
            simp only [List.map_cons, importsOfEach, isObject_undocumented, here, ihrest there]
      rw [undocumented, undocumentedEach_eq, imports, imports, each]

end

end DataType

namespace Report

/-- Which names are unresolved has nothing to do with documentation. -/
theorem unresolvedNames_undocumented (types : Mapping DataType) :
    unresolvedNames (types.map DataType.undocumented) = unresolvedNames types := by
  have met (t : DataType) :
      t.undocumented :: (t.undocumented.properties.values ++ t.undocumented.constituents) =
        (t :: (t.properties.values ++ t.constituents)).map DataType.undocumented := by
    simp [Mapping.values_map]
  simp only [unresolvedNames, Mapping.values_map, List.flatMap_map, met]
  rw [← List.map_flatMap, List.filter_map, List.map_map]
  simp only [Function.comp_def, DataType.isUnresolved_undocumented, DataType.name_undocumented]

theorem ofType_undocumented (t : DataType) :
    Section.ofType t.undocumented = { Section.ofType t with documentation := none } := by
  simp [Section.ofType, Property.ofType, Attributes.undocumented, Mapping.map]

end Report

end TypeGraph
