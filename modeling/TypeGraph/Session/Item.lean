import TypeGraph.Json.Table
import TypeGraph.Model.Construction

/-!
Objects that are built by hand. Nothing checks what they are built from: any value serves as a
name or a namespace, and any object as a property, a constituent, constraints or documentation.
So a question may meet an object that cannot answer it, and then there is no answer.

An object has the identity it was built with. Types are equal only to themselves, constraints and
documentation by value.
-/

namespace TypeGraph.Session

/-- What any type may carry besides its form. -/
structure Carried (α : Type) where
  constraints : Option α
  documentation : Option α
  /-- A flag, tested by whether the value holds. -/
  deprecated : Json

inductive Form (α : Type)
  | primitive (kind : Primitive)
  | unresolved
  | object (fields : List (Json × α))
  | composed (kind : CompositionKind) (constituents : List α)

namespace Form

variable {α : Type}

def className : Form α → Text
  | primitive kind => kind.className
  | unresolved => DataType.unresolvedClass
  | object _ => DataType.objectClass
  | composed _ _ => DataType.compositionClass

def isObject : Form α → Bool
  | object _ | composed _ _ => true
  | _ => false

/-- A short label for a form, regardless of namespaces. -/
def label : Form α → Text
  | composed kind _ => kind.keyword
  | object _ => DataType.objectLabel
  | _ => DataType.primitiveLabel

end Form

inductive Item
  | constraints (id : Nat) (value : Constraints)
  | documentation (id : Nat) (value : Documentation)
  | type (id : Nat) (carried : Carried Item) (name ns : Json) (form : Form Item)

/-- Why an object does not answer. -/
inductive Fault
  /-- An object of the given class has no such feature. -/
  | missing (className feature : Text)
  /-- A value of the given type cannot be a member of a set. -/
  | compoundMember (typeName : Text)
  /-- A value of the first type cannot be put before or after one of the second. -/
  | unordered (first second : Text)
  /-- An object to be named is bound to no name. -/
  | unnamed
  /-- A value of the given type yields no items. -/
  | notSequence (typeName : Text)
  /-- A value of the given type, which yields no items, stands for a pair. -/
  | notPair (typeName : Text)
  /-- What stands for a pair yields fewer items. -/
  | tooFew (count : Nat)
  /-- What stands for a pair yields more items. -/
  | tooMany

def Fault.message : Fault → Text
  | .missing className feature =>
      "'" ++ className ++ "' object has no attribute '" ++ feature ++ "'"
  | .compoundMember typeName => "unhashable type: '" ++ typeName ++ "'"
  | .unordered first second =>
      "'<' not supported between instances of '" ++ first ++ "' and '" ++ second ++ "'"
  | .unnamed => ""
  | .notSequence typeName => "'" ++ typeName ++ "' object is not iterable"
  | .notPair typeName => "cannot unpack non-iterable " ++ typeName ++ " object"
  | .tooFew count => "not enough values to unpack (expected 2, got " ++ toString count ++ ")"
  | .tooMany => "too many values to unpack (expected 2)"

/-- The items of a value that is taken for a sequence. -/
def itemsOf (value : Json) : Except Fault (List Json) :=
  match value.elements? with
  | some items => .ok items
  | none => .error (.notSequence value.typeName)

/-- The two items of a value that is taken for a pair. -/
def pairOf (value : Json) : Except Fault (Json × Json) :=
  match value.elements? with
  | some [first, second] => .ok (first, second)
  | some (_ :: _ :: _) => .error .tooMany
  | some items => .error (.tooFew items.length)
  | none => .error (.notPair value.typeName)

/-- Lists and objects cannot be members of a set, nor can what is made of one. -/
def compoundFault? : List Json → Option Fault
  | [] => none
  | .arr items :: _ => some (.compoundMember (Json.arr items).typeName)
  | .obj fields :: _ => some (.compoundMember (Json.obj fields).typeName)
  | _ :: rest => compoundFault? rest

/-- The members of a set of values, each of them once. -/
def distinctValues (values : List Json) : Except Fault (List Json) :=
  match compoundFault? values with
  | some fault => .error fault
  | none => .ok (values.eraseDupsBy Json.same)

/-- Whether the first of two placed values does not stand behind the second. -/
def notBehind (a b : (Int × Int) × Json) : Bool :=
  a.1.1 < b.1.1 || (a.1.1 == b.1.1 && a.1.2 ≤ b.1.2)

/-- The members of a set in ascending order, which there is among text and among numbers. -/
def ascending : List Json → Except Fault (List Json)
  | first :: second :: rest =>
      let members := first :: second :: rest
      match members.mapM Json.asText?, members.mapM fun v => v.place?.map (·, v) with
      | some names, _ => .ok ((NameSet.ofList names).toList.map .str)
      | none, some placed => .ok ((placed.mergeSort notBehind).map Prod.snd)
      | none, none => .error (.unordered second.typeName first.typeName)
  | members => .ok members

namespace Item

def id : Item → Nat
  | constraints id _ | documentation id _ | type id .. => id

def className : Item → Text
  | constraints .. => Constraints.className
  | documentation .. => Documentation.className
  | type _ _ _ _ form => form.className

def isObject : Item → Bool
  | type _ _ _ _ form => form.isObject
  | _ => false

def name? : Item → Except Fault Json
  | type _ _ name _ _ => .ok name
  | item => .error (.missing item.className "name")

/-- Whether an object stands in for an unresolved schema, which its namespace tells. -/
def isUnresolved? : Item → Except Fault Bool
  | type _ _ _ ns _ => .ok (ns.same (.str unresolvedNamespace))
  | item => .error (.missing item.className "namespace")

def composition? : Item → Option CompositionKind
  | type _ _ _ _ (.composed kind _) => some kind
  | _ => none

def constituents : Item → List Item
  | type _ _ _ _ (.composed _ constituents) => constituents
  | _ => []

def objectConstituents (item : Item) : List Item := item.constituents.filter isObject

mutual

/-- The ordered properties of an object, those of an `allOf` composition flattened. -/
def properties : Item → Json.Table Item
  | type _ _ _ _ (.object fields) => Json.Table.ofList fields
  | type _ _ _ _ (.composed .allOf constituents) => Json.Table.merge (propertiesOfEach constituents)
  | _ => Json.Table.empty

def propertiesOfEach : List Item → List (Json.Table Item)
  | [] => []
  | item :: rest =>
      if item.isObject then properties item :: propertiesOfEach rest else propertiesOfEach rest

end

mutual

/-- The qualified names to import for referring to an object. -/
def importValues : Item → List Json
  | type _ _ name ns (.primitive kind) =>
      if kind.ns ∈ Primitive.builtinNamespaces then [] else [QualifiedName.joinValues ns name]
  | type _ _ name ns (.composed _ constituents) =>
      importValuesOfEach constituents ++ [QualifiedName.joinValues ns name]
  | type _ _ name ns _ => [QualifiedName.joinValues ns name]
  | _ => []

/-- Those of the objects that have properties, together. -/
def importValuesOfEach : List Item → List Json
  | [] => []
  | item :: rest =>
      if item.isObject then importValues item ++ importValuesOfEach rest
      else importValuesOfEach rest

end

/-- Whether an object has properties. Finding that out takes its imports, so these have to be
members of a set. -/
def isObject? (item : Item) : Except Fault Bool :=
  match compoundFault? item.importValues with
  | some fault => .error fault
  | none => .ok item.isObject

/-- The properties of an object that has some; flattening finds out which constituents do. -/
def properties? (item : Item) : Except Fault (Json.Table Item) :=
  if !item.isObject then .error (.missing item.className "properties")
  else
    match item.composition?, compoundFault? (importValuesOfEach item.constituents) with
    | some .allOf, some fault => .error fault
    | _, _ => .ok item.properties

/-- The imports of an object in ascending order. -/
def imports? (item : Item) : Except Fault (List Json) :=
  distinctValues item.importValues >>= ascending

/-- What a composition imports on account of its constituents. -/
def referencedImports? (item : Item) : Except Fault (List Json) :=
  distinctValues (importValuesOfEach item.constituents) >>= ascending

/-- Whether an object that can tell says that a property is required. A type leaves the answer to
its constraints, whatever they are. -/
def isRequired? (property : Json) : Item → Except Fault Bool
  | constraints _ c => .ok (c.requires property)
  | type _ ⟨some c, _, _⟩ _ _ (.object _) => isRequired? property c
  | type _ ⟨some c, _, _⟩ _ _ (.composed _ _) => isRequired? property c
  | type _ ⟨none, _, _⟩ _ _ (.object _) => .ok false
  | type _ ⟨none, _, _⟩ _ _ (.composed _ _) => .ok false
  | item => .error (.missing item.className "is_required")

/-- A short label for the kind of a type; being unresolved goes before everything else. -/
def kindLabel (ns : Json) (form : Form Item) : Text :=
  if ns.same (.str unresolvedNamespace) then DataType.unresolvedLabel else form.label

/-- The fields of an object. Of a type, what it carries and its parts are left out. -/
def fields : Item → List (Text × FieldValue)
  | constraints _ c => c.fields
  | documentation _ d => d.fields
  | type _ carried name ns form =>
      let common : List (Text × FieldValue) :=
        [("constraints", .single .null), ("deprecated", .single carried.deprecated),
          ("documentation", .single .null)]
      let own : List (Text × FieldValue) := match form with
        | .primitive _ => []
        | .unresolved => [("name", .single name)]
        | .object _ => [("name", .single name), ("namespace", .single ns),
            ("properties", .single (.obj []))]
        | .composed kind _ => [("name", .single name), ("namespace", .single ns),
            ("kind", .single (.str kind.keyword)), ("constituents", .sequence [])]
      common ++ own

/-- Types are equal only to themselves, other objects by value. -/
def same : Item → Item → Bool
  | type id .., type id' .. => id == id'
  | constraints _ c, constraints _ d => c.same d
  | documentation _ d, documentation _ e => d.same e
  | _, _ => false

/-- Why an object cannot be a member of a set. -/
def memberFault? : Item → Option Fault
  | type .. => none
  | item => compoundFault? (item.fields.flatMap fun field => field.2.parts)

/-- An object type; the first property without a target is a fault. -/
def buildObject (id : Nat) (carried : Carried Item) (name ns : Json)
    (properties : Json.Table (Option Item)) : Except BuildError Item := do
  let fields ← presentFields name.display properties.entries
  .ok (type id carried name ns (.object fields))

/-- A composition; an unknown kind is reported before a missing constituent. -/
def buildComposition (id : Nat) (carried : Carried Item) (name ns kind : Json)
    (constituents : List (Option Item)) : Except BuildError Item := do
  let kind ← CompositionKind.parse kind
  let constituents ← presentConstituents name.display 0 constituents
  .ok (type id carried name ns (.composed kind constituents))

/-- What is logged when an object has been built: compositions that are not flattened. -/
def constructionEntries : Item → List Log.Entry
  | type _ _ name ns (.composed kind _) =>
      if kind.isFlattened then []
      else [Log.Event.notFlattenedEntry (QualifiedName.joinValues ns name) kind]
  | _ => []

end Item
end TypeGraph.Session
