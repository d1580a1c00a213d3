import TypeGraph.Report
import TypeGraph.Session.Item

/-!
Descriptions of objects that are built by hand, and reports on them. What they answer is put
together in one order, so the first object without an answer is the one that is reported.
-/

namespace TypeGraph.Session

/-- An object with its answers to the questions that may have none. Other objects show as the
names that they are bound to. -/
structure Description where
  item : Item
  imports : List Json
  properties : List (Json × Json)
  required : List (Json × Bool)
  constituents : List Json
  objectConstituents : List Json
  referencedImports : List Json

namespace Item

/-- The properties that an object is asked about: its own ones, then those of a list. -/
def asked (item : Item) (probe : Json) : Except Fault (List Json) :=
  if item.isObject then (item.properties.keys ++ ·) <$> itemsOf probe else .ok []

/-- Describe an object. Whether properties are required is also asked of a given list of them. -/
def describe (item : Item) (nameOf : Item → Except Fault Json) (probe : Json) :
    Except Fault Description := do
  let imports ← item.imports?
  let properties ← item.properties.entries.mapM fun e => (e.1, ·) <$> nameOf e.2
  let asked ← item.asked probe
  let required ← asked.mapM fun name => (name, ·) <$> item.isRequired? name
  let constituents ← item.constituents.mapM nameOf
  let objectConstituents ← item.objectConstituents.mapM nameOf
  let referencedImports ← item.referencedImports?
  .ok ⟨item, imports, properties, required, constituents, objectConstituents, referencedImports⟩

/-- The name of an object that stands in for an unresolved schema. -/
def unresolvedName? (item : Item) : Except Fault (Option Json) := do
  if ← item.isUnresolved? then
    let name ← item.name?
    let _ ← distinctValues [name]
    .ok (some name)
  else .ok none

/-- Names of unresolved types that an object shows: its own, those of its properties and those of
its constituents. -/
def unresolvedNames (item : Item) : Except Fault (List Json) := do
  let own ← item.unresolvedName?
  let _ ← item.isObject?
  let others ← (item.properties.values ++ item.constituents).mapM unresolvedName?
  .ok (own :: others).reduceOption

end Item

/-- Names of unresolved types that objects show, each once, in the order in which they are met. -/
def unresolvedNames (items : List Item) : Except Fault (List Json) := do
  let names ← items.mapM Item.unresolvedNames
  distinctValues names.flatten

/-- What a report says on a property of an object. -/
def reportProperty (owner : Item) (property : Json) (item : Item) :
    Except Fault Report.Property := do
  let name ← item.name?
  let required ← owner.isRequired? property
  let unresolved ← item.isUnresolved?
  .ok ⟨property.display, name.display, required, unresolved⟩

/-- Documentation shows only where it is one. -/
def documentation? : Option Item → Option Documentation
  | some (.documentation _ d) => some d
  | _ => none

/-- What a report says on an object, which has to be a type. -/
def reportSection (item : Item) : Except Fault Report.Section :=
  match item with
  | .type _ carried name ns form => do
      let imports ← item.imports?
      let properties ← item.properties.entries.mapM fun e => reportProperty item e.1 e.2
      .ok {
        ns := ns.display
        name := name.display
        kind := Item.kindLabel ns form
        deprecated := carried.deprecated.holds
        documentation := documentation? carried.documentation
        properties := properties
        composition := item.composition?
        imports := imports.map Json.display }
  | item => .error (.missing item.className "name")

/-- The report on objects: all sections first, then the unresolved names. -/
def report (items : List Item) (config : Config) : Except Fault Text := do
  let sections ← items.mapM reportSection
  let unresolved ← unresolvedNames items
  .ok (Report.assemble (Report.Options.ofConfig config) sections (unresolved.map Json.display))

end TypeGraph.Session
