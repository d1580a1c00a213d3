import TypeGraph.Session.Overview

/-!
Sessions: objects are built by hand under names, looked at and compared. Objects never change; an
attempt to change one is refused. A step that fails to build an object binds nothing and logs
nothing.

Names are values. An object that is built under the name of another takes its place, and from then
on the other one has no name, although it is still part of what was built from it. The constraints
and the documentation that a step mentions are looked up before anything else happens, then its
other names in the order in which they are listed, and a name that is not bound ends the step.
-/

namespace TypeGraph.Session

/-- What can be asked about bound objects. Lists of names are values that are taken for one. -/
inductive Question
  | describe (name probe : Json)
  | required (name properties : Json)
  | equal (first second : Json)
  | distinct (names : Json)
  | unresolvedNames (types : Json)
  | report (types : Json) (config : Option Json)

/-- Attempts to change an object, all of them in vain. -/
inductive Change
  | assign (name field value : Json)
  | delete (name field : Json)
  | putProperty (name property : Json) (target : Option Json)

/-- What an object is built from; other objects are given by their names. Properties are a list of
pairs, and null is the name of no property's or constituent's object. -/
inductive Plan
  | constraints (arguments : Json)
  | documentation (arguments : Json)
  | primitive (kindName : Json)
  | unresolved (typeName : Json)
  | object (typeName ns properties : Json)
  | composition (typeName ns kind constituents : Json)

inductive Action
  /-- Build an object under a name, then describe it. -/
  | build (name : Json) (plan : Plan) (probe : Json)
  | ask (question : Question)
  | change (attempt : Change)

structure Step where
  /-- What a type that the step builds carries, by name. Any step may mention it. -/
  carried : Carried Json
  action : Action

inductive Answer
  | described (description : Description)
  | flag (value : Bool)
  | flags (values : List Bool)
  | count (value : Nat)
  | names (values : List Json)
  | text (value : Text)

inductive Error
  | build (error : BuildError)
  | config (error : Config.Error)
  | fault (fault : Fault)
  | unbound (name : Json)
  | unknownPrimitive (kindName : Json)
  | immutable (field : Text)
  | indelible (field : Text)
  /-- A value of the given type is no name of a field. -/
  | fieldNotText (typeName : Text)
  | readOnlyProperties

def Error.message : Error → Text
  | .build e => e.message
  | .config e => e.message
  | .fault e => e.message
  | .unbound name => name.literal
  | .unknownPrimitive kindName => kindName.literal
  | .immutable field => "cannot assign to field " ++ Text.Quoted.encode field
  | .indelible field => "cannot delete field " ++ Text.Quoted.encode field
  | .fieldNotText typeName => "attribute name must be string, not '" ++ typeName ++ "'"
  | .readOnlyProperties => "'mappingproxy' object does not support item assignment"

end Session

/-- The objects that have a name, and how many were built. -/
structure Session where
  bound : Json.Table Session.Item
  /-- The number of objects built so far, which is the identity of the next one. -/
  built : Nat

namespace Session

def empty : Session := ⟨Json.Table.empty, 0⟩

/-- The fault of a value that is compound and so cannot be a name or a key. -/
def keyFault? (key : Json) : Option Error := (compoundFault? [key]).map .fault

/-- Build one more object under a name, in place of the one that had it before. -/
def bind (s : Session) (name : Json) (item : Item) : Except Error Session :=
  match keyFault? name with
  | some e => .error e
  | none => .ok ⟨s.bound.set name item, s.built + 1⟩

def lookup (s : Session) (name : Json) : Except Error Item :=
  match keyFault? name, s.bound.get? name with
  | some e, _ => .error e
  | none, some item => .ok item
  | none, none => .error (.unbound name)

/-- The object of a name, if one is given. -/
def lookupGiven (s : Session) : Option Json → Except Error (Option Item)
  | some name => some <$> s.lookup name
  | none => .ok none

/-- The object of a name, unless it is null. -/
def lookupUnlessNull (s : Session) (name : Json) : Except Error (Option Item) :=
  s.lookupGiven (if name.isNull then none else some name)

def lookupCarried (s : Session) (c : Carried Json) : Except Error (Carried Item) := do
  let constraints ← s.lookupGiven c.constraints
  let documentation ← s.lookupGiven c.documentation
  .ok ⟨constraints, documentation, c.deprecated⟩

/-- The items of a value that is taken for a list. -/
def listed (value : Json) : Except Error (List Json) := (itemsOf value).mapError .fault

/-- Write an entry that is given as a pair of a key and a name. -/
def addEntry {α : Type} (find : Json → Except Error α) (table : Json.Table α) (entry : Json) :
    Except Error (Json.Table α) := do
  let (key, name) ← (pairOf entry).mapError .fault
  let value ← find name
  match keyFault? key with
  | some e => .error e
  | none => .ok (table.set key value)

/-- A table given as a list of pairs, each of a key and a name. -/
def lookupTable {α : Type} (find : Json → Except Error α) (entries : Json) :
    Except Error (Json.Table α) := do
  let entries ← listed entries
  entries.foldlM (addEntry find) Json.Table.empty

/-- The name that an object is bound to now. -/
def nameOf (s : Session) (item : Item) : Except Fault Json :=
  match s.bound.entries.find? fun entry => entry.2.id == item.id with
  | some (name, _) => .ok name
  | none => .error .unnamed

def primitiveOf (kindName : Json) : Except Error Primitive :=
  match keyFault? kindName, kindName.asText?.bind Primitive.ofName? with
  | some e, _ => .error e
  | none, some kind => .ok kind
  | none, none => .error (.unknownPrimitive kindName)

/-- Build an object: first everything it is built from is looked up. -/
def build (s : Session) (carried : Carried Item) : Plan → Except Error Item
  | .constraints arguments => do
      let arguments ← (argumentsOf Constraints.fullClassName arguments).mapError .build
      (Constraints.ofArguments arguments).map (.constraints s.built) |>.mapError .build
  | .documentation arguments => do
      let arguments ← (argumentsOf Documentation.fullClassName arguments).mapError .build
      (Documentation.ofArguments arguments).map (.documentation s.built) |>.mapError .build
  | .primitive kindName => do
      let kind ← primitiveOf kindName
      .ok (.type s.built carried (.str kind.name) (.str kind.ns) (.primitive kind))
  | .unresolved typeName =>
      .ok (.type s.built carried typeName (.str unresolvedNamespace) .unresolved)
  | .object typeName ns properties => do
      let targets ← lookupTable s.lookupUnlessNull properties
      (Item.buildObject s.built carried typeName ns targets).mapError .build
  | .composition typeName ns kind constituents => do
      let targets ← (← listed constituents).mapM s.lookupUnlessNull
      (Item.buildComposition s.built carried typeName ns kind targets).mapError .build

/-- Put objects into a set, each one looked up when its turn comes. -/
def addDistinct (s : Session) (set : List Item) (name : Json) : Except Error (List Item) := do
  let item ← s.lookup name
  match item.memberFault? with
  | some fault => .error (.fault fault)
  | none => .ok (if set.any (Item.same item) then set else set ++ [item])

/-- Whether the object of a name requires a property. -/
def isRequired (s : Session) (name property : Json) : Except Error Bool := do
  let item ← s.lookup name
  (item.isRequired? property).mapError .fault

def describe (s : Session) (item : Item) (probe : Json) : Except Error Answer :=
  (item.describe s.nameOf probe).map .described |>.mapError .fault

def answer (s : Session) : Question → Except Error Answer
  | .describe name probe => do s.describe (← s.lookup name) probe
  | .required name properties => do
      .flags <$> (← listed properties).mapM (s.isRequired name)
  | .equal first second => do
      let a ← s.lookup first
      let b ← s.lookup second
      .ok (.flag (a.same b))
  | .distinct names => do
      let set ← (← listed names).foldlM s.addDistinct []
      .ok (.count set.length)
  | .unresolvedNames types => do
      let items ← lookupTable s.lookup types
      (Session.unresolvedNames items.values).map .names |>.mapError .fault
  | .report types config => do
      let items ← lookupTable s.lookup types
      let config ← (config.elim (.ok Config.default) Config.ofJson).mapError .config
      (Session.report items.values config).map .text |>.mapError .fault

/-- The refusal of an attempt on a field, unless what names it is no text. -/
def fieldRefusal (refusal : Text → Error) : Json → Error
  | .str field => refusal field
  | value => .fieldNotText value.typeName

/-- Why an attempt to change an object fails, once all names are looked up. -/
def refusal (s : Session) : Change → Except Error Error
  | .assign name field _ => (fun _ => fieldRefusal .immutable field) <$> s.lookup name
  | .delete name field => (fun _ => fieldRefusal .indelible field) <$> s.lookup name
  | .putProperty name _ target => do
      let _ ← s.lookupGiven target
      let item ← s.lookup name
      let _ ← item.properties?.mapError Error.fault
      .ok .readOnlyProperties

/-- The refusal, or what went wrong before it. -/
def refuse (s : Session) (attempt : Change) : Error :=
  match s.refusal attempt with
  | .ok e => e
  | .error e => e

/-- Bind an object that has been built, and describe it. -/
def introduce (s : Session) (name : Json) (item : Item) (probe : Json) :
    Except Error Answer × Session :=
  match s.bind name item with
  | .error e => (.error e, s)
  | .ok s => (s.describe item probe, s)

/-- Act, once what a type would carry is looked up: the answer, what was logged, and the session
afterwards. -/
def act (s : Session) (carried : Carried Item) :
    Action → Except Error Answer × List Log.Entry × Session
  | .build name plan probe =>
      match s.build carried plan with
      | .error e => (.error e, [], s)
      | .ok item =>
          let (answer, s) := s.introduce name item probe
          (answer, item.constructionEntries, s)
  | .ask question => (s.answer question, [], s)
  | .change attempt => (.error (s.refuse attempt), [], s)

def step (s : Session) (step : Step) : Except Error Answer × List Log.Entry × Session :=
  match s.lookupCarried step.carried with
  | .error e => (.error e, [], s)
  | .ok carried => s.act carried step.action

end Session
end TypeGraph
