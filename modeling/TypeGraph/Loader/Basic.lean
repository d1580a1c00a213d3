import TypeGraph.Loader.Definition

/-!
The loader of a type graph. A name resolves to its declared type first, then to a primitive,
and to a stand-in otherwise. Every name resolves to one type, which is kept, and a type is
built only after everything that its definition refers to.

The names that are being built form a stack. A reference to one of them closes a cycle and is
refused, so calls nest no deeper than there are declared names, and one more.
-/

namespace TypeGraph

structure Loader where
  /-- What the document declares. -/
  definitions : Mapping Json
  /-- The types resolved so far, in the order in which they were finished. -/
  resolved : Mapping DataType
  /-- The names being built, outermost first. -/
  resolving : List Text
  /-- What has been reported so far. -/
  events : List Log.Event

namespace Loader

def ofDefinitions (definitions : Mapping Json) : Loader :=
  ⟨definitions, Mapping.empty, [], []⟩

/-- A document holds its definitions under `types`. -/
def ofDocument : Json → Except GraphError Loader
  | .obj entries =>
      match (Mapping.ofList entries).get? "types" with
      | some (.obj definitions) => .ok (ofDefinitions (Mapping.ofList definitions))
      | _ => .error .missingTypes
  | _ => .error .missingTypes

def report (l : Loader) (events : List Log.Event) : Loader :=
  { l with events := l.events ++ events }

def enter (l : Loader) (name : Text) : Loader :=
  { l with resolving := l.resolving ++ [name] }

def leave (l : Loader) : Loader := { l with resolving := l.resolving.dropLast }

def keep (l : Loader) (name : Text) (t : DataType) : Loader :=
  { l with resolved := l.resolved.set name t }

/-- The identity of the next type: types are kept as soon as they are built. -/
def nextId (l : Loader) : Nat := l.resolved.size

/-- The cycle that a reference to a name being built closes. -/
def chainTo (l : Loader) (name : Text) : List Text :=
  l.resolving.dropWhile (· != name) ++ [name]

/-- The type being built, which mentions the reference at hand. -/
def current? (l : Loader) : Option Text := l.resolving.getLast?

/-- Resolve references one after the other, up to the first failure. -/
def resolveEach (resolve : Loader → Json → Except LoadFailure DataType × Loader) :
    Loader → List Json → Except LoadFailure (List DataType) × Loader
  | l, [] => (.ok [], l)
  | l, ref :: rest =>
      match resolve l ref with
      | (.error e, l) => (.error e, l)
      | (.ok t, l) =>
          match resolveEach resolve l rest with
          | (.error e, l) => (.error e, l)
          | (.ok ts, l) => (.ok (t :: ts), l)

/-- Build the type that a definition describes, resolving its references on the way. -/
def build (resolve : Loader → Json → Except LoadFailure DataType × Loader) (l : Loader)
    (name : Text) (definition : Json) : Except LoadFailure DataType × Loader :=
  match Definition.ofJson name definition with
  | .error e => (.error e, l)
  | .ok d =>
      match resolveEach resolve (l.report [d.buildEvent name]) d.references with
      | (.error e, l) => (.error e, l)
      | (.ok targets, l) =>
          let t := d.assemble l.nextId name targets
          (.ok t, l.report t.constructionEvents)

/-- Resolve a name that is neither kept nor being built. -/
def resolveNew (resolve : Loader → Json → Except LoadFailure DataType × Loader) (l : Loader)
    (name : Text) : Except LoadFailure DataType × Loader :=
  match l.definitions.get? name with
  | some definition =>
      match build resolve (l.enter name) name definition with
      | (.error e, l) => (.error e, l.leave)
      | (.ok t, l) => (.ok t, l.leave.keep name t)
  | none =>
      match Primitive.ofName? name with
      | some kind =>
          let t := .primitive l.nextId .none kind
          (.ok t, l.keep name t)
      | none =>
          let t := .unresolved l.nextId .none name
          (.ok t, (l.report [.unresolvedReference name l.current?]).keep name t)

/-- Resolve a reference with at most the given number of nested calls. -/
def resolveWithin : Nat → Loader → Json → Except LoadFailure DataType × Loader
  | 0, l, _ => (.error .exhausted, l)
  | depth + 1, l, .str name =>
      match l.resolved.get? name with
      | some t => (.ok t, l)
      | none =>
          if name ∈ l.resolving then (.error (.graph (.circular (l.chainTo name))), l)
          else resolveNew (resolveWithin depth) l name
  | _ + 1, l, ref => (.error (.graph (.referenceNotText ref.typeName)), l)

/-- Calls nest at most this deep: once for each declared name, and once for its references. -/
def depthBound (l : Loader) : Nat := l.definitions.size + 1

/-- Resolve a reference to its type. -/
def resolve (l : Loader) (ref : Json) : Except LoadFailure DataType × Loader :=
  resolveWithin l.depthBound l ref

/-- Resolve every declared name, in the order of declaration. -/
def load (l : Loader) : Except LoadFailure (Mapping DataType) × Loader :=
  let names := l.definitions.keys
  match resolveEach resolve l (names.map .str) with
  | (.error e, l) => (.error e, l)
  | (.ok types, l) =>
      let types := Mapping.ofList (names.zip types)
      (.ok types, l.report [.graphLoaded types.size l.resolved.size])

/-- Declare a name, anew or in place of an earlier definition; what is kept stays. -/
def define (l : Loader) (name : Text) (definition : Json) : Loader :=
  { l with definitions := l.definitions.set name definition }

/-- Withdraw a declaration; what is kept stays. -/
def undefine (l : Loader) (name : Text) : Loader :=
  { l with definitions := l.definitions.erase name }

end Loader
end TypeGraph
