import TypeGraph.Json.Table
import TypeGraph.Loader.Basic

/-!
Drafts: a type graph whose declarations are edited between calls of its loader. Names are not
checked, so what is no text can be declared as well. It takes its place among the declared names,
and loading fails there, because only text can be resolved.
-/

namespace TypeGraph

structure Draft where
  loader : Loader
  /-- Everything that is declared, in order. -/
  declared : Json.Table Unit

namespace Draft

inductive EditFault
  /-- Lists and objects, of the given type here, can be no names. -/
  | compoundName (typeName : Text)
  /-- What is to be withdrawn is not declared. -/
  | undeclared (name : Json)

def EditFault.message : EditFault → Text
  | .compoundName typeName => "unhashable type: '" ++ typeName ++ "'"
  | .undeclared name => name.literal

/-- The draft that a loader's declarations make. -/
def ofLoader (l : Loader) : Draft :=
  ⟨l, Json.Table.ofList (l.definitions.keys.map fun name => (.str name, ()))⟩

/-- Declare a name, anew or in place of an earlier definition. -/
def define (d : Draft) (name definition : Json) : Except EditFault Draft :=
  match name with
  | .arr _ | .obj _ => .error (.compoundName name.typeName)
  | .str text => .ok ⟨d.loader.define text definition, d.declared.set name ()⟩
  | _ => .ok ⟨d.loader, d.declared.set name ()⟩

/-- Withdraw a declaration, which only a declared name has. -/
def undefine (d : Draft) (name : Json) : Except EditFault Draft :=
  match name, d.declared.contains name with
  | .arr _, _ | .obj _, _ => .error (.compoundName name.typeName)
  | _, false => .error (.undeclared name)
  | .str text, true => .ok ⟨d.loader.undefine text, d.declared.erase name⟩
  | _, true => .ok ⟨d.loader, d.declared.erase name⟩

/-- Resolve a reference to its type. -/
def resolve (d : Draft) (ref : Json) : Except LoadFailure DataType × Draft :=
  let (answer, l) := d.loader.resolve ref
  (answer, { d with loader := l })

/-- Resolve every declared name, in the order of declaration. Where all of them are text, that is
what the loader does. -/
def load (d : Draft) : Except LoadFailure (Mapping DataType) × Draft :=
  match Loader.resolveEach Loader.resolve d.loader d.declared.keys with
  | (.error e, l) => (.error e, { d with loader := l })
  | (.ok _, l) =>
      let (answer, l) := l.load
      (answer, { d with loader := l })

end Draft
end TypeGraph
