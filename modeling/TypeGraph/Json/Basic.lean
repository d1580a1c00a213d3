import TypeGraph.Mapping
import TypeGraph.Number.Binary64

/-!
JSON values. Integers of any size and double-precision numbers are told apart, and an object
keeps its fields in order. Comparison is by value: numbers and truth values compare as
numbers, and objects regardless of the order of their fields.
-/

namespace TypeGraph

inductive Json
  | null
  | bool (value : Bool)
  | int (value : Int)
  | float (value : Binary64)
  | str (value : Text)
  | arr (items : List Json)
  | obj (fields : List (Text × Json))

namespace Json

instance : Inhabited Json := ⟨null⟩

/-- The name of a value's type, as messages give it. -/
def typeName : Json → Text
  | null => "NoneType"
  | bool _ => "bool"
  | int _ => "int"
  | float _ => "float"
  | str _ => "str"
  | arr _ => "list"
  | obj _ => "dict"

/-- Zero, the empty text, the empty list, the empty object, false and null do not hold. -/
def holds : Json → Bool
  | null => false
  | bool b => b
  | int n => n != 0
  | float x => !x.isZero
  | str s => s != ""
  | arr items => !items.isEmpty
  | obj fields => !fields.isEmpty

def isNull : Json → Bool
  | null => true
  | _ => false

def asText? : Json → Option Text
  | str s => some s
  | _ => none

/-- Equality of numbers and truth values, the latter standing for 0 and 1. -/
def sameNumber : Json → Json → Bool
  | bool a, bool b => a == b
  | bool a, int n => a.toInt == n
  | bool a, float x => x.equalsInt a.toInt
  | int n, bool a => a.toInt == n
  | int m, int n => m == n
  | int n, float x => x.equalsInt n
  | float x, bool a => x.equalsInt a.toInt
  | float x, int n => x.equalsInt n
  | float x, float y => x.sameValue y
  | _, _ => false

/-- Where a number or a truth value stands among all numbers. -/
def place? : Json → Option (Int × Int)
  | bool b => some (0, b.toInt * Binary64.unit)
  | int n => some (0, n * Binary64.unit)
  | float x => x.place?
  | _ => none

mutual

/-- Equality by value. -/
def same : Json → Json → Bool
  | null, null => true
  | str a, str b => a == b
  | arr a, arr b => sameItems a b
  | obj a, obj b => a.length == b.length && sameFields a b
  | a, b => sameNumber a b

def sameItems : List Json → List Json → Bool
  | [], [] => true
  | a :: as, b :: bs => same a b && sameItems as bs
  | _, _ => false

/-- Whether every field of the first list has an equal one of its name in the second. -/
def sameFields : List (Text × Json) → List (Text × Json) → Bool
  | [], _ => true
  | (name, a) :: rest, fields =>
      (match fields.lookup name with
        | some b => same a b
        | none => false) && sameFields rest fields

end

end Json
end TypeGraph
