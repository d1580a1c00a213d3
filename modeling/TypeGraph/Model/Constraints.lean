import TypeGraph.Model.FieldValue

/-!
Schema constraints of a data type. The validation keywords are carried unchanged; only the
list of required property names is interpreted.
-/

namespace TypeGraph

/-- The constraint keywords of a schema, in the order in which constraints list them. -/
inductive Keyword
  | default
  | nullable
  | minLength
  | maxLength
  | pattern
  | format
  | minimum
  | exclusiveMinimum
  | maximum
  | exclusiveMaximum
  | minItems
  | maxItems
  | uniqueItems
  | enum
  | required
deriving DecidableEq

namespace Keyword

def all : List Keyword :=
  [default, nullable, minLength, maxLength, pattern, format, minimum, exclusiveMinimum, maximum,
    exclusiveMaximum, minItems, maxItems, uniqueItems, enum, required]

/-- The keyword as a schema spells it. -/
def word : Keyword → Text
  | default => "default"
  | nullable => "nullable"
  | minLength => "minLength"
  | maxLength => "maxLength"
  | pattern => "pattern"
  | format => "format"
  | minimum => "minimum"
  | exclusiveMinimum => "exclusiveMinimum"
  | maximum => "maximum"
  | exclusiveMaximum => "exclusiveMaximum"
  | minItems => "minItems"
  | maxItems => "maxItems"
  | uniqueItems => "uniqueItems"
  | enum => "enum"
  | required => "required"

/-- The name of the constraint that the keyword sets. -/
def fieldName : Keyword → Text
  | minLength => "min_length"
  | maxLength => "max_length"
  | exclusiveMinimum => "exclusive_minimum"
  | exclusiveMaximum => "exclusive_maximum"
  | minItems => "min_items"
  | maxItems => "max_items"
  | uniqueItems => "unique_items"
  | keyword => keyword.word

def ofFieldName? (name : Text) : Option Keyword := all.find? (fun k => k.fieldName == name)

theorem mem_all (k : Keyword) : k ∈ all := by cases k <;> decide

/-- What a carried keyword is taken to be when a schema does not give it. -/
def fallback : Keyword → Json
  | nullable | uniqueItems => .bool false
  | _ => .null

end Keyword

/-- The constraints of one schema. An absent enumeration differs from an empty one. -/
structure Constraints where
  defaultValue : Json
  nullable : Json
  minLength : Json
  maxLength : Json
  pattern : Json
  format : Json
  minimum : Json
  exclusiveMinimum : Json
  maximum : Json
  exclusiveMaximum : Json
  minItems : Json
  maxItems : Json
  uniqueItems : Json
  enum : Option (List Json)
  required : List Json

namespace Constraints

/-- The class of constraints, as messages name it. -/
def className : Text := "DataTypeConstraints"

/-- The class together with the module that it is found in. -/
def fullClassName : Text := "schema_datatypes.model.constraints." ++ className

/-- Constraints from the values of the carried keywords and the two sequences. -/
def ofValues (value? : Keyword → Option Json) (enum : Option (List Json))
    (required : List Json) : Constraints :=
  let carried (k : Keyword) : Json := (value? k).getD k.fallback
  { defaultValue := carried .default
    nullable := carried .nullable
    minLength := carried .minLength
    maxLength := carried .maxLength
    pattern := carried .pattern
    format := carried .format
    minimum := carried .minimum
    exclusiveMinimum := carried .exclusiveMinimum
    maximum := carried .maximum
    exclusiveMaximum := carried .exclusiveMaximum
    minItems := carried .minItems
    maxItems := carried .maxItems
    uniqueItems := carried .uniqueItems
    enum := enum
    required := required }

def get (c : Constraints) : Keyword → FieldValue
  | .default => .single c.defaultValue
  | .nullable => .single c.nullable
  | .minLength => .single c.minLength
  | .maxLength => .single c.maxLength
  | .pattern => .single c.pattern
  | .format => .single c.format
  | .minimum => .single c.minimum
  | .exclusiveMinimum => .single c.exclusiveMinimum
  | .maximum => .single c.maximum
  | .exclusiveMaximum => .single c.exclusiveMaximum
  | .minItems => .single c.minItems
  | .maxItems => .single c.maxItems
  | .uniqueItems => .single c.uniqueItems
  | .enum => match c.enum with
      | none => .single .null
      | some values => .sequence values
  | .required => .sequence c.required

/-- All constraints by name. -/
def fields (c : Constraints) : List (Text × FieldValue) :=
  Keyword.all.map fun k => (k.fieldName, c.get k)

/-- Whether a property name is listed as required. -/
def isRequired (c : Constraints) (property : Text) : Bool :=
  c.required.any fun entry => match entry with
    | .str name => name == property
    | _ => false

/-- The same for a value that need not be a name. -/
def requires (c : Constraints) (property : Json) : Bool := c.required.any (Json.same · property)

end Constraints

/-- Constraints are equal when all their values are. -/
def Constraints.same (c d : Constraints) : Bool :=
  Keyword.all.all fun k => (c.get k).same (d.get k)

end TypeGraph
