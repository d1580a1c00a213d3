import TypeGraph.Json.Literal

/-!
A small template language. A template is given by its lines, each of them plain text with outputs
and tags in it; tags enclose conditional and repeated parts. A tag takes the end of its line with it
if it is the last thing there, and leading blanks if it is the first.

What has no text and what has no value makes a template fail: nothing is shown in its place.
-/

namespace TypeGraph.Template

inductive Value
  | plain (value : Json)
  | list (items : List Value)
  | object (fields : List (Text × Value))

namespace Value

def text (s : Text) : Value := .plain (.str s)

def flag (b : Bool) : Value := .plain (.bool b)

/-- The test of a condition; objects hold whatever they say. -/
def holds : Value → Bool
  | plain value => value.holds
  | list items => !items.isEmpty
  | object _ => true

def text? : Value → Option Text
  | plain value => some value.display
  | _ => none

def items? : Value → Option (List Value)
  | list items => some items
  | _ => none

def field? (name : Text) : Value → Option Value
  | object fields => fields.lookup name
  | _ => none

@[simp] theorem holds_plain (value : Json) : (plain value).holds = value.holds := rfl
@[simp] theorem holds_list (items : List Value) : (list items).holds = !items.isEmpty := rfl
@[simp] theorem holds_object (fields : List (Text × Value)) : (object fields).holds = true := rfl
@[simp] theorem holds_text (s : Text) : (text s).holds = (s != "") := rfl
@[simp] theorem holds_flag (b : Bool) : (flag b).holds = b := rfl
@[simp] theorem text?_plain (value : Json) : (plain value).text? = some value.display := rfl
@[simp] theorem text?_text (s : Text) : (text s).text? = some s := rfl
@[simp] theorem items?_list (items : List Value) : (list items).items? = some items := rfl
@[simp] theorem field?_object (name : Text) (fields : List (Text × Value)) :
    (object fields).field? name = fields.lookup name := rfl

end Value

/-- The values of names, innermost first. -/
abbrev Scope := List (Text × Value)

inductive Expr
  | name (name : Text)
  | field (object : Expr) (name : Text)
  | literal (text : Text)
  /-- The second value if the first one holds, and else the first one. -/
  | both (first second : Expr)
  | joined (list : Expr) (separator : Text)
  | choice (condition positive negative : Expr)

def Expr.value? (scope : Scope) : Expr → Option Value
  | name n => scope.lookup n
  | field object n => (object.value? scope).bind (Value.field? n)
  | literal text => some (.text text)
  | both first second => (first.value? scope).bind fun v =>
      if v.holds then second.value? scope else some v
  | joined list separator => ((list.value? scope).bind Value.items?).bind fun items =>
      (items.mapM Value.text?).map fun texts => .text (separator.intercalate texts)
  | choice condition positive negative => (condition.value? scope).bind fun v =>
      if v.holds then positive.value? scope else negative.value? scope

inductive Tag
  | when (condition : Expr)
  | endWhen
  | each (name : Text) (list : Expr)
  | endEach

inductive Piece
  | text (text : Text)
  | output (value : Expr)
  | tag (tag : Tag)

def Piece.isTag : Piece → Bool
  | tag _ => true
  | _ => false

abbrev Line := List Piece

namespace Line

def isBlank (p : CodePoint) : Bool := p == CodePoint.char ' ' || p == CodePoint.char '\t'

/-- A line without the blanks before a tag that is the first thing on it. -/
def stripped : Line → Line
  | .text blanks :: .tag tag :: rest =>
      if blanks.points.all isBlank then .tag tag :: rest else .text blanks :: .tag tag :: rest
  | line => line

/-- What a line contributes to its template: its end counts unless it follows a tag. -/
def pieces (line : Line) : List Piece :=
  if line.getLast?.any Piece.isTag then line.stripped else line.stripped ++ [.text "\n"]

end Line

/-- A template with its parts nested. -/
inductive Node
  | text (text : Text)
  | output (value : Expr)
  | cond (condition : Expr) (body : List Node)
  | loop (name : Text) (list : Expr) (body : List Node)

/-- A tag whose end has not been met. -/
inductive Opening
  | when (condition : Expr)
  | each (name : Text) (list : Expr)

/-- Nest pieces, given the tags that are open, each with what stands before it, and what has been
read since the last of them. -/
def nest : List (Opening × List Node) → List Node → List Piece → Option (List Node)
  | [], nodes, [] => some nodes
  | outer, nodes, .text text :: rest => nest outer (nodes ++ [.text text]) rest
  | outer, nodes, .output value :: rest => nest outer (nodes ++ [.output value]) rest
  | outer, nodes, .tag (.when condition) :: rest => nest ((.when condition, nodes) :: outer) [] rest
  | outer, nodes, .tag (.each name list) :: rest => nest ((.each name list, nodes) :: outer) [] rest
  | (.when condition, before) :: outer, nodes, .tag .endWhen :: rest =>
      nest outer (before ++ [.cond condition nodes]) rest
  | (.each name list, before) :: outer, nodes, .tag .endEach :: rest =>
      nest outer (before ++ [.loop name list nodes]) rest
  | _, _, _ => none

mutual

def Node.text? (scope : Scope) : Node → Option Text
  | .text text => some text
  | .output value => (value.value? scope).bind Value.text?
  | .cond condition body => (condition.value? scope).bind fun v =>
      if v.holds then textOf? scope body else some ""
  | .loop name list body => ((list.value? scope).bind Value.items?).bind fun items =>
      (items.mapM fun item => textOf? ((name, item) :: scope) body).map Text.join

@[simp] def textOf? (scope : Scope) : List Node → Option Text
  | [] => some ""
  | node :: rest => (node.text? scope).bind fun text => (textOf? scope rest).map (text ++ ·)

end

theorem textOf?_append (scope : Scope) (before after : List Node) :
    textOf? scope (before ++ after) =
      (textOf? scope before).bind fun text => (textOf? scope after).map (text ++ ·) := by
  induction before with
  | nil => simp
  | cons node rest ih =>
      simp only [List.cons_append, textOf?, ih]
      cases node.text? scope <;> cases textOf? scope rest <;>
        simp [Text.append_assoc, Function.comp_def]

theorem mapM_text? (names : List Text) :
    (names.map Value.text).mapM Value.text? = some names := by
  induction names with
  | nil => rfl
  | cons name rest ih => rw [List.map_cons, List.mapM_cons, ih]; rfl

section

variable (scope : Scope)

@[simp] theorem value?_name (name : Text) :
    (Expr.name name).value? scope = scope.lookup name := rfl

@[simp] theorem value?_field (object : Expr) (name : Text) :
    (object.field name).value? scope = (object.value? scope).bind (Value.field? name) := rfl

@[simp] theorem value?_literal (text : Text) :
    (Expr.literal text).value? scope = some (.text text) := rfl

@[simp] theorem value?_both (first second : Expr) :
    (first.both second).value? scope = (first.value? scope).bind fun v =>
      if v.holds then second.value? scope else some v := rfl

@[simp] theorem value?_choice (condition positive negative : Expr) :
    (condition.choice positive negative).value? scope = (condition.value? scope).bind fun v =>
      if v.holds then positive.value? scope else negative.value? scope := rfl

@[simp] theorem text?_text (text : Text) : (Node.text text).text? scope = some text := by
  rw [Node.text?]

@[simp] theorem text?_output (value : Expr) :
    (Node.output value).text? scope = (value.value? scope).bind Value.text? := by
  rw [Node.text?]

@[simp] theorem text?_cond (condition : Expr) (body : List Node) :
    (Node.cond condition body).text? scope = (condition.value? scope).bind fun v =>
      if v.holds then textOf? scope body else some "" := by
  rw [Node.text?]

end

theorem value?_joined {scope : Scope} {list : Expr} {names : List Text} (separator : Text)
    (known : list.value? scope = some (.list (names.map .text))) :
    (Expr.joined list separator).value? scope = some (.text (separator.intercalate names)) := by
  simp only [Expr.value?, known, Option.bind_some, Value.items?_list, mapM_text?, Option.map_some]

theorem text?_loop {α : Type} {scope : Scope} {name : Text} {list : Expr} {body : List Node}
    {items : List α} {value : α → Value} {text : α → Text}
    (known : list.value? scope = some (.list (items.map value)))
    (each : ∀ item, textOf? ((name, value item) :: scope) body = some (text item)) :
    (Node.loop name list body).text? scope = some (Text.join (items.map text)) := by
  have texts : (items.map value).mapM (fun item => textOf? ((name, item) :: scope) body) =
      some (items.map text) := by
    rw [List.mapM_map]
    simp only [Function.comp_def, each]
    exact List.mapM_pure
  simp only [Node.text?, known, Option.bind_some, Value.items?_list, texts, Option.map_some]

/-- The text of a template, unless a tag is misplaced or something has no value. -/
def render (template : List Line) (scope : Scope) : Option Text :=
  (nest [] [] (template.flatMap Line.pieces)).bind (textOf? scope)

end TypeGraph.Template
