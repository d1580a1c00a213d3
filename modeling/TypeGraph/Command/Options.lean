import TypeGraph.NameSet
import TypeGraph.Text.Quoted
import TypeGraph.Text.Similarity

/-!
The options of the command line. Options and positional arguments may be mixed; two dashes end
the options. A value is the next argument unless it is attached: after an equals sign to a long
name, directly to a short one. Of repeated options the last counts.
-/

namespace TypeGraph.Command

inductive Flag
  | config
  | output
  | failOnUnresolved
  | help
deriving DecidableEq

namespace Flag

def all : List Flag := [config, output, failOnUnresolved, help]

def long : Flag → String
  | config => "--config"
  | output => "--output"
  | failOnUnresolved => "--fail-on-unresolved"
  | help => "--help"

def short? : Flag → Option Char
  | config => some 'c'
  | output => some 'o'
  | _ => none

def takesValue : Flag → Bool
  | config | output => true
  | _ => false

def ofLong? (name : String) : Option Flag := all.find? (fun flag => flag.long == name)

def ofShort? (c : Char) : Option Flag := all.find? (fun flag => flag.short? == some c)

/-- How many options a mistyped one is taken for at most. -/
def maxSimilar : Nat := 3

/-- The long names that a mistyped one may stand for, in order. -/
def similarNames (name : String) : List Text :=
  (NameSet.ofList ((Text.closeMatches maxSimilar name (all.map long)).map .ofString)).toList

end Flag

inductive ParseError
  /-- No option has the name; `similar` are those that may be meant. -/
  | unknownOption (name : String) (similar : List Text)
  | missingValue (name : String)
  | unexpectedValue (name : String)
deriving DecidableEq

/-- An option as it is written: the option, the name in use and a value attached to it. -/
structure Written where
  flag : Flag
  name : String
  attached : Option String

/-- Read an argument that starts with two dashes. -/
def Written.ofLong (arg : List Char) : Except ParseError Written :=
  let name := String.ofList (arg.takeWhile (· != '='))
  let attached := match arg.dropWhile (· != '=') with
    | _ :: value => some (String.ofList value)
    | [] => none
  match Flag.ofLong? name with
  | some flag => .ok ⟨flag, name, attached⟩
  | none => .error (.unknownOption name (Flag.similarNames name))

/-- Read an argument that starts with one dash, from the letter on. -/
def Written.ofShort (letter : Char) (rest : List Char) : Except ParseError Written :=
  let name := String.ofList ['-', letter]
  match Flag.ofShort? letter with
  | some flag => .ok ⟨flag, name, if rest.isEmpty then none else some (String.ofList rest)⟩
  | none => .error (.unknownOption name [])

/-- What the arguments say: the options in order with their values, and the rest. -/
structure Parsed where
  options : List (Flag × String)
  positional : List String

namespace Parsed

def addOption (p : Parsed) (flag : Flag) (value : String) : Parsed :=
  { p with options := p.options ++ [(flag, value)] }

def addPositional (p : Parsed) (args : List String) : Parsed :=
  { p with positional := p.positional ++ args }

/-- Whether an argument is an option, and which; a lone dash is none. -/
def option? (arg : String) : Option (Except ParseError Written) :=
  match arg.toList with
  | '-' :: '-' :: rest => some (Written.ofLong ('-' :: '-' :: rest))
  | '-' :: letter :: rest => some (Written.ofShort letter rest)
  | _ => none

def readFrom (p : Parsed) : List String → Except ParseError Parsed
  | [] => .ok p
  | arg :: rest =>
      if arg = "--" then .ok (p.addPositional rest)
      else
        match option? arg with
        | none => readFrom (p.addPositional [arg]) rest
        | some (.error e) => .error e
        | some (.ok written) =>
            if written.flag.takesValue then
              match written.attached, rest with
              | some value, rest => readFrom (p.addOption written.flag value) rest
              | none, value :: rest => readFrom (p.addOption written.flag value) rest
              | none, [] => .error (.missingValue written.name)
            else if written.attached.isSome then .error (.unexpectedValue written.name)
            else readFrom (p.addOption written.flag "") rest
termination_by args => args.length

def read (args : List String) : Except ParseError Parsed := readFrom ⟨[], []⟩ args

def has (p : Parsed) (flag : Flag) : Bool := p.options.any (fun o => o.1 == flag)

/-- The value of an option: the last one given. -/
def value? (p : Parsed) (flag : Flag) : Option String := p.options.reverse.lookup flag

/-- Whether the output is given before the configuration. -/
def outputFirst (p : Parsed) : Bool :=
  (p.options.map Prod.fst).find? (fun flag => flag == .config || flag == .output) == some .output

end Parsed
end TypeGraph.Command
