import TypeGraph.Json.Basic

/-!
Reading JSON text. The reader works on the characters that are left and returns what it did
not consume together with a proof that it is shorter, so it ends on every text. A failure
keeps the text from the offending character on, which fixes its position.

Beyond the standard, `NaN`, `Infinity` and `-Infinity` are numbers. A name that occurs twice
in an object has its last value at its first place.
-/

namespace TypeGraph.Json.Parser

inductive Reason
  | byteOrderMark
  | expectingValue
  | expectingName
  | expectingColon
  | expectingComma
  | unterminatedString
  | invalidControlCharacter
  | invalidEscape
  | invalidCodeEscape
  | extraData
deriving DecidableEq

def Reason.message : Reason → Text
  | .byteOrderMark => "Unexpected UTF-8 BOM (decode using utf-8-sig)"
  | .expectingValue => "Expecting value"
  | .expectingName => "Expecting property name enclosed in double quotes"
  | .expectingColon => "Expecting ':' delimiter"
  | .expectingComma => "Expecting ',' delimiter"
  | .unterminatedString => "Unterminated string starting at"
  | .invalidControlCharacter => "Invalid control character at"
  | .invalidEscape => "Invalid \\escape"
  | .invalidCodeEscape => "Invalid \\uXXXX escape"
  | .extraData => "Extra data"

/-- A failure with the text from the offending character on. -/
structure Halt where
  reason : Reason
  rest : List Char

/-- What was read from the front of a text, and the shorter text that is left. -/
structure Consumed (α : Type) (text : List Char) where
  value : α
  rest : List Char
  shorter : rest.length < text.length

def isBlank (c : Char) : Bool := c == ' ' || c == '\t' || c == '\n' || c == '\r'

def skipBlank (text : List Char) : List Char := text.dropWhile isBlank

theorem length_dropWhile_le (p : Char → Bool) (text : List Char) :
    (text.dropWhile p).length ≤ text.length :=
  (List.dropWhile_sublist p).length_le

theorem length_skipBlank_le (text : List Char) : (skipBlank text).length ≤ text.length :=
  length_dropWhile_le isBlank text

theorem length_lt_of_skipBlank_eq {text after : List Char} {c : Char}
    (h : skipBlank text = c :: after) : after.length < text.length := by
  have := length_skipBlank_le text
  rw [h, List.length_cons] at this
  omega

theorem length_skipBlank_lt {text after : List Char} {c : Char}
    (h : skipBlank text = c :: after) : (skipBlank after).length < text.length :=
  Nat.lt_of_le_of_lt (length_skipBlank_le after) (length_lt_of_skipBlank_eq h)

def hexDigit? (c : Char) : Option Nat :=
  if '0' ≤ c ∧ c ≤ '9' then some (c.toNat - '0'.toNat)
  else if 'a' ≤ c ∧ c ≤ 'f' then some (c.toNat - 'a'.toNat + 10)
  else if 'A' ≤ c ∧ c ≤ 'F' then some (c.toNat - 'A'.toNat + 10)
  else none

/-- The four hexadecimal digits at the front of a text. -/
def hexCode? : List Char → Option Nat
  | a :: b :: c :: d :: _ => do
      let a ← hexDigit? a
      let b ← hexDigit? b
      let c ← hexDigit? c
      let d ← hexDigit? d
      some (((a * 16 + b) * 16 + c) * 16 + d)
  | _ => none

def simpleEscape? : Char → Option Char
  | '"' => some '"'
  | '\\' => some '\\'
  | '/' => some '/'
  | 'b' => some '\x08'
  | 'f' => some '\x0c'
  | 'n' => some '\n'
  | 'r' => some '\r'
  | 't' => some '\t'
  | _ => none

def isHighSurrogate (code : Nat) : Bool := 0xD800 ≤ code && code < 0xDC00

def isLowSurrogate (code : Nat) : Bool := 0xDC00 ≤ code && code < 0xE000

/-- The second half of a surrogate pair, if an escape that can hold one follows. -/
def lowHalf? (text : List Char) : Except Halt (Option Nat) :=
  match text with
  | '\\' :: 'u' :: digits =>
      if digits.length ≤ 4 then .ok none
      else
        match hexCode? digits with
        | none => .error ⟨.invalidCodeEscape, 'u' :: digits⟩
        | some code => .ok (if isLowSurrogate code then some code else none)
  | _ => .ok none

/-- A code escape, read after its `u`: the code point and how many characters it takes. The four
digits have to be followed by at least one more character. Of a surrogate without its partner
the code is kept. -/
def codeEscape (digits : List Char) : Except Halt (CodePoint × Nat) :=
  if digits.length ≤ 4 then .error ⟨.invalidCodeEscape, 'u' :: digits⟩
  else
    match hexCode? digits with
    | none => .error ⟨.invalidCodeEscape, 'u' :: digits⟩
    | some code =>
        if isHighSurrogate code then do
          match ← lowHalf? (digits.drop 4) with
          | some low =>
              .ok (.ofCode (0x10000 + (code - 0xD800) * 0x400 + (low - 0xDC00)), 10)
          | none => .ok (.ofCode code, 4)
        else .ok (.ofCode code, 4)

/-- The rest of a string after its opening quote; `opening` is the text from that quote on. -/
def stringBody (opening text : List Char) : Except Halt (Consumed (List CodePoint) text) :=
  match text with
  | [] => .error ⟨.unterminatedString, opening⟩
  | '"' :: rest => .ok ⟨[], rest, by simp⟩
  | '\\' :: [] => .error ⟨.unterminatedString, opening⟩
  | '\\' :: 'u' :: rest => do
      let (point, taken) ← codeEscape rest
      let tail ← stringBody opening (rest.drop taken)
      .ok ⟨point :: tail.value, tail.rest, by
        have := tail.shorter
        simp only [List.length_drop, List.length_cons] at *
        omega⟩
  | '\\' :: e :: rest =>
      match simpleEscape? e with
      | none => .error ⟨.invalidEscape, text⟩
      | some c => do
          let tail ← stringBody opening rest
          .ok ⟨c :: tail.value, tail.rest, by
            have := tail.shorter
            simp only [List.length_cons] at *
            omega⟩
  | c :: rest =>
      if c.toNat < 0x20 then .error ⟨.invalidControlCharacter, text⟩
      else do
        let tail ← stringBody opening rest
        .ok ⟨c :: tail.value, tail.rest, by
          have := tail.shorter
          simp only [List.length_cons] at *
          omega⟩
termination_by text.length
decreasing_by all_goals simp only [List.length_drop, List.length_cons]; omega

def isDigit (c : Char) : Bool := '0' ≤ c && c ≤ '9'

def natOfDigits (digits : List Char) : Nat :=
  digits.foldl (fun n c => n * 10 + (c.toNat - '0'.toNat)) 0

/-- The digits of a fraction, with what follows them; none unless a digit follows the point. -/
def fraction? (text : List Char) : Option (Consumed (List Char) text) :=
  match text with
  | '.' :: rest =>
      if (rest.takeWhile isDigit).isEmpty then none
      else some ⟨rest.takeWhile isDigit, rest.dropWhile isDigit, by
        have := length_dropWhile_le isDigit rest
        simp only [List.length_cons]
        omega⟩
  | _ => none

/-- An exponent with its sign, with what follows; none unless it has a digit. -/
def exponent? (text : List Char) : Option (Consumed Int text) :=
  match text with
  | e :: rest =>
      if e = 'e' ∨ e = 'E' then
        let negative := rest.head? == some '-'
        let digits := if negative || rest.head? == some '+' then rest.drop 1 else rest
        if (digits.takeWhile isDigit).isEmpty then none
        else
          let size : Int := natOfDigits (digits.takeWhile isDigit)
          some ⟨if negative then -size else size, digits.dropWhile isDigit, by
            have := length_dropWhile_le isDigit digits
            have : digits.length ≤ rest.length := by
              simp only [digits]
              split <;> simp
            simp only [List.length_cons]
            omega⟩
      else none
  | _ => none

/-- The digits before the point: a single zero, or digits that do not start with one. -/
def wholePart? (text : List Char) : Option (Consumed (List Char) text) :=
  match text with
  | '0' :: rest => some ⟨['0'], rest, by simp⟩
  | c :: rest =>
      if isDigit c then
        some ⟨c :: rest.takeWhile isDigit, rest.dropWhile isDigit, by
          have := length_dropWhile_le isDigit rest
          simp only [List.length_cons]
          omega⟩
      else none
  | [] => none

/-- A number without its sign. A fraction or an exponent makes it double-precision. -/
def magnitude? (negative : Bool) (text : List Char) : Option (Consumed Json text) := do
  let whole ← wholePart? text
  let signed (n : Nat) : Int := if negative then -n else n
  let float (digits : List Char) (exponent : Int) : Json :=
    .float (Binary64.ofDecimal negative (natOfDigits digits) exponent)
  match fraction? whole.rest with
  | none =>
      match exponent? whole.rest with
      | none => some ⟨.int (signed (natOfDigits whole.value)), whole.rest, whole.shorter⟩
      | some e => some ⟨float whole.value e.value, e.rest, Nat.lt_trans e.shorter whole.shorter⟩
  | some places =>
      let digits := whole.value ++ places.value
      let shift : Int := -(places.value.length : Int)
      let shorter := Nat.lt_trans places.shorter whole.shorter
      match exponent? places.rest with
      | none => some ⟨float digits shift, places.rest, shorter⟩
      | some e => some ⟨float digits (shift + e.value), e.rest, Nat.lt_trans e.shorter shorter⟩

def number? (text : List Char) : Option (Consumed Json text) :=
  match text with
  | '-' :: rest =>
      (magnitude? true rest).map fun r =>
        ⟨r.value, r.rest, Nat.lt_succ_of_lt r.shorter⟩
  | other => magnitude? false other

/-- Values that are written as one word. -/
def words : List (String × Json) := [
  ("null", .null), ("true", .bool true), ("false", .bool false),
  ("NaN", .float .nan), ("Infinity", .float (.infinite false)),
  ("-Infinity", .float (.infinite true))]

def word? (text : List Char) : Option (Consumed Json text) :=
  words.findSome? fun entry =>
    if h : entry.1.toList.isPrefixOf text ∧ 0 < entry.1.toList.length then
      some ⟨entry.2, text.drop entry.1.toList.length, by
        have := (List.isPrefixOf_iff_prefix.1 h.1).length_le
        rw [List.length_drop]
        omega⟩
    else none

mutual

/-- A value at the front of a text that does not start with a blank. -/
def value (text : List Char) : Except Halt (Consumed Json text) :=
  match text with
  | '"' :: rest => do
      let body ← stringBody ('"' :: rest) rest
      .ok ⟨.str ⟨body.value⟩, body.rest, Nat.lt_succ_of_lt body.shorter⟩
  | '[' :: rest =>
      have shorter := Nat.lt_succ_of_le (length_skipBlank_le rest)
      match h : skipBlank rest with
      | ']' :: after => .ok ⟨.arr [], after, Nat.lt_succ_of_lt (length_lt_of_skipBlank_eq h)⟩
      | _ => do
          let items ← elements (skipBlank rest)
          .ok ⟨.arr items.value, items.rest, Nat.lt_trans items.shorter shorter⟩
  | '\x7b' :: rest =>
      have shorter := Nat.lt_succ_of_le (length_skipBlank_le rest)
      match h : skipBlank rest with
      | '\x7d' :: after => .ok ⟨.obj [], after, Nat.lt_succ_of_lt (length_lt_of_skipBlank_eq h)⟩
      | _ => do
          let fields ← members (skipBlank rest)
          .ok ⟨.obj (Mapping.ofList fields.value).entries, fields.rest,
            Nat.lt_trans fields.shorter shorter⟩
  | other =>
      match word? other with
      | some r => .ok r
      | none =>
          match number? other with
          | some r => .ok r
          | none => .error ⟨.expectingValue, other⟩
termination_by 2 * text.length
decreasing_by all_goals rw [List.length_cons]; omega

/-- The items of a list from a first one on, with the closing bracket. -/
def elements (text : List Char) : Except Halt (Consumed (List Json) text) := do
  let first ← value text
  match h : skipBlank first.rest with
  | ']' :: after => .ok ⟨[first.value], after,
      Nat.lt_trans (length_lt_of_skipBlank_eq h) first.shorter⟩
  | ',' :: after => do
      have shorter := Nat.lt_trans (length_skipBlank_lt h) first.shorter
      let more ← elements (skipBlank after)
      .ok ⟨first.value :: more.value, more.rest, Nat.lt_trans more.shorter shorter⟩
  | other => .error ⟨.expectingComma, other⟩
termination_by 2 * text.length + 1
decreasing_by all_goals omega

/-- The fields of an object from a first one on, with the closing brace. -/
def members (text : List Char) : Except Halt (Consumed (List (Text × Json)) text) :=
  match text with
  | '"' :: rest => do
      let name ← stringBody ('"' :: rest) rest
      match hc : skipBlank name.rest with
      | ':' :: start => do
          have shorterValue :=
            Nat.lt_succ_of_lt (Nat.lt_trans (length_skipBlank_lt hc) name.shorter)
          let field ← value (skipBlank start)
          have shorterField := Nat.lt_trans field.shorter shorterValue
          let entry := (⟨name.value⟩, field.value)
          match hf : skipBlank field.rest with
          | '\x7d' :: after => .ok ⟨[entry], after,
              Nat.lt_trans (length_lt_of_skipBlank_eq hf) shorterField⟩
          | ',' :: after => do
              have shorter := Nat.lt_trans (length_skipBlank_lt hf) shorterField
              let more ← members (skipBlank after)
              .ok ⟨entry :: more.value, more.rest, Nat.lt_trans more.shorter shorter⟩
          | other => .error ⟨.expectingComma, other⟩
      | other => .error ⟨.expectingColon, other⟩
  | _ => .error ⟨.expectingName, text⟩
termination_by 2 * text.length + 1
decreasing_by all_goals rw [List.length_cons]; omega

end

/-- A failure with its place: the offset of the character, its line and its column. -/
structure Fault where
  reason : Reason
  offset : Nat
  line : Nat
  column : Nat
deriving DecidableEq

/-- Lines count from 1 and end with a line feed; columns count from 1. -/
def Fault.ofHalt (text : List Char) (halt : Halt) : Fault :=
  let before := text.take (text.length - halt.rest.length)
  { reason := halt.reason
    offset := before.length
    line := before.count '\n' + 1
    column := (before.reverse.takeWhile (· != '\n')).length + 1 }

def Fault.message (f : Fault) : Text :=
  f.reason.message ++ ": line " ++ toString f.line ++ " column " ++ toString f.column ++
    " (char " ++ toString f.offset ++ ")"

/-- One value with blanks around it and nothing else. -/
def document (text : List Char) : Except Halt Json :=
  match text with
  | '\uFEFF' :: _ => .error ⟨.byteOrderMark, text⟩
  | _ => do
      let r ← value (skipBlank text)
      match skipBlank r.rest with
      | [] => .ok r.value
      | rest => .error ⟨.extraData, rest⟩

end Parser

/-- Read a JSON text. -/
def parse (text : List Char) : Except Parser.Fault Json :=
  (Parser.document text).mapError (Parser.Fault.ofHalt text)

end TypeGraph.Json
