import TypeGraph.Json.Basic

/-!
Ordered entries whose keys are values. Keys are compared by value, so `1`, `1.0` and `true` are
one key. Writing to a key that is present replaces its entry's value; the key stays as it was
first written, and where it is.
-/

namespace TypeGraph.Json

structure Table (α : Type) where
  entries : List (Json × α)

namespace Table

variable {α : Type}

def empty : Table α := ⟨[]⟩

def keys (t : Table α) : List Json := t.entries.map Prod.fst

def values (t : Table α) : List α := t.entries.map Prod.snd

def get? (t : Table α) (key : Json) : Option α :=
  (t.entries.find? fun e => e.1.same key).map Prod.snd

def contains (t : Table α) (key : Json) : Bool := t.entries.any fun e => e.1.same key

/-- Write one entry into a list of entries, in place if the key is present. -/
def setEntry (key : Json) (value : α) : List (Json × α) → List (Json × α)
  | [] => [(key, value)]
  | (k, v) :: rest =>
      if k.same key then (k, value) :: rest else (k, v) :: setEntry key value rest

def set (t : Table α) (key : Json) (value : α) : Table α := ⟨setEntry key value t.entries⟩

def erase (t : Table α) (key : Json) : Table α :=
  ⟨t.entries.filter fun e => !e.1.same key⟩

/-- Write entries one after the other. -/
def setAll (t : Table α) (l : List (Json × α)) : Table α :=
  l.foldl (fun acc e => acc.set e.1 e.2) t

def ofList (l : List (Json × α)) : Table α := empty.setAll l

/-- Merge tables: a later value wins, at the key's first position. -/
def merge (ts : List (Table α)) : Table α := ts.foldl (fun acc t => acc.setAll t.entries) empty

end Table
end TypeGraph.Json
