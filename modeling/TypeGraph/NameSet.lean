import TypeGraph.Text.Basic

/-!
Finite sets of names, kept in ascending code-point order. Ascending lists are canonical: two
sets with the same members are equal, and listing a set is listing it in order.
-/

namespace TypeGraph

structure NameSet where
  names : List Text
  ascending : names.Pairwise (· < ·)
deriving DecidableEq

namespace NameSet

/-- Put a name before the first larger one, unless it is there already. -/
def place (name : Text) : List Text → List Text
  | [] => [name]
  | other :: rest =>
      if name < other then name :: other :: rest
      else if name = other then other :: rest
      else other :: place name rest

theorem mem_place {x name : Text} {l : List Text} :
    x ∈ place name l ↔ x = name ∨ x ∈ l := by
  induction l with
  | nil => simp [place]
  | cons other rest ih =>
    unfold place
    split
    · simp
    · split
      · rename_i h
        simp [h]
      · simp only [List.mem_cons, ih, or_left_comm]

theorem ascending_place (name : Text) {l : List Text} (h : l.Pairwise (· < ·)) :
    (place name l).Pairwise (· < ·) := by
  induction l with
  | nil => simp [place]
  | cons other rest ih =>
    obtain ⟨hmin, hrest⟩ := List.pairwise_cons.1 h
    unfold place
    split
    · rename_i hlt
      refine List.pairwise_cons.2 ⟨fun y hy => ?_, h⟩
      rcases List.mem_cons.1 hy with rfl | hy
      · exact hlt
      · exact Text.lt_trans hlt (hmin y hy)
    · split
      · exact h
      · rename_i hlt hne
        refine List.pairwise_cons.2 ⟨fun y hy => ?_, ih hrest⟩
        rcases mem_place.1 hy with rfl | hy
        · exact Text.lt_of_not_lt_of_ne hlt hne
        · exact hmin y hy

def empty : NameSet := ⟨[], .nil⟩

instance : EmptyCollection NameSet := ⟨empty⟩

instance : Inhabited NameSet := ⟨empty⟩

instance : Membership Text NameSet := ⟨fun s name => name ∈ s.names⟩

def toList (s : NameSet) : List Text := s.names

def isEmpty (s : NameSet) : Bool := s.names.isEmpty

def insert (s : NameSet) (name : Text) : NameSet :=
  ⟨place name s.names, ascending_place name s.ascending⟩

def singleton (name : Text) : NameSet := empty.insert name

def ofList (l : List Text) : NameSet := l.foldl insert empty

def union (s t : NameSet) : NameSet := t.names.foldl insert s

instance : Union NameSet := ⟨union⟩

theorem mem_def {name : Text} {s : NameSet} : name ∈ s ↔ name ∈ s.names := Iff.rfl

@[simp] theorem notMem_empty (name : Text) : ¬ name ∈ (empty : NameSet) :=
  List.not_mem_nil

@[simp] theorem mem_insert {x name : Text} {s : NameSet} :
    x ∈ s.insert name ↔ x = name ∨ x ∈ s :=
  mem_place

@[simp] theorem mem_singleton {x name : Text} : x ∈ singleton name ↔ x = name := by
  simp [singleton]

theorem mem_foldl_insert {x : Text} (l : List Text) (s : NameSet) :
    x ∈ l.foldl insert s ↔ x ∈ s ∨ x ∈ l := by
  induction l generalizing s with
  | nil => simp
  | cons name rest ih => simp only [List.foldl_cons, ih, mem_insert, List.mem_cons]; grind

@[simp] theorem mem_ofList {x : Text} {l : List Text} : x ∈ ofList l ↔ x ∈ l := by
  simp [ofList, mem_foldl_insert]

@[simp] theorem mem_union {x : Text} {s t : NameSet} : x ∈ s.union t ↔ x ∈ s ∨ x ∈ t :=
  mem_foldl_insert t.names s

end NameSet
end TypeGraph
