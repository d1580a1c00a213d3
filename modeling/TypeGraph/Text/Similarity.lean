/-!
How alike two texts are: by the length of what they share, block by block. The longest common
block counts first, the leftmost of several; what lies before it in both texts and what lies
after it are compared in the same way.
-/

namespace TypeGraph.Text

def commonPrefix : List Char → List Char → Nat
  | a :: as, b :: bs => if a = b then commonPrefix as bs + 1 else 0
  | _, _ => 0

theorem commonPrefix_le (a b : List Char) : commonPrefix a b ≤ a.length := by
  induction a generalizing b with
  | nil => exact Nat.zero_le _
  | cons c as ih =>
    cases b with
    | nil => exact Nat.zero_le _
    | cons d bs =>
      simp only [commonPrefix, List.length_cons]
      split
      · exact Nat.succ_le_succ (ih bs)
      · exact Nat.zero_le _

/-- A part that two texts share: where it starts in each of them, and its length. -/
structure Block where
  left : Nat
  right : Nat
  size : Nat
deriving DecidableEq

/-- The common parts from every pair of places on, in order. -/
def blocks (a b : List Char) : List Block :=
  (List.range a.length).flatMap fun i =>
    (List.range b.length).map fun j => ⟨i, j, commonPrefix (a.drop i) (b.drop j)⟩

theorem left_add_size_le {a b : List Char} {x : Block} (h : x ∈ blocks a b) :
    x.left + x.size ≤ a.length := by
  obtain ⟨i, hi, h⟩ := List.mem_flatMap.1 h
  obtain ⟨j, _, rfl⟩ := List.mem_map.1 h
  have hle := commonPrefix_le (a.drop i) (b.drop j)
  rw [List.length_drop] at hle
  have := List.mem_range.1 hi
  show i + commonPrefix (a.drop i) (b.drop j) ≤ a.length
  omega

/-- The earlier of two blocks, unless the later one is larger. -/
def Block.larger (x y : Block) : Block := if x.size < y.size then y else x

theorem foldl_larger_eq_or_mem (l : List Block) (x : Block) :
    l.foldl Block.larger x = x ∨ l.foldl Block.larger x ∈ l := by
  induction l generalizing x with
  | nil => exact .inl rfl
  | cons y rest ih =>
    rcases ih (x.larger y) with h | h
    · rw [List.foldl_cons, h]
      unfold Block.larger
      split
      · exact .inr List.mem_cons_self
      · exact .inl rfl
    · exact .inr (List.mem_cons_of_mem _ h)

def longestBlock (a b : List Char) : Block := (blocks a b).foldl Block.larger ⟨0, 0, 0⟩

theorem left_longestBlock_add_size_le (a b : List Char) :
    (longestBlock a b).left + (longestBlock a b).size ≤ a.length := by
  rcases foldl_larger_eq_or_mem (blocks a b) ⟨0, 0, 0⟩ with h | h
  · rw [longestBlock, h]
    exact Nat.zero_le _
  · exact left_add_size_le h

/-- The number of characters in the blocks that two texts share. -/
def sharedLength (a b : List Char) : Nat :=
  if (longestBlock a b).size = 0 then 0
  else
    let block := longestBlock a b
    sharedLength (a.take block.left) (b.take block.right) + block.size +
      sharedLength (a.drop (block.left + block.size)) (b.drop (block.right + block.size))
termination_by a.length
decreasing_by
  all_goals
    have := left_longestBlock_add_size_le a b
    simp only [List.length_take, List.length_drop]
    omega

/-- How alike two texts are, as a fraction: twice the shared length over the total length. -/
structure Similarity where
  shared : Nat
  total : Nat

def similarity (a b : String) : Similarity :=
  ⟨2 * sharedLength a.toList b.toList, a.length + b.length⟩

/-- Three fifths make two texts close. -/
def Similarity.isClose (s : Similarity) : Bool := 3 * s.total ≤ 5 * s.shared

def Similarity.less (s t : Similarity) : Bool := s.shared * t.total < t.shared * s.total

/-- Whether the first of two texts comes before the second in a ranking by likeness to a word;
of two that are equally alike the larger one comes first. -/
def ranksBefore (word first second : String) : Bool :=
  let s := similarity first word
  let t := similarity second word
  t.less s || (!s.less t && second ≤ first)

/-- The candidates close to a word, the most alike first, up to a limit. -/
def closeMatches (limit : Nat) (word : String) (candidates : List String) : List String :=
  let close := candidates.filter fun c => (similarity c word).isClose
  (close.mergeSort (ranksBefore word)).take limit

end TypeGraph.Text
