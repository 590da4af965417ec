import JumpMacros.Flag

/-!
# Walks over trees

The walk keeps a stack of nodes still to be visited. Here it is read as what it computes: the
nodes of a list of trees are those of the first, then those of the others (`Node.walk_cons`). The
names of a tree are therefore those of its root and those of the trees below it.
-/

namespace JumpMacros

namespace Node

variable {Hole : Type} [HasExprs Hole]

/-- What waits on the stack is walked after what lies above it. -/
theorem walk_append (enter : Node Hole → Bool) (ns ms : List (Node Hole)) :
    walk enter (ns ++ ms) = walk enter ns ++ walk enter ms := by
  -- The walk of `ns` decides how its stack moves, and `ms` stays below all the time.
  fun_induction walk enter ns with
  | case1 => rfl
  | case2 n rest ih =>
    rw [List.cons_append, walk, List.cons_append]
    congr 1
    by_cases h : enter n = true
    · simpa [h] using ih
    · simpa [h] using ih

theorem walk_cons (enter : Node Hole → Bool) (n : Node Hole) (ns : List (Node Hole)) :
    walk enter (n :: ns) =
      n :: ((if enter n then walk enter n.children else []) ++ walk enter ns) := by
  rw [walk]
  split
  · rw [walk_append]
  · rfl

end Node

end JumpMacros
