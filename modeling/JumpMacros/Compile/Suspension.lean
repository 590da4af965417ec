import JumpMacros.Compile.Refusal
import JumpMacros.Tree.Node

/-!
# Suspension

A function that yields is a generator, and one that awaits is a coroutine. What is inside of
another function, a lambda expression or a comprehension counts there; but the default values of
a function, and what the first clause of a comprehension iterates over, are evaluated outside of
it. A comprehension other than a generator expression is run at once, so that one that awaits
makes the scope around it await.
-/

namespace JumpMacros

/-- What the first clause iterates over. It is evaluated outside of a comprehension. -/
def Clause.outerIter : List Clause → List Expr
  | [] => []
  | .mk _ _ i _ :: _ => [i]

/-- The expressions of a clause after the first, in the order in which they are evaluated, each
with whether it is assigned to. -/
def Clause.parts : Clause → List (NameUse × Expr)
  | .mk _ t i cs => (.load, i) :: (.store, t) :: cs.map (.load, ·)

/-- The expressions of clauses that are evaluated inside of a comprehension. -/
def Clause.innerParts : List Clause → List (NameUse × Expr)
  | [] => []
  | .mk _ t _ cs :: rest => (.store, t) :: cs.map (.load, ·) ++ rest.flatMap Clause.parts

def Clause.isAsync : Clause → Bool
  | .mk a _ _ _ => a

theorem Clause.mem_exprs_of_mem_outerIter {cs : List Clause} {e : Expr}
    (h : e ∈ Clause.outerIter cs) : e ∈ cs.flatMap Clause.exprs := by
  cases cs with
  | nil => simp [outerIter] at h
  | cons c rest =>
    obtain ⟨_, t, i, cs⟩ := c
    simp [outerIter] at h
    simp [Clause.exprs, h]

theorem Clause.mem_exprs_of_mem_innerParts {cs : List Clause} {x : NameUse × Expr}
    (h : x ∈ Clause.innerParts cs) : x.2 ∈ cs.flatMap Clause.exprs := by
  cases cs with
  | nil => simp [innerParts] at h
  | cons c rest =>
    obtain ⟨_, t, i, cs⟩ := c
    simp only [innerParts, List.cons_append, List.mem_cons, List.mem_append, List.mem_map,
      List.mem_flatMap] at h
    simp only [List.flatMap_cons, List.mem_append, Clause.exprs, List.mem_cons, List.mem_flatMap]
    rcases h with rfl | ⟨a, ha, rfl⟩ | ⟨c, hc, hx⟩
    · exact Or.inl (Or.inl rfl)
    · exact Or.inl (Or.inr (Or.inr ha))
    · refine Or.inr ⟨c, hc, ?_⟩
      obtain ⟨_, t', i', cs'⟩ := c
      simp only [Clause.parts, List.mem_cons, List.mem_map] at hx
      simp only [List.mem_cons]
      rcases hx with rfl | rfl | ⟨a, ha, rfl⟩
      · exact Or.inr (Or.inl rfl)
      · exact Or.inl rfl
      · exact Or.inr (Or.inr ha)

namespace Expr

/-- The expressions that a comprehension evaluates inside of itself, and those that are evaluated
outside of it. -/
def comprehended : Expr → List (NameUse × Expr) × List Expr
  | .comprehension _ _ e cs => (Clause.innerParts cs ++ [(.load, e)], Clause.outerIter cs)
  | .dictComprehension _ k v cs =>
    (Clause.innerParts cs ++ [(.load, k), (.load, v)], Clause.outerIter cs)
  | _ => ([], [])

theorem mem_children_of_comprehended {e : Expr} {x : NameUse × Expr}
    (h : x ∈ e.comprehended.1) : x.2 ∈ e.children := by
  cases e <;> simp only [comprehended, List.not_mem_nil, List.mem_append, List.mem_cons,
    or_false] at h
  case comprehension _ _ e cs =>
    rcases h with h | rfl
    · exact List.mem_cons_of_mem _ (Clause.mem_exprs_of_mem_innerParts h)
    · exact List.mem_cons_self
  case dictComprehension _ k v cs =>
    rcases h with h | rfl | rfl
    · exact List.mem_cons_of_mem _ (List.mem_cons_of_mem _ (Clause.mem_exprs_of_mem_innerParts h))
    · exact List.mem_cons_self
    · exact List.mem_cons_of_mem _ List.mem_cons_self

theorem mem_children_of_mem_outer {e x : Expr} (h : x ∈ e.comprehended.2) : x ∈ e.children := by
  cases e <;> simp only [comprehended, List.not_mem_nil] at h
  case comprehension _ _ e cs =>
    exact List.mem_cons_of_mem _ (Clause.mem_exprs_of_mem_outerIter h)
  case dictComprehension _ k v cs =>
    exact List.mem_cons_of_mem _ (List.mem_cons_of_mem _ (Clause.mem_exprs_of_mem_outerIter h))

/-- The form of a comprehension. -/
def form? : Expr → Option ComprehensionForm
  | .comprehension _ k _ _ => some k.form
  | .dictComprehension _ _ _ _ => some .dict
  | _ => none

/-- Whether a clause of a comprehension is an asynchronous one. -/
def hasAsyncClause : Expr → Bool
  | .comprehension _ _ _ cs | .dictComprehension _ _ _ cs => cs.any Clause.isAsync
  | _ => false

/-- Whether an expression makes the scope it is in yield. -/
def yields (e : Expr) : Bool :=
  match e with
  | .yield _ _ | .yieldFrom _ _ => true
  | .lambda _ ps _ => ps.exprs.attach.any fun ⟨x, _⟩ => x.yields
  | e =>
    if e.form?.isSome then e.comprehended.2.attach.any fun ⟨x, _⟩ => x.yields
    else e.children.attach.any fun ⟨x, _⟩ => x.yields
termination_by sizeOf e
decreasing_by
  · rename_i _ h; have := Params.sizeOf_lt h; simp; omega
  · rename_i _ h; exact sizeOf_lt (mem_children_of_mem_outer h)
  · rename_i _ h; exact sizeOf_lt h

/-- Whether an expression makes the scope it is in await. -/
def awaits (e : Expr) : Bool :=
  match e with
  | .await _ _ => true
  | .lambda _ ps _ => ps.exprs.attach.any fun ⟨x, _⟩ => x.awaits
  | e =>
    match e.form? with
    | some f =>
      (e.comprehended.2.attach.any fun ⟨x, _⟩ => x.awaits) ||
        f != .generator &&
          (e.hasAsyncClause || e.comprehended.1.attach.any fun ⟨x, _⟩ => x.2.awaits)
    | none => e.children.attach.any fun ⟨x, _⟩ => x.awaits
termination_by sizeOf e
decreasing_by
  · rename_i h; have := Params.sizeOf_lt h; simp; omega
  · rename_i h; exact sizeOf_lt (mem_children_of_mem_outer h)
  · rename_i h; exact sizeOf_lt (mem_children_of_comprehended h)
  · rename_i h; exact sizeOf_lt h

/-- Whether a comprehension awaits while it is run. -/
def runsAsync (e : Expr) : Bool :=
  e.hasAsyncClause || e.comprehended.1.any fun x => x.2.awaits

end Expr

/-- The expressions that are evaluated in the scope of a body. -/
def scopeExprs (textNotes : Bool) (body : List (Stmt Empty)) : List Expr :=
  let enter : Node Empty → Bool
    | .stmt (.function _ _ _) | .stmt (.klass _ _ _) | .expr _ => false
    | _ => true
  (Node.walk enter (Node.ofStmts body)).flatMap fun
    | .stmt (.function _ h _) => h.outerExprs textNotes
    | .stmt (.klass _ h _) => h.exprs
    | .expr e => [e]
    | _ => []

end JumpMacros
