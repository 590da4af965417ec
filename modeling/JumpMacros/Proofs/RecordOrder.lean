import JumpMacros.Proofs.EveryNode
import JumpMacros.Proofs.ScopeIsolation

/-!
# Records come in source order

**Theorem (`expandModule_records_ordered`).** If the statements of a module, parents before children
and each block in order, start one after the other, the records of its expansion do so too. Each
record is at the start of a call statement, and no two at that of the same.

Nothing sorts the records. They are gathered from the statements with the names visible at them
(`recordsIn_eq`), and these statements are met in the order of the tree (`gather_statements`).
-/

namespace JumpMacros

open Node (ofExprs ofStmts)

/-! ## The statements of a tree -/

namespace Node

variable {Hole : Type} [HasExprs Hole]

/-- The statement that a node is. -/
def stmt? : Node Hole → Option (Stmt Hole)
  | .stmt s => some s
  | _ => none

/-- The statements in some trees, parents before children. -/
def statements (ns : List (Node Hole)) : List (Stmt Hole) := (all ns).filterMap stmt?

@[simp] theorem statements_nil : statements ([] : List (Node Hole)) = [] := by
  simp [statements, all, walk]

theorem statements_cons (n : Node Hole) (ns : List (Node Hole)) :
    statements (n :: ns) = n.stmt?.toList ++ (statements n.children ++ statements ns) := by
  unfold statements all
  rw [walk_cons, if_pos rfl, List.filterMap_cons, List.filterMap_append]
  cases n.stmt? <;> rfl

@[simp] theorem statements_append (ns ms : List (Node Hole)) :
    statements (ns ++ ms) = statements ns ++ statements ms := by
  rw [statements, all, walk_append, List.filterMap_append]
  rfl

theorem statements_stmt (s : Stmt Hole) : statements [.stmt s] = s :: statements (ofStmt s) := by
  rw [statements_cons, statements_nil, List.append_nil]
  rfl

/-- There are no statements in expressions. -/
@[simp] theorem statements_ofExprs (es : List Expr) :
    statements (ofExprs es : List (Node Hole)) = [] :=
  List.filterMap_eq_nil_iff.2
    (every_iff_all.1 (every_exprs_of_forall (Q := fun _ (n : Node Hole) => n.stmt? = none)
      (fun _ => rfl) es))

@[simp] theorem statements_expr (e : Expr) (ns : List (Node Hole)) :
    statements (.expr e :: ns) = statements ns := by
  rw [← List.singleton_append, statements_append]
  exact congrArg (· ++ _) (statements_ofExprs [e])

/-- Nor are there any in patterns. -/
@[simp] theorem statements_pattern (p : Pattern) (ns : List (Node Hole)) :
    statements (.pattern p :: ns) = statements ns := by
  rw [← List.singleton_append, statements_append]
  refine congrArg (· ++ _) (List.filterMap_eq_nil_iff.2 ?_)
  exact every_iff_all.1 (every_pattern_of_forall (Q := fun _ (n : Node Hole) => n.stmt? = none)
    (fun _ => rfl) (fun _ => rfl) p)

end Node

/-- The statements of a module, parents before children and each block in order. -/
def Module.statements (m : Module Empty) : List (Stmt Empty) := Node.statements (ofStmts m.body)

/-! ## Statements are met in the order of the tree -/

section

variable {package : String}

mutual

theorem gather_statements (env : Env) : ∀ s : Stmt Empty,
    (s.gather package located env).map Prod.snd = Node.statements [.stmt s]
  | .simple sp x => by
    rw [Node.statements_stmt]
    simp [Stmt.gather, Node.ofStmt]
  | .hole _ h => nomatch h
  | .branch sp t b o => by
    rw [Node.statements_stmt]
    simp [Stmt.gather, Node.ofStmt, gatherAll_statements env b, gatherAll_statements env o]
  | .loop sp hd b o => by
    rw [Node.statements_stmt]
    simp [Stmt.gather, Node.ofStmt, gatherAll_statements env b, gatherAll_statements env o]
  | .function sp hd b => by
    rw [Node.statements_stmt]
    simp [Stmt.gather, Node.ofStmt, gatherAll_statements _ b]
  | .klass sp hd b => by
    rw [Node.statements_stmt]
    simp [Stmt.gather, Node.ofStmt, gatherAll_statements _ b]
  | .withItems sp a is b => by
    rw [Node.statements_stmt]
    simp [Stmt.gather, Node.ofStmt, gatherAll_statements env b]
  | .attempt sp star b hs o f => by
    rw [Node.statements_stmt]
    simp [Stmt.gather, Node.ofStmt, gatherAll_statements env b, handlers_statements env hs,
      gatherAll_statements env o, gatherAll_statements env f]
  | .select sp e cs => by
    rw [Node.statements_stmt]
    simp [Stmt.gather, Node.ofStmt, cases_statements env cs]

theorem gatherAll_statements (env : Env) : ∀ b : List (Stmt Empty),
    (Stmt.gatherAll package located env b).map Prod.snd = Node.statements (ofStmts b)
  | [] => by simp [Stmt.gatherAll, ofStmts]
  | s :: rest => by
    rw [Stmt.gatherAll, List.map_append, gather_statements env s, gatherAll_statements env rest,
      ← Node.statements_append]
    rfl

theorem handlers_statements (env : Env) : ∀ hs : List (Handler Empty),
    (Handler.gatherAll package located env hs).map Prod.snd = Node.statements (hs.map .handler)
  | [] => by simp [Handler.gatherAll]
  | .mk _ _ _ b :: hs => by
    rw [Handler.gatherAll, List.map_append, gatherAll_statements env b, handlers_statements env hs,
      List.map_cons, Node.statements_cons]
    simp [Node.stmt?, Node.children]

theorem cases_statements (env : Env) : ∀ cs : List (Case Empty),
    (Case.gatherAll package located env cs).map Prod.snd = Node.statements (cs.map .case)
  | [] => by simp [Case.gatherAll]
  | .mk _ _ b :: cs => by
    rw [Case.gatherAll, List.map_append, gatherAll_statements env b, cases_statements env cs,
      List.map_cons, Node.statements_cons]
    simp [Node.stmt?, Node.children]

end

end

/-! ## Where records are -/

/-- A position comes before another one. -/
def Position.Before (p q : Position) : Prop := p.line < q.line ∨ p.line = q.line ∧ p.col < q.col

instance (p q : Position) : Decidable (p.Before q) := inferInstanceAs (Decidable (_ ∨ _))

def Stmt.start (s : Stmt Empty) : Position := s.span.start

/-- A statement is a call. -/
def Stmt.IsCall (s : Stmt Empty) : Prop :=
  ∃ sp p f as ks, s = .simple sp (.expr (.call p f as ks))

namespace Record

def At (r : Record) (p : Position) : Prop := r.line = some p.line ∧ r.col = some p.col

/-- Both records have positions, of which one comes before the other. -/
def Before (r r' : Record) : Prop := ∃ p p', r.At p ∧ r'.At p' ∧ p.Before p'

end Record

/-- The record of a statement, with what is visible at it. -/
def recordOf? (file : Option String) (q : Env × Stmt Empty) : Option Record :=
  (q.2.invocation? q.1).bind fun i => (i.verdict file).record?

theorem recordsIn_eq (package : String) (file : Option String) (env : Env)
    (b : List (Stmt Empty)) : recordsIn package file env b =
      (Stmt.gatherAll package located env b).filterMap (recordOf? file) := by
  have hown (q : Env × Stmt Empty) :
      q.2.ownRecords file q.1 = (recordOf? file q).toList := by
    unfold Stmt.ownRecords recordOf?
    cases q.2.invocation? q.1 with
    | none => rfl
    | some i => cases h : (i.verdict file).record? <;> simp [h]
  rw [recordsIn, gatherAll_eq_flatMap, List.filterMap_eq_flatMap_toList]
  exact List.flatMap_congr fun q _ => hown q

/-- A record is at the start of the call that it is for. -/
theorem recordOf?_eq_some {file : Option String} {q : Env × Stmt Empty} {r : Record}
    (h : recordOf? file q = some r) : q.2.IsCall ∧ r.At q.2.start := by
  obtain ⟨env, s⟩ := q
  obtain ⟨i, hi, hr⟩ := Option.bind_eq_some_iff.1 h
  dsimp only at hi
  unfold Stmt.invocation? at hi
  split at hi
  · rename_i sp p f as ks
    obtain ⟨name, -, rfl⟩ := Option.map_eq_some_iff.1 hi
    refine ⟨⟨sp, p, f, as, ks, rfl⟩, ?_⟩
    unfold Invocation.verdict at hr
    repeat' split at hr
    all_goals cases hr
    exact ⟨rfl, rfl⟩
  · cases hi

/-- What is filtered from a list comes from some of its items, in order. -/
theorem exists_sublist_of_filterMap {α β γ : Type} {f : α → Option β} {g : α → γ}
    {R : β → γ → Prop} (h : ∀ a b, f a = some b → R b (g a)) (l : List α) :
    ∃ cs, cs.Sublist (l.map g) ∧ List.Forall₂ R (l.filterMap f) cs := by
  induction l with
  | nil => exact ⟨[], .slnil, .nil⟩
  | cons a l ih =>
    obtain ⟨cs, hsub, hall⟩ := ih
    cases hf : f a with
    | none =>
      refine ⟨cs, hsub.cons _, ?_⟩
      rwa [List.filterMap_cons_none hf]
    | some b =>
      refine ⟨g a :: cs, hsub.cons_cons _, ?_⟩
      rw [List.filterMap_cons_some hf]
      exact .cons (h a b hf) hall

/-- **Records come in source order.** If the statements of a module start one after the other, so
do the records of its expansion, each with a call statement of its own. -/
theorem expandModule_records_ordered {s : Settings} {file : Option String} {m : Module Empty}
    {e : Expanded} (hm : (m.statements.map Stmt.start).Pairwise Position.Before)
    (h : expandModule s file m = .ok e) :
    e.records.Pairwise Record.Before ∧
    ∃ calls : List (Stmt Empty), calls.Sublist m.statements ∧
      (calls.map Stmt.start).Pairwise Position.Before ∧
      List.Forall₂ (fun r c => Stmt.IsCall c ∧ r.At c.start) e.records calls := by
  have hstatements : (Stmt.gatherAll s.package located (.ofTable (moduleTable s m)) m.body).map
      Prod.snd = m.statements := gatherAll_statements _ m.body
  have hrecords := records_of_ok h
  rw [recordsIn_eq] at hrecords
  rw [hrecords]
  constructor
  · rw [← hstatements, List.map_map, List.pairwise_map] at hm
    refine List.pairwise_filterMap.2 (hm.imp fun hbefore r hr r' hr' => ?_)
    exact ⟨_, _, (recordOf?_eq_some hr).2, (recordOf?_eq_some hr').2, hbefore⟩
  · obtain ⟨calls, hsub, hall⟩ := exists_sublist_of_filterMap
      (R := fun r c => Stmt.IsCall c ∧ r.At c.start)
      (fun _ _ hr => recordOf?_eq_some hr) _
    rw [hstatements] at hsub
    exact ⟨calls, hsub, hm.sublist (hsub.map Stmt.start), hall⟩

/-- The records of nested loops with a jump in a `try` statement. -/
theorem expandModule_records_overridden : ∃ e,
    expandModule .default none Nested.overridden = .ok e ∧
    (Nested.overridden.statements.map Stmt.start).Pairwise Position.Before ∧
    e.records.Pairwise Record.Before ∧ e.records.map Record.line = [some 2, some 6] := by
  have hline : ((expandModule .default none Nested.overridden).toOption.map fun e =>
      e.records.map Record.line) = some [some 2, some 6] := by with_unfolding_all decide
  have hordered : (Nested.overridden.statements.map Stmt.start).Pairwise Position.Before := by
    with_unfolding_all decide
  obtain ⟨e, he⟩ := Nested.overridden_expands
  refine ⟨e, he, hordered, (expandModule_records_ordered hordered he).1, ?_⟩
  simpa [he, Except.toOption] using hline

end JumpMacros
