import JumpMacros.Proofs.Walk

/-!
# What every node of a tree is like

A node stands in a context. The context of a tree is that of its nodes, except that the body of a
class has one of its own, which `enter` gives. `Node.EveryIn enter Q c ns` says that all nodes of
some trees in the context `c` are as `Q` says, and `Node.Every Q ns` says it where contexts do not
matter. It is read off a tree along its constructors: every node of a statement is the statement
itself or a node of one of its parts. Expressions and patterns have the same nodes in whichever tree
they stand (`Node.everyIn_expr`).
-/

namespace JumpMacros.Node

variable {Hole C : Type} [HasExprs Hole]

/-- The nodes directly under a node, with their contexts. -/
def parts (enter : C → ClassHead → C) (c : C) : Node Hole → List (C × Node Hole)
  | .stmt (.klass _ h b) => (ofExprs h.exprs).map (c, ·) ++ (ofStmts b).map (enter c h, ·)
  | n => n.children.map (c, ·)

/-- `Stands enter c n d m` if the tree `n` in the context `c` has a node `m` in the context `d`. -/
inductive Stands (enter : C → ClassHead → C) : C → Node Hole → C → Node Hole → Prop
  | root (c : C) (n : Node Hole) : Stands enter c n c n
  | part {c d e : C} {n m k : Node Hole} (hm : (e, m) ∈ n.parts enter c)
    (hk : Stands enter e m d k) : Stands enter c n d k

/-- Every node of some trees in the context `c` is as `Q` says. -/
def EveryIn (enter : C → ClassHead → C) (Q : C → Node Hole → Prop) (c : C)
    (ns : List (Node Hole)) : Prop :=
  ∀ n ∈ ns, ∀ d m, Stands enter c n d m → Q d m

/-- Every node of some trees is as `Q` says. -/
abbrev Every (Q : Node Hole → Prop) (ns : List (Node Hole)) : Prop :=
  EveryIn (fun _ _ => ()) (fun _ => Q) () ns

variable {enter : C → ClassHead → C} {Q : C → Node Hole → Prop} {c : C}

theorem EveryIn.imp {Q' : C → Node Hole → Prop} {ns : List (Node Hole)} (h : EveryIn enter Q c ns)
    (hQ : ∀ d m, Q d m → Q' d m) : EveryIn enter Q' c ns :=
  fun n hn d m hm => hQ d m (h n hn d m hm)

theorem every_nil : EveryIn enter Q c [] := nofun

theorem every_append {ns ms : List (Node Hole)} :
    EveryIn enter Q c (ns ++ ms) ↔ EveryIn enter Q c ns ∧ EveryIn enter Q c ms :=
  List.forall_mem_append

theorem every_iff_forall {ns : List (Node Hole)} :
    EveryIn enter Q c ns ↔ ∀ n ∈ ns, EveryIn enter Q c [n] := by
  simp only [EveryIn, List.mem_singleton, forall_eq]

/-- Every node of a tree is its root or a node of one of the parts. -/
theorem every_parts {n : Node Hole} : EveryIn enter Q c [n] ↔
    Q c n ∧ ∀ p ∈ n.parts enter c, EveryIn enter Q p.1 [p.2] := by
  simp only [EveryIn, List.mem_singleton, forall_eq]
  constructor
  · exact fun h => ⟨h c n (.root c n), fun p hp d m hm => h d m (.part hp hm)⟩
  · rintro ⟨hroot, hparts⟩ d m hm
    cases hm with
    | root => exact hroot
    | part hp hk => exact hparts _ hp d m hk

theorem every_of_children {n : Node Hole} (h : n.parts enter c = n.children.map (c, ·)) :
    EveryIn enter Q c [n] ↔ Q c n ∧ EveryIn enter Q c n.children := by
  rw [every_parts, h, List.forall_mem_map, ← every_iff_forall]

theorem every_ofExprs {es : List Expr} :
    EveryIn enter Q c (ofExprs es) ↔ ∀ e ∈ es, EveryIn enter Q c [.expr e] := by
  rw [every_iff_forall, ofExprs, List.forall_mem_map]

theorem every_ofStmts_cons {s : Stmt Hole} {ss : List (Stmt Hole)} :
    EveryIn enter Q c (ofStmts (s :: ss)) ↔
      EveryIn enter Q c [.stmt s] ∧ EveryIn enter Q c (ofStmts ss) := by
  rw [ofStmts, List.map_cons, ← List.singleton_append, every_append]
  rfl

theorem every_ofStmts_append {ss ts : List (Stmt Hole)} :
    EveryIn enter Q c (ofStmts (ss ++ ts)) ↔
      EveryIn enter Q c (ofStmts ss) ∧ EveryIn enter Q c (ofStmts ts) := by
  rw [ofStmts, List.map_append, every_append]
  rfl

/-! ## Statements by their parts -/

section

variable {sp : Span} {b o f : List (Stmt Hole)}

theorem every_simple {s : Simple} : EveryIn enter Q c [.stmt (.simple sp s)] ↔
    Q c (.stmt (.simple sp s)) ∧ EveryIn enter Q c (ofExprs s.exprs) :=
  every_of_children rfl

theorem every_hole {h : Hole} : EveryIn enter Q c [.stmt (.hole sp h)] ↔
    Q c (.stmt (.hole sp h)) ∧ EveryIn enter Q c (ofExprs (HasExprs.exprs h)) :=
  every_of_children rfl

theorem every_branch {t : Expr} : EveryIn enter Q c [.stmt (.branch sp t b o)] ↔
    Q c (.stmt (.branch sp t b o)) ∧ EveryIn enter Q c [.expr t] ∧
      EveryIn enter Q c (ofStmts b) ∧ EveryIn enter Q c (ofStmts o) := by
  rw [every_of_children rfl, children, ofStmt, every_append, ← List.singleton_append, every_append,
    and_assoc]

theorem every_loop {h : LoopHead} : EveryIn enter Q c [.stmt (.loop sp h b o)] ↔
    Q c (.stmt (.loop sp h b o)) ∧ EveryIn enter Q c (ofExprs h.exprs) ∧
      EveryIn enter Q c (ofStmts b) ∧ EveryIn enter Q c (ofStmts o) := by
  rw [every_of_children rfl, children, ofStmt, every_append, every_append, and_assoc]

theorem every_function {h : FunctionHead} : EveryIn enter Q c [.stmt (.function sp h b)] ↔
    Q c (.stmt (.function sp h b)) ∧ EveryIn enter Q c (ofExprs h.exprs) ∧
      EveryIn enter Q c (ofStmts b) := by
  rw [every_of_children rfl, children, ofStmt, every_append]

/-- Only the body of a class has another context. -/
theorem every_klass {h : ClassHead} : EveryIn enter Q c [.stmt (.klass sp h b)] ↔
    Q c (.stmt (.klass sp h b)) ∧ EveryIn enter Q c (ofExprs h.exprs) ∧
      EveryIn enter Q (enter c h) (ofStmts b) := by
  rw [every_parts, parts, List.forall_mem_append, List.forall_mem_map, List.forall_mem_map,
    ← every_iff_forall, ← every_iff_forall]

theorem every_withItems {a : Bool} {is : List WithItem} :
    EveryIn enter Q c [.stmt (.withItems sp a is b)] ↔ Q c (.stmt (.withItems sp a is b)) ∧
      EveryIn enter Q c (ofExprs (is.flatMap WithItem.exprs)) ∧ EveryIn enter Q c (ofStmts b) := by
  rw [every_of_children rfl, children, ofStmt, every_append]

theorem every_attempt {star : Bool} {hs : List (Handler Hole)} :
    EveryIn enter Q c [.stmt (.attempt sp star b hs o f)] ↔
      Q c (.stmt (.attempt sp star b hs o f)) ∧ EveryIn enter Q c (ofStmts b) ∧
        EveryIn enter Q c (hs.map .handler) ∧ EveryIn enter Q c (ofStmts o) ∧
          EveryIn enter Q c (ofStmts f) := by
  rw [every_of_children rfl, children, ofStmt, every_append, every_append, every_append, and_assoc,
    and_assoc]

theorem every_select {e : Expr} {cs : List (Case Hole)} :
    EveryIn enter Q c [.stmt (.select sp e cs)] ↔ Q c (.stmt (.select sp e cs)) ∧
      EveryIn enter Q c [.expr e] ∧ EveryIn enter Q c (cs.map .case) := by
  rw [every_of_children rfl, children, ofStmt, ← List.singleton_append, every_append]

theorem every_handlers {p : Position} {t : Option Expr} {n : Option String}
    {hs : List (Handler Hole)} :
    EveryIn enter Q c ((Handler.mk p t n b :: hs).map .handler) ↔
      Q c (.handler (.mk p t n b)) ∧ EveryIn enter Q c (ofExprs t.toList) ∧
        EveryIn enter Q c (ofStmts b) ∧ EveryIn enter Q c (hs.map .handler) := by
  rw [List.map_cons, ← List.singleton_append, every_append, every_of_children rfl, children,
    every_append, and_assoc, and_assoc]

theorem every_cases {p : Pattern} {g : Option Expr} {cs : List (Case Hole)} :
    EveryIn enter Q c ((Case.mk p g b :: cs).map .case) ↔ Q c (.case (.mk p g b)) ∧
      EveryIn enter Q c [.pattern p] ∧ EveryIn enter Q c (ofExprs g.toList) ∧
        EveryIn enter Q c (ofStmts b) ∧ EveryIn enter Q c (cs.map .case) := by
  rw [List.map_cons, ← List.singleton_append, every_append, every_of_children rfl, children,
    every_append, ← List.singleton_append, every_append, and_assoc, and_assoc, and_assoc]

end

/-! ## Expressions and patterns -/

section

variable {Hole' : Type} [HasExprs Hole'] {Q' : C → Node Hole' → Prop}

theorem everyIn_expr (hQ : ∀ e, Q c (.expr e) → Q' c (.expr e)) (e : Expr)
    (h : EveryIn enter Q c [.expr e]) : EveryIn enter Q' c [.expr e] := by
  rw [every_of_children rfl, children, every_ofExprs] at h ⊢
  refine ⟨hQ e h.1, fun x hx => ?_⟩
  have hlt := Expr.sizeOf_lt hx
  exact everyIn_expr hQ x (h.2 x hx)
termination_by sizeOf e

theorem everyIn_exprs (hQ : ∀ e, Q c (.expr e) → Q' c (.expr e)) {es : List Expr}
    (h : EveryIn enter Q c (ofExprs es)) : EveryIn enter Q' c (ofExprs es) :=
  every_ofExprs.2 fun e he => everyIn_expr hQ e (every_ofExprs.1 h e he)

theorem everyIn_pattern (hQ : ∀ e, Q c (.expr e) → Q' c (.expr e))
    (hP : ∀ p, Q c (.pattern p) → Q' c (.pattern p)) (p : Pattern)
    (h : EveryIn enter Q c [.pattern p]) : EveryIn enter Q' c [.pattern p] := by
  rw [every_of_children rfl, children, every_append] at h ⊢
  refine ⟨hP p h.1, everyIn_exprs hQ h.2.1,
    every_iff_forall.2 (List.forall_mem_map.2 fun q hq => ?_)⟩
  have hlt := Pattern.sizeOf_lt hq
  exact everyIn_pattern hQ hP q (every_iff_forall.1 h.2.2 _ (List.mem_map_of_mem hq))
termination_by sizeOf p

end

/-- What holds of all expressions holds of every node of one. -/
theorem every_expr_of_forall (hQ : ∀ e, Q c (.expr e)) (e : Expr) : EveryIn enter Q c [.expr e] :=
  everyIn_expr (Q := fun _ (_ : Node Empty) => True) (fun e _ => hQ e) e fun _ _ _ _ _ => trivial

theorem every_exprs_of_forall (hQ : ∀ e, Q c (.expr e)) (es : List Expr) :
    EveryIn enter Q c (ofExprs es) :=
  every_ofExprs.2 fun e _ => every_expr_of_forall hQ e

theorem every_pattern_of_forall (hQ : ∀ e, Q c (.expr e)) (hP : ∀ p, Q c (.pattern p))
    (p : Pattern) : EveryIn enter Q c [.pattern p] :=
  everyIn_pattern (Q := fun _ (_ : Node Empty) => True) (fun e _ => hQ e) (fun p _ => hP p) p
    fun _ _ _ _ _ => trivial

/-! ## Without contexts -/

section

variable {Q : Node Hole → Prop}

theorem every_singleton {n : Node Hole} : Every Q [n] ↔ Q n ∧ Every Q n.children := by
  unfold Every
  cases n with
  | stmt s =>
    cases s with
    | klass sp h b => rw [every_klass, children, ofStmt, every_append]
    | _ => exact every_of_children rfl
  | _ => exact every_of_children rfl

theorem every_cons {n : Node Hole} {ns : List (Node Hole)} :
    Every Q (n :: ns) ↔ Q n ∧ Every Q n.children ∧ Every Q ns := by
  rw [← List.singleton_append, Every, every_append, ← Every, every_singleton, and_assoc]

section

variable {Hole' : Type} [HasExprs Hole'] {Q' : Node Hole' → Prop}

theorem every_expr (hQ : ∀ e, Q (.expr e) → Q' (.expr e)) (e : Expr) (h : Every Q [.expr e]) :
    Every Q' [.expr e] :=
  everyIn_expr (Q := fun _ => Q) hQ e h

theorem every_exprs (hQ : ∀ e, Q (.expr e) → Q' (.expr e)) {es : List Expr}
    (h : Every Q (ofExprs es)) : Every Q' (ofExprs es) :=
  everyIn_exprs (Q := fun _ => Q) hQ h

theorem every_pattern (hQ : ∀ e, Q (.expr e) → Q' (.expr e))
    (hP : ∀ p, Q (.pattern p) → Q' (.pattern p)) (p : Pattern) (h : Every Q [.pattern p]) :
    Every Q' [.pattern p] :=
  everyIn_pattern (Q := fun _ => Q) hQ hP p h

end

/-- The nodes of trees are those that the walk lists. -/
theorem every_iff_all : ∀ {ns : List (Node Hole)}, Every Q ns ↔ ∀ n ∈ all ns, Q n
  | [] => iff_of_true every_nil (by simp [all, walk])
  | n :: ns => by
    have hweight := weight_eq n
    rw [every_cons, all, walk_cons, if_pos rfl, List.forall_mem_cons, List.forall_mem_append]
    exact and_congr_right fun _ => and_congr every_iff_all every_iff_all
termination_by ns => weights ns
decreasing_by all_goals simp; omega

end

theorem mem_children_of_parts {n m : Node Hole} {d : C} (h : (d, m) ∈ n.parts enter c) :
    m ∈ n.children := by
  unfold parts at h
  split at h
  · rw [children, ofStmt, List.mem_append]
    refine (List.mem_append.1 h).imp (fun h => ?_) (fun h => ?_)
    · obtain ⟨_, hk, heq⟩ := List.mem_map.1 h
      exact (Prod.mk.inj heq).2 ▸ hk
    · obtain ⟨_, hk, heq⟩ := List.mem_map.1 h
      exact (Prod.mk.inj heq).2 ▸ hk
  · obtain ⟨_, hk, heq⟩ := List.mem_map.1 h
    exact (Prod.mk.inj heq).2 ▸ hk

/-- What holds of every node holds of it in any context. -/
theorem Every.everyIn {Q : Node Hole → Prop} {ns : List (Node Hole)} (h : Every Q ns) (c : C) :
    EveryIn enter (fun _ => Q) c ns := by
  intro n hn d m hm
  have hQ := every_iff_forall.1 h n hn
  clear h hn
  induction hm with
  | root => exact (every_singleton.1 hQ).1
  | part hp _ ih =>
    exact ih (every_iff_forall.1 (every_singleton.1 hQ).2 _ (mem_children_of_parts hp))

/-! ## Names -/

/-- All names in some trees are among the given ones. -/
abbrev NamedIn (names : List String) (ns : List (Node Hole)) : Prop :=
  Every (fun n => ∀ x ∈ n.ownNames, x ∈ names) ns

variable {names : List String}

/-- The names of a tree are its own. -/
theorem namedIn_namesIn (body : List (Stmt Hole)) : NamedIn (namesIn body) (ofStmts body) :=
  every_iff_all.2 fun n hn _ hx => List.mem_flatMap.2 ⟨n, hn, hx⟩

theorem mem_ownNames_expr {H K : Type} {e : Expr} {x : String}
    (h : x ∈ (Node.expr e : Node H).ownNames) : x ∈ (Node.expr e : Node K).ownNames := by
  cases e <;> exact h

section

variable {Hole' : Type} [HasExprs Hole']

theorem namedIn_expr (e : Expr) (h : NamedIn names [(.expr e : Node Hole)]) :
    NamedIn names [(.expr e : Node Hole')] :=
  every_expr (fun _ he x hx => he x (mem_ownNames_expr hx)) e h

theorem namedIn_exprs {es : List Expr} (h : NamedIn names (ofExprs es : List (Node Hole))) :
    NamedIn names (ofExprs es : List (Node Hole')) :=
  every_exprs (fun _ he x hx => he x (mem_ownNames_expr hx)) h

theorem namedIn_pattern (p : Pattern) (h : NamedIn names [(.pattern p : Node Hole)]) :
    NamedIn names [(.pattern p : Node Hole')] :=
  every_pattern (Q := fun n : Node Hole => ∀ x ∈ n.ownNames, x ∈ names)
    (fun _ he x hx => he x (mem_ownNames_expr hx)) (fun _ hp => hp) p h

end

end JumpMacros.Node
