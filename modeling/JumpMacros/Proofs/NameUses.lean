import JumpMacros.Proofs.Variables

/-!
# Names are used as their places say

Every name of a tree says whether it is read, written or deleted. The type of trees allows any use
at any place; in a tree that was read from a text the place decides. `Expr.Proper u e` says that
`e` can stand where something is used as `u` says, and `Stmt.Proper` says it of all expressions in
a statement. The nodes of a proper tree are proper (`Node.Proper.children`).
-/

namespace JumpMacros

open Node (ofStmts ofExprs)

/-! ## Expressions and patterns -/

/-- Whether an expression and what is directly under it can only be read. -/
def Expr.isReadOnly : Expr → Bool
  | .name _ _ _ | .attr _ _ _ | .subscript _ _ _ | .starred _ _ | .display _ _ _ | .named _ _ _
  | .comprehension _ _ _ _ | .dictComprehension _ _ _ _ => false
  | _ => true

/-- The names of an expression that is itself used in some way are used as their places say. What
an attribute or an item is taken of is read, even if that attribute or item is written. -/
inductive Expr.Proper : NameUse → Expr → Prop
  | name (p : Position) (n : String) (u : NameUse) : Proper u (.name p n u)
  | attr {u : NameUse} {p : Position} {v : Expr} {n : String} (hv : Proper .load v) :
    Proper u (.attr p v n)
  | subscript {u : NameUse} {p : Position} {v i : Expr} (hv : Proper .load v)
    (hi : Proper .load i) : Proper u (.subscript p v i)
  | starred {u : NameUse} {p : Position} {v : Expr} (hv : Proper u v) : Proper u (.starred p v)
  | display {u : NameUse} {p : Position} {k : DisplayKind} {es : List Expr}
    (hes : ∀ e ∈ es, Proper u e) : Proper u (.display p k es)
  | named {p : Position} {t v : Expr} (ht : Proper .store t) (hv : Proper .load v) :
    Proper .load (.named p t v)
  | comprehension {p : Position} {k : ComprehensionKind} {e : Expr} {cs : List Clause}
    (he : Proper .load e) (ht : ∀ c ∈ cs, Proper .store c.target)
    (hc : ∀ c ∈ cs, ∀ x ∈ c.evaluated, Proper .load x) : Proper .load (.comprehension p k e cs)
  | dictComprehension {p : Position} {k v : Expr} {cs : List Clause} (hk : Proper .load k)
    (hv : Proper .load v) (ht : ∀ c ∈ cs, Proper .store c.target)
    (hc : ∀ c ∈ cs, ∀ x ∈ c.evaluated, Proper .load x) :
    Proper .load (.dictComprehension p k v cs)
  | plain {e : Expr} (h : e.isReadOnly = true) (hc : ∀ c ∈ e.children, Proper .load c) :
    Proper .load e

/-- The target of a clause is written, and the rest of it is read. -/
structure Clause.Proper (c : Clause) : Prop where
  target : c.target.Proper .store
  evaluated : ∀ x ∈ c.evaluated, x.Proper .load

/-- All expressions in a pattern are read. -/
inductive Pattern.Proper : Pattern → Prop
  | mk {p : Pattern} (he : ∀ e ∈ p.exprs, e.Proper .load) (hp : ∀ q ∈ p.children, Proper q) :
    Proper p

/-! ## Statements -/

/-- The targets of a simple statement are written or deleted, and the rest of it is read. -/
def Simple.Proper : Simple → Prop
  | .assign ts v => (∀ t ∈ ts, t.Proper .store) ∧ v.Proper .load
  | .augmented t _ v => t.Proper .store ∧ v.Proper .load
  | .annotated t n v _ => t.Proper .store ∧ n.Proper .load ∧ ∀ e ∈ v, e.Proper .load
  | .deletes ts => ∀ t ∈ ts, t.Proper .delete
  | s => ∀ e ∈ s.exprs, e.Proper .load

def LoopHead.Proper : LoopHead → Prop
  | .over _ t i => t.Proper .store ∧ i.Proper .load
  | .whilst t => t.Proper .load

structure WithItem.Proper (i : WithItem) : Prop where
  manager : i.manager.Proper .load
  target : ∀ t ∈ i.target, t.Proper .store

mutual

/-- The names in a statement are used as their places say. -/
inductive Stmt.Proper : Stmt Empty → Prop
  | simple {sp : Span} {s : Simple} (hs : s.Proper) : Stmt.Proper (.simple sp s)
  | branch {sp : Span} {t : Expr} {b o : List (Stmt Empty)} (ht : t.Proper .load)
    (hb : ∀ s ∈ b, Stmt.Proper s) (ho : ∀ s ∈ o, Stmt.Proper s) : Stmt.Proper (.branch sp t b o)
  | loop {sp : Span} {h : LoopHead} {b o : List (Stmt Empty)} (hh : h.Proper)
    (hb : ∀ s ∈ b, Stmt.Proper s) (ho : ∀ s ∈ o, Stmt.Proper s) : Stmt.Proper (.loop sp h b o)
  | function {sp : Span} {h : FunctionHead} {b : List (Stmt Empty)}
    (hh : ∀ e ∈ h.exprs, e.Proper .load) (hb : ∀ s ∈ b, Stmt.Proper s) :
    Stmt.Proper (.function sp h b)
  | klass {sp : Span} {h : ClassHead} {b : List (Stmt Empty)}
    (hh : ∀ e ∈ h.exprs, e.Proper .load) (hb : ∀ s ∈ b, Stmt.Proper s) :
    Stmt.Proper (.klass sp h b)
  | withItems {sp : Span} {a : Bool} {is : List WithItem} {b : List (Stmt Empty)}
    (hi : ∀ i ∈ is, i.Proper) (hb : ∀ s ∈ b, Stmt.Proper s) : Stmt.Proper (.withItems sp a is b)
  | attempt {sp : Span} {star : Bool} {b o f : List (Stmt Empty)} {hs : List (Handler Empty)}
    (hb : ∀ s ∈ b, Stmt.Proper s) (hh : ∀ h ∈ hs, Handler.Proper h)
    (ho : ∀ s ∈ o, Stmt.Proper s) (hf : ∀ s ∈ f, Stmt.Proper s) :
    Stmt.Proper (.attempt sp star b hs o f)
  | select {sp : Span} {e : Expr} {cs : List (Case Empty)} (he : e.Proper .load)
    (hc : ∀ c ∈ cs, Case.Proper c) : Stmt.Proper (.select sp e cs)

inductive Handler.Proper : Handler Empty → Prop
  | mk {p : Position} {t : Option Expr} {n : Option String} {b : List (Stmt Empty)}
    (ht : ∀ e ∈ t, e.Proper .load) (hb : ∀ s ∈ b, Stmt.Proper s) : Handler.Proper (.mk p t n b)

inductive Case.Proper : Case Empty → Prop
  | mk {p : Pattern} {g : Option Expr} {b : List (Stmt Empty)} (hp : p.Proper)
    (hg : ∀ e ∈ g, e.Proper .load) (hb : ∀ s ∈ b, Stmt.Proper s) : Case.Proper (.mk p g b)

end

/-- The names in a node are used as their places say, if the node can stand somewhere at all. -/
def Node.Proper : Node Empty → Prop
  | .stmt s => s.Proper
  | .expr e => ∃ u, e.Proper u
  | .pattern p => p.Proper
  | .handler h => h.Proper
  | .case c => c.Proper

/-! ## All nodes of a proper tree are proper -/

theorem Clause.mem_exprs {c : Clause} {x : Expr} (h : x ∈ c.exprs) :
    x = c.target ∨ x ∈ c.evaluated := by
  obtain ⟨_, t, i, cs⟩ := c
  exact List.mem_cons.1 h

theorem Clause.proper_exprs {cs : List Clause} (ht : ∀ c ∈ cs, c.target.Proper .store)
    (hc : ∀ c ∈ cs, ∀ x ∈ c.evaluated, x.Proper .load) {x : Expr}
    (hx : x ∈ cs.flatMap Clause.exprs) : ∃ u, x.Proper u := by
  obtain ⟨c, hmem, hx⟩ := List.mem_flatMap.1 hx
  rcases Clause.mem_exprs hx with rfl | hx
  · exact ⟨.store, ht c hmem⟩
  · exact ⟨.load, hc c hmem x hx⟩

theorem Expr.Proper.children {u : NameUse} {e c : Expr} (h : e.Proper u) (hc : c ∈ e.children) :
    ∃ v, c.Proper v := by
  cases h with
  | name => simp [Expr.children] at hc
  | attr hv =>
    obtain rfl := List.mem_singleton.1 hc
    exact ⟨_, hv⟩
  | subscript hv hi =>
    simp only [Expr.children, List.mem_cons, List.not_mem_nil, or_false] at hc
    rcases hc with rfl | rfl
    · exact ⟨_, hv⟩
    · exact ⟨_, hi⟩
  | starred hv =>
    obtain rfl := List.mem_singleton.1 hc
    exact ⟨_, hv⟩
  | display hes => exact ⟨_, hes c hc⟩
  | named ht hv =>
    simp only [Expr.children, List.mem_cons, List.not_mem_nil, or_false] at hc
    rcases hc with rfl | rfl
    · exact ⟨_, ht⟩
    · exact ⟨_, hv⟩
  | comprehension he ht hcs =>
    rcases List.mem_cons.1 hc with rfl | hc
    · exact ⟨_, he⟩
    · exact Clause.proper_exprs ht hcs hc
  | dictComprehension hk hv ht hcs =>
    simp only [Expr.children, List.mem_cons] at hc
    rcases hc with rfl | rfl | hc
    · exact ⟨_, hk⟩
    · exact ⟨_, hv⟩
    · exact Clause.proper_exprs ht hcs hc
  | plain _ hall => exact ⟨_, hall c hc⟩

/-- An expression of a simple statement is used in some way. -/
theorem Simple.Proper.exprs {s : Simple} {e : Expr} (h : s.Proper) (he : e ∈ s.exprs) :
    ∃ u, e.Proper u := by
  cases s with
  | assign ts v =>
    rcases List.mem_append.1 he with he | he
    · exact ⟨_, h.1 e he⟩
    · exact ⟨_, List.mem_singleton.1 he ▸ h.2⟩
  | augmented t op v =>
    simp only [Simple.exprs, List.mem_cons, List.not_mem_nil, or_false] at he
    rcases he with rfl | rfl
    · exact ⟨_, h.1⟩
    · exact ⟨_, h.2⟩
  | annotated t n v bare =>
    simp only [Simple.exprs, List.mem_cons, Option.mem_toList] at he
    rcases he with rfl | rfl | he
    · exact ⟨_, h.1⟩
    · exact ⟨_, h.2.1⟩
    · exact ⟨_, h.2.2 e he⟩
  | deletes ts => exact ⟨_, h e he⟩
  | _ => exact ⟨_, h e he⟩

theorem WithItem.Proper.exprs {i : WithItem} {e : Expr} (h : i.Proper) (he : e ∈ i.exprs) :
    ∃ u, e.Proper u := by
  rcases List.mem_cons.1 he with rfl | he
  · exact ⟨_, h.manager⟩
  · exact ⟨_, h.target e (Option.mem_toList.1 he)⟩

theorem LoopHead.Proper.exprs {l : LoopHead} {e : Expr} (h : l.Proper) (he : e ∈ l.exprs) :
    ∃ u, e.Proper u := by
  obtain ⟨a, t, i⟩ | ⟨t⟩ := l
  · simp only [LoopHead.exprs, List.mem_cons, List.not_mem_nil, or_false] at he
    rcases he with rfl | rfl
    · exact ⟨_, h.1⟩
    · exact ⟨_, h.2⟩
  · exact ⟨_, List.mem_singleton.1 he ▸ h⟩

namespace Node

theorem proper_ofExprs {es : List Expr} (h : ∀ e ∈ es, ∃ u, e.Proper u) :
    ∀ n ∈ ofExprs es, Node.Proper n :=
  List.forall_mem_map.2 h

theorem proper_ofStmts {ss : List (Stmt Empty)} (h : ∀ s ∈ ss, s.Proper) :
    ∀ n ∈ ofStmts ss, Node.Proper n :=
  List.forall_mem_map.2 h

theorem proper_append {ns ms : List (Node Empty)} (hn : ∀ n ∈ ns, Node.Proper n)
    (hm : ∀ n ∈ ms, Node.Proper n) : ∀ n ∈ ns ++ ms, Node.Proper n :=
  List.forall_mem_append.2 ⟨hn, hm⟩

theorem Proper.ofStmt {s : Stmt Empty} (h : s.Proper) : ∀ n ∈ ofStmt s, Node.Proper n := by
  cases h with
  | simple hs => exact proper_ofExprs fun e he => hs.exprs he
  | branch ht hb ho =>
    exact List.forall_mem_cons.2 ⟨⟨_, ht⟩, proper_append (proper_ofStmts hb) (proper_ofStmts ho)⟩
  | loop hh hb ho =>
    exact proper_append (proper_append (proper_ofExprs fun e he => hh.exprs he)
      (proper_ofStmts hb)) (proper_ofStmts ho)
  | function hh hb =>
    exact proper_append (proper_ofExprs fun e he => ⟨_, hh e he⟩) (proper_ofStmts hb)
  | klass hh hb =>
    exact proper_append (proper_ofExprs fun e he => ⟨_, hh e he⟩) (proper_ofStmts hb)
  | withItems hi hb =>
    refine proper_append (proper_ofExprs fun e he => ?_) (proper_ofStmts hb)
    obtain ⟨i, hmem, he⟩ := List.mem_flatMap.1 he
    exact (hi i hmem).exprs he
  | attempt hb hh ho hf =>
    exact proper_append (proper_append (proper_append (proper_ofStmts hb)
      (List.forall_mem_map.2 hh)) (proper_ofStmts ho)) (proper_ofStmts hf)
  | select he hc => exact List.forall_mem_cons.2 ⟨⟨_, he⟩, List.forall_mem_map.2 hc⟩

theorem Proper.children {n : Node Empty} (h : n.Proper) : ∀ c ∈ n.children, c.Proper := by
  cases n with
  | stmt s => exact Proper.ofStmt h
  | expr e =>
    obtain ⟨u, h⟩ := h
    exact proper_ofExprs fun c hc => h.children hc
  | pattern p =>
    obtain ⟨he, hp⟩ := h
    exact proper_append (proper_ofExprs fun e hmem => ⟨_, he e hmem⟩) (List.forall_mem_map.2 hp)
  | handler h' =>
    obtain ⟨ht, hb⟩ := h
    exact proper_append (proper_ofExprs fun e he => ⟨_, ht e (Option.mem_toList.1 he)⟩)
      (proper_ofStmts hb)
  | case c =>
    obtain ⟨hp, hg, hb⟩ := h
    exact List.forall_mem_cons.2 ⟨hp, proper_append
      (proper_ofExprs fun e he => ⟨_, hg e (Option.mem_toList.1 he)⟩) (proper_ofStmts hb)⟩

/-- What children have from their parents, all nodes of a walk have from its roots. -/
theorem forall_mem_walk {Hole : Type} [HasExprs Hole] (enter : Node Hole → Bool)
    {P : Node Hole → Prop} (hP : ∀ n, P n → ∀ c ∈ n.children, P c) {ns : List (Node Hole)}
    (h : ∀ n ∈ ns, P n) : ∀ n ∈ walk enter ns, P n := by
  fun_induction walk enter ns with
  | case1 => exact h
  | case2 n rest ih =>
    obtain ⟨hn, hrest⟩ := List.forall_mem_cons.1 h
    refine List.forall_mem_cons.2 ⟨hn, ih ?_⟩
    split
    · exact List.forall_mem_append.2 ⟨hP n hn, hrest⟩
    · exact hrest

/-- What children have from their parents, all nodes of a tree have from its root. -/
theorem forall_mem_all {Hole : Type} [HasExprs Hole] {P : Node Hole → Prop}
    (hP : ∀ n, P n → ∀ c ∈ n.children, P c) {ns : List (Node Hole)} (h : ∀ n ∈ ns, P n) :
    ∀ n ∈ all ns, P n :=
  forall_mem_walk _ hP h

end Node

end JumpMacros
