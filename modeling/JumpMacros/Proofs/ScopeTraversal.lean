import JumpMacros.Proofs.GatheredCalls
import JumpMacros.Proofs.ScopeStack

/-!
# The traversal finds all calls

The traversal with the stack finds the calls that the expansion of modules is defined by.

**Theorem (`Expander.Sound.step`, `Expander.Sound.exists_next`).** While the traversal runs, all
tables on the stack hold macros only, the stack is the table of the module below one table for each
drop that is ahead, and what has been found makes up all calls together with what will be. So there
is a next step until all work is done.
-/

namespace JumpMacros

open Node (ofExprs ofStmts weights)
open WorkItem (visits)

/-! ## What a visit leaves to do -/

namespace WorkItem

variable (package : String) (st : ScopeStack)

/-- The invocations that an item of the work comes to, from a stack. -/
def invocations : WorkItem → List Invocation
  | .visit n => n.invocations package st.env
  | .enter b => Node.allInvocations package (st.env.enter package b) b.roots
  | .drop => []
  | .expand i => [i]

/-- The misplaced calls that it comes to. -/
def misplaced : WorkItem → Multiset MisplacedCall
  | .visit n => n.misplaced package st.env
  | .enter b => Node.allMisplaced package (st.env.enter package b) b.roots
  | .drop | .expand _ => 0

theorem invocations_visits (ns : List (Node Empty)) :
    (visits ns).flatMap (invocations package st) = Node.allInvocations package st.env ns :=
  List.flatMap_map _ _ _

theorem misplaced_visits (ns : List (Node Empty)) :
    ((visits ns).map (misplaced package st)).sum = Node.allMisplaced package st.env ns := by
  rw [visits, List.map_map]
  rfl

variable {package st}

/-- The invocations in a tree that is no call are those of its parts. -/
theorem invocations_work {n : Node Empty} (h : n.isCall = false) :
    n.work.flatMap (invocations package st) = n.invocations package st.env := by
  cases n with
  | stmt s =>
    have hgather : (Node.stmt s).invocations package st.env =
        s.gather package (fun env s => (s.invocation? env).toList) st.env := List.append_nil _
    rw [hgather, Stmt.gather.eq_def, invocation?_of_isCall h]
    cases s with
    | hole _ x => exact x.elim
    | simple sp x =>
      exact (invocations_visits package st _).trans (Node.allInvocations_ofExprs x.exprs)
    | function sp hd b =>
      simp [Node.work, invocations_visits, Node.allInvocations_ofExprs, invocations, Body.roots,
        Node.allInvocations_ofStmts, Env.enter, JumpMacros.invocations]
    | klass sp hd b =>
      simp [Node.work, invocations_visits, Node.allInvocations_ofExprs, invocations, Body.roots,
        Node.allInvocations_ofStmts, Env.enter, JumpMacros.invocations]
    | _ =>
      simp [Node.work, invocations_visits, Node.children, Node.ofStmt, Node.allInvocations_append,
        Node.allInvocations_ofExprs, Node.allInvocations_expr, Node.allInvocations_ofStmts,
        Node.allInvocations_handlers, Node.allInvocations_cases, JumpMacros.invocations]
  | expr e =>
    cases e with
    | call => cases h
    | lambda p ps b =>
      rw [Node.work, List.flatMap_append, invocations_visits, Node.allInvocations_ofExprs]
      rfl
    | _ => exact (invocations_visits package st _).trans (Node.allInvocations_ofExprs _)
  | pattern p =>
    refine (invocations_visits package st _).trans ?_
    rw [Node.children, Node.allInvocations_append, Node.allInvocations_ofExprs,
      Node.allInvocations_patterns]
    rfl
  | handler hd =>
    obtain ⟨p, t, n, b⟩ := hd
    refine (invocations_visits package st _).trans ?_
    rw [Node.children, Node.allInvocations_append, Node.allInvocations_ofExprs,
      Node.allInvocations_ofStmts]
    rfl
  | case c =>
    obtain ⟨p, g, b⟩ := c
    refine (invocations_visits package st _).trans ?_
    rw [Node.children, Node.allInvocations_append, Node.allInvocations_ofStmts]
    exact congrArg (· ++ _) (Node.allInvocations_ofExprs g.toList)

/-- The same holds of its misplaced calls. -/
theorem misplaced_work {n : Node Empty} (h : n.isCall = false) :
    (n.work.map (misplaced package st)).sum = n.misplaced package st.env := by
  cases n with
  | stmt s =>
    rw [misplaced_stmt, Stmt.gather.eq_def]
    cases s with
    | hole _ x => exact x.elim
    | simple sp x =>
      refine (misplaced_visits package st _).trans ?_
      simp [Node.children, Node.ofStmt, Node.allMisplaced_ofExprs, Stmt.ownExprs,
        invocation?_of_isCall h]
    | branch sp t b o =>
      have hown : (Stmt.branch sp t b o).ownExprs st.env = [t] := rfl
      refine (misplaced_visits package st _).trans ?_
      simp [Node.children, Node.ofStmt, Node.allMisplaced_append, Node.allMisplaced_cons,
        Node.allMisplaced_ofStmts, Node.misplaced, misplacedCalls, hown]
    | loop sp hd b o =>
      have hown : (Stmt.loop sp hd b o).ownExprs st.env = hd.exprs := rfl
      refine (misplaced_visits package st _).trans ?_
      simp [Node.children, Node.ofStmt, Node.allMisplaced_append, Node.allMisplaced_ofExprs,
        Node.allMisplaced_ofStmts, misplacedCalls, hown]
    | function sp hd b =>
      have hown : (Stmt.function sp hd b).ownExprs st.env = hd.exprs := rfl
      simp [Node.work, misplaced_visits, Node.allMisplaced_ofExprs, misplaced, Body.roots,
        Node.allMisplaced_ofStmts, Env.enter, misplacedCalls, hown]
    | klass sp hd b =>
      have hown : (Stmt.klass sp hd b).ownExprs st.env = hd.exprs := rfl
      simp [Node.work, misplaced_visits, Node.allMisplaced_ofExprs, misplaced, Body.roots,
        Node.allMisplaced_ofStmts, Env.enter, misplacedCalls, hown]
    | withItems sp a is b =>
      have hown : (Stmt.withItems sp a is b).ownExprs st.env = is.flatMap WithItem.exprs := rfl
      refine (misplaced_visits package st _).trans ?_
      simp [Node.children, Node.ofStmt, Node.allMisplaced_append, Node.allMisplaced_ofExprs,
        Node.allMisplaced_ofStmts, misplacedCalls, hown]
    | attempt sp star b hs o f =>
      have hown : (Stmt.attempt sp star b hs o f).ownExprs st.env = hs.flatMap Handler.exprs := rfl
      refine (misplaced_visits package st _).trans ?_
      rw [hown, Node.children, Node.ofStmt]
      simp only [Node.allMisplaced_append, Node.allMisplaced_ofStmts, Node.allMisplaced_handlers,
        misplacedCalls, ← Multiset.coe_add]
      ac_rfl
    | select sp e cs =>
      have hown : (Stmt.select sp e cs).ownExprs st.env = e :: cs.flatMap Case.exprs := rfl
      refine (misplaced_visits package st _).trans ?_
      rw [hown, Node.children, Node.ofStmt, Node.allMisplaced_cons, Node.allMisplaced_cases,
        List.flatMap_cons, List.append_assoc, ← Multiset.coe_add, ← Multiset.coe_add]
      rfl
  | expr e =>
    cases e with
    | call => cases h
    | lambda p ps b =>
      rw [Node.work, List.map_append, List.sum_append, misplaced_visits,
        Node.allMisplaced_ofExprs, Node.misplaced, misplaced_lambda, ← Multiset.coe_add]
      refine congrArg (_ + ·) ?_
      simp [misplaced, Body.roots, Node.allMisplaced, Node.misplaced, Env.enter]
    | _ =>
      refine (misplaced_visits package st _).trans ?_
      rw [Node.children, Node.allMisplaced_ofExprs, Node.misplaced, misplaced_other] <;> simp
  | pattern p =>
    refine (misplaced_visits package st _).trans ?_
    rw [Node.children, Node.allMisplaced_append, Node.allMisplaced_ofExprs,
      Node.allMisplaced_patterns, Node.misplaced, Pattern.allExprs_eq, List.flatMap_append,
      Multiset.coe_add]
  | handler hd =>
    obtain ⟨p, t, n, b⟩ := hd
    refine (misplaced_visits package st _).trans ?_
    rw [Node.children, Node.allMisplaced_append, Node.allMisplaced_ofExprs,
      Node.allMisplaced_ofStmts]
    rfl
  | case c =>
    obtain ⟨p, g, b⟩ := c
    refine (misplaced_visits package st _).trans ?_
    have hguard : Node.allMisplaced package st.env (Node.ofExprs g.toList) =
        g.toList.flatMap (Expr.misplaced st.env) := Node.allMisplaced_ofExprs _
    rw [Node.children, Node.allMisplaced_append, Node.allMisplaced_ofStmts, Node.allMisplaced_cons,
      hguard, Node.misplaced, Node.misplaced, List.flatMap_append, ← Multiset.coe_add]

end WorkItem

/-! ## What holds during the traversal -/

/-- The work ahead, each item with the stack it will find. -/
def ahead : List WorkItem → ScopeStack → List (WorkItem × ScopeStack)
  | [], _ => []
  | t :: rest, st => (t, st) :: ahead rest (if t.isDrop then st.tail else st)

theorem ahead_append {ts : List WorkItem} (h : ∀ t ∈ ts, t.isDrop = false)
    (rest : List WorkItem) (st : ScopeStack) :
    ahead (ts ++ rest) st = ts.map (·, st) ++ ahead rest st := by
  induction ts with
  | nil => rfl
  | cons t ts ih =>
    rw [List.forall_mem_cons] at h
    rw [List.cons_append, ahead, h.1, if_neg Bool.false_ne_true, ih h.2]
    rfl

/-- After a body the stack is what it was before. -/
theorem ahead_body (package : String) (b : Body) (rest : List WorkItem) (st : ScopeStack) :
    ahead (visits b.roots ++ .drop :: rest) (st.push package b) =
      (visits b.roots).map (·, st.push package b) ++
        (.drop, st.push package b) :: ahead rest st := by
  have hdrop : ahead (.drop :: rest) (st.push package b) =
      (.drop, st.push package b) :: ahead rest (st.push package b).tail := rfl
  rw [ahead_append WorkItem.isDrop_of_mem_visits, hdrop, ScopeStack.tail_push]

namespace Expander

variable (package : String) (w : Expander)

/-- The invocations that have been found and those that will be. -/
def allInvocations : List Invocation :=
  w.invocations ++ (ahead w.todo w.scopes).flatMap fun q => q.1.invocations package q.2

/-- The misplaced calls that have been found and those that will be. -/
def allMisplaced : Multiset MisplacedCall :=
  w.misplaced + ((ahead w.todo w.scopes).map fun q => q.1.misplaced package q.2).sum

/-- What holds in every state of the traversal of a module. -/
structure Sound (s : Settings) (m : Module Empty) (w : Expander) : Prop where
  known : w.scopes.Known
  bottom : [(moduleTable s m, false)] <:+ w.scopes
  depth : w.scopes.length = w.todo.countP WorkItem.isDrop + 1
  macros : ∀ i, i ∈ w.invocations ∨ .expand i ∈ w.todo → i.name ∈ Macro.names
  invocations : w.allInvocations s.package =
    JumpMacros.invocations s.package (.ofTable (moduleTable s m)) m.body
  misplaced : w.allMisplaced s.package =
    ↑(misplacedCalls s.package (.ofTable (moduleTable s m)) m.body)

theorem step_visit {n : Node Empty} (h : n.isCall = false) (rest : List WorkItem)
    (st : ScopeStack) (is : List Invocation) (cs : List MisplacedCall) :
    step package ⟨.visit n :: rest, st, is, cs⟩ = some ⟨n.work ++ rest, st, is, cs⟩ := by
  unfold step
  split <;> simp_all [Node.isCall]

variable {package} {s : Settings} {m : Module Empty} {t : WorkItem} {rest ts : List WorkItem}
  {st : ScopeStack} {is : List Invocation} {cs cs' : List MisplacedCall}

/-- An item of the work can be replaced by others that come to the same calls. -/
theorem Sound.replace (h : Sound s m ⟨t :: rest, st, is, cs⟩) (ht : t.isDrop = false)
    (hts : ∀ u ∈ ts, u.isDrop = false) (hnamed : ∀ i, .expand i ∈ ts → i.name ∈ Macro.names)
    (hinvocations : ts.flatMap (WorkItem.invocations s.package st) =
      t.invocations s.package st)
    (hmisplaced : ↑cs' + (ts.map (WorkItem.misplaced s.package st)).sum =
      (↑cs : Multiset MisplacedCall) + t.misplaced s.package st) :
    Sound s m ⟨ts ++ rest, st, is, cs'⟩ where
  known := h.known
  bottom := h.bottom
  depth := by
    have hdepth := h.depth
    have hnone : ts.countP WorkItem.isDrop = 0 := List.countP_eq_zero.2 (by simpa using hts)
    simp only [List.countP_cons, ht] at hdepth
    simpa [List.countP_append, hnone] using hdepth
  macros i hi := by
    rw [List.mem_append, or_left_comm] at hi
    rcases hi with hi | hi
    · exact hnamed i hi
    · exact h.macros i (hi.imp_right (List.mem_cons_of_mem t))
  invocations := by
    have hall := h.invocations
    simp only [allInvocations, ahead, ht, List.flatMap_cons] at hall
    rw [← hall, ← hinvocations]
    simp [allInvocations, ahead_append hts, List.flatMap_append, List.flatMap_map]
  misplaced := by
    have hall := h.misplaced
    simp only [allMisplaced, ahead, ht, List.map_cons, List.sum_cons] at hall
    rw [← hall]
    simp only [allMisplaced, ahead_append hts, List.map_append, List.map_map, List.sum_append]
    rw [← add_assoc, ← add_assoc, ← hmisplaced]
    rfl

variable {sp : Span} {p : Position} {f : Expr} {as : List Expr} {ks : List Keyword}

theorem Sound.visit_invocation {name : String}
    (h : Sound s m ⟨.visit (.stmt (.simple sp (.expr (.call p f as ks)))) :: rest, st, is, cs⟩)
    (hf : st.env.resolve f.dotted = some name) :
    Sound s m ⟨visits (ofExprs (as ++ ks.map Keyword.value)) ++
      .expand ⟨name, as, ks, some sp⟩ :: rest, st, is, cs⟩ := by
  rw [← List.singleton_append, ← List.append_assoc]
  refine h.replace rfl ?_ ?_ ?_ ?_
  · rw [List.forall_mem_append, List.forall_mem_singleton]
    exact ⟨WorkItem.isDrop_of_mem_visits, rfl⟩
  · intro i hi
    rcases List.mem_append.1 hi with hi | hi
    · exact absurd hi WorkItem.expand_notMem_visits
    · cases List.mem_singleton.1 hi
      exact h.known.resolve hf
  · rw [List.flatMap_append, WorkItem.invocations_visits, Node.allInvocations_ofExprs,
      WorkItem.invocations, invocations_call, hf]
    rfl
  · rw [List.map_append, List.sum_append, WorkItem.misplaced_visits, Node.allMisplaced_ofExprs,
      WorkItem.misplaced, misplaced_invocation hf]
    exact congrArg _ (add_zero _)

theorem Sound.visit_plain
    (h : Sound s m ⟨.visit (.stmt (.simple sp (.expr (.call p f as ks)))) :: rest, st, is, cs⟩)
    (hf : st.env.resolve f.dotted = none) :
    Sound s m ⟨.visit (.expr (.call p f as ks)) :: rest, st, is, cs⟩ := by
  have hone : ([.visit (.expr (.call p f as ks))] : List WorkItem) ++ rest =
      .visit (.expr (.call p f as ks)) :: rest := rfl
  rw [← hone]
  refine h.replace rfl ?_ ?_ ?_ ?_
  · simp [WorkItem.isDrop]
  · simp
  · rw [WorkItem.invocations, invocations_call, hf]
    rfl
  · simp [WorkItem.misplaced, misplaced_plain hf]

theorem Sound.visit_call
    (h : Sound s m ⟨.visit (.expr (.call p f as ks)) :: rest, st, is, cs⟩) :
    Sound s m ⟨visits (ofExprs (f :: as ++ ks.map Keyword.value)) ++ rest, st, is,
      cs ++ (st.env.resolve f.dotted).toList.map fun name => ⟨name, p⟩⟩ := by
  refine h.replace rfl WorkItem.isDrop_of_mem_visits ?_ ?_ ?_
  · exact fun i hi => absurd hi WorkItem.expand_notMem_visits
  · rw [WorkItem.invocations_visits, Node.allInvocations_ofExprs]
    rfl
  · rw [WorkItem.misplaced_visits, Node.allMisplaced_ofExprs, WorkItem.misplaced, Node.misplaced,
      misplaced_call, ← Multiset.coe_add, ← Multiset.coe_add, add_assoc]

theorem Sound.visit {n : Node Empty} (h : Sound s m ⟨.visit n :: rest, st, is, cs⟩)
    (hn : n.isCall = false) : Sound s m ⟨n.work ++ rest, st, is, cs⟩ :=
  h.replace rfl (fun t ht => (Node.mem_work t ht).1)
    (fun i hi => absurd rfl ((Node.mem_work _ hi).2 i)) (WorkItem.invocations_work hn)
    (congrArg _ (WorkItem.misplaced_work hn))

theorem Sound.enter {b : Body} (h : Sound s m ⟨.enter b :: rest, st, is, cs⟩) :
    Sound s m ⟨visits b.roots ++ .drop :: rest, st.push s.package b, is, cs⟩ where
  known := h.known.push b
  bottom := h.bottom.trans (ScopeStack.suffix_push b)
  depth := by
    have hdepth := h.depth
    have hnone : (visits b.roots).countP WorkItem.isDrop = 0 :=
      List.countP_eq_zero.2 (by simpa using WorkItem.isDrop_of_mem_visits)
    rw [List.countP_cons] at hdepth
    rw [ScopeStack.length_push, List.countP_append, hnone, List.countP_cons, hdepth]
    simp [WorkItem.isDrop]
  macros i hi := by
    refine h.macros i (hi.imp_right fun hi => ?_)
    simpa [WorkItem.expand_notMem_visits] using hi
  invocations := by
    have hbody : (visits b.roots).flatMap (WorkItem.invocations s.package (st.push s.package b)) =
        (WorkItem.enter b).invocations s.package st := by
      rw [WorkItem.invocations_visits, ScopeStack.env_push]
      rfl
    rw [← h.invocations, allInvocations, ahead_body, List.flatMap_append, List.flatMap_map, hbody]
    rfl
  misplaced := by
    have hbody : ((visits b.roots).map
        (WorkItem.misplaced s.package (st.push s.package b))).sum =
          (WorkItem.enter b).misplaced s.package st := by
      rw [WorkItem.misplaced_visits, ScopeStack.env_push]
      rfl
    have hdrop : WorkItem.drop.misplaced s.package (st.push s.package b) = 0 := rfl
    rw [← h.misplaced, allMisplaced, ahead_body, List.map_append, List.sum_append, List.map_map,
      List.map_cons, List.sum_cons, hdrop, zero_add]
    exact congrArg (fun x => _ + (x + _)) hbody

theorem Sound.drop {e : Table × Bool} (h : Sound s m ⟨.drop :: rest, e :: st, is, cs⟩) :
    Sound s m ⟨rest, st, is, cs⟩ where
  known := (List.forall_mem_cons.1 h.known).2
  bottom := by
    rcases List.suffix_cons_iff.1 h.bottom with heq | hst
    · have hdepth := h.depth
      obtain ⟨-, rfl⟩ := List.cons.inj heq
      simp [WorkItem.isDrop] at hdepth
    · exact hst
  depth := by
    have hdepth := h.depth
    rw [List.countP_cons_of_pos rfl, List.length_cons] at hdepth
    exact Nat.succ.inj hdepth
  macros i hi := h.macros i (hi.imp_right (List.mem_cons_of_mem _))
  invocations := h.invocations
  misplaced := by
    rw [← h.misplaced, allMisplaced, allMisplaced, ahead, List.map_cons, List.sum_cons]
    exact congrArg _ (zero_add _).symm

theorem Sound.expand {i : Invocation} (h : Sound s m ⟨.expand i :: rest, st, is, cs⟩) :
    Sound s m ⟨rest, st, is ++ [i], cs⟩ where
  known := h.known
  bottom := h.bottom
  depth := h.depth
  macros j hj := by
    refine h.macros j ?_
    simp only [List.mem_append, List.mem_cons, List.not_mem_nil, or_false,
      WorkItem.expand.injEq] at hj ⊢
    tauto
  invocations := by
    rw [← h.invocations, allInvocations, allInvocations, ahead, List.flatMap_cons,
      List.append_assoc]
    rfl
  misplaced := by
    rw [← h.misplaced, allMisplaced, allMisplaced, ahead, List.map_cons, List.sum_cons]
    exact congrArg _ (zero_add _).symm

end Expander

/-! ## The traversal goes on to its end -/

/-- Bounds the number of steps that an item of the work takes. -/
def WorkItem.weight : WorkItem → Nat
  | .visit n => 3 * n.weight
  | .enter b => 3 * weights b.roots + 2
  | .drop | .expand _ => 1

def WorkItem.weights (ts : List WorkItem) : Nat := (ts.map WorkItem.weight).sum

namespace WorkItem

@[simp] theorem weights_cons (t : WorkItem) (ts : List WorkItem) :
    weights (t :: ts) = t.weight + weights ts := rfl

@[simp] theorem weights_append (ts us : List WorkItem) :
    weights (ts ++ us) = weights ts + weights us := by
  simp [weights]

@[simp] theorem weights_visits (ns : List (Node Empty)) :
    weights (visits ns) = 3 * Node.weights ns := by
  induction ns with
  | nil => rfl
  | cons n ns ih =>
    rw [Node.weights_cons, Nat.mul_add, ← ih]
    rfl

end WorkItem

theorem Node.weight_call (p : Position) (f : Expr) (as : List Expr) (ks : List Keyword) :
    (Node.expr (.call p f as ks) : Node Empty).weight =
      1 + Node.exprWeights (f :: as ++ ks.map Keyword.value) :=
  Node.exprWeight_eq (.call p f as ks)

theorem Node.weight_call_stmt (sp : Span) (p : Position) (f : Expr) (as : List Expr)
    (ks : List Keyword) : (Node.stmt (.simple sp (.expr (.call p f as ks))) : Node Empty).weight =
      2 + Node.exprWeights (f :: as ++ ks.map Keyword.value) := by
  rw [Node.weight_eq, Node.children, Node.ofStmt, Simple.exprs, Node.weights_ofExprs]
  have hcall : Node.exprWeight (.call p f as ks) =
      1 + Node.exprWeights (f :: as ++ ks.map Keyword.value) := Node.exprWeight_eq _
  simp only [Node.exprWeights, hcall]
  omega

/-- What a visit leaves to do is lighter than the visit. -/
theorem Node.weights_work (n : Node Empty) :
    WorkItem.weights n.work < (WorkItem.visit n).weight := by
  have hbody (ns : List (Node Empty)) (b : Body)
      (h : n.weight = 1 + weights (ns ++ b.roots)) :
      WorkItem.weights (visits ns ++ [.enter b]) < (WorkItem.visit n).weight := by
    have hsingle : WorkItem.weights [.enter b] = 3 * weights b.roots + 2 := rfl
    rw [WorkItem.weights_append, WorkItem.weights_visits, hsingle, WorkItem.weight, h,
      Node.weights_append]
    omega
  have hweight := Node.weight_eq n
  unfold work
  split
  · exact hbody _ (.function _ _) hweight
  · exact hbody _ (.klass _) hweight
  · refine hbody _ (.lambda _ _) (hweight.trans ?_)
    simp [Node.children, Expr.children, ofExprs, Body.roots]
  · rw [WorkItem.weights_visits, WorkItem.weight]
    omega

namespace Expander

variable {package : String} {s : Settings} {m : Module Empty}

/-- The weight of the work ahead. -/
def weight (w : Expander) : Nat := WorkItem.weights w.todo

theorem Sound.scopes_ne {w : Expander} (h : Sound s m w) : w.scopes ≠ [] :=
  List.ne_nil_of_length_pos (h.depth ▸ Nat.succ_pos _)

/-- **There is a next state** as long as there is work. It is as it should be, and has less work. -/
theorem Sound.exists_next {w : Expander} (h : Sound s m w) (hw : w.todo ≠ []) :
    ∃ w', w.step s.package = some w' ∧ Sound s m w' ∧ w'.weight < w.weight := by
  obtain ⟨todo, st, is, cs⟩ := w
  have hscopes : st ≠ [] := h.scopes_ne
  cases todo with
  | nil => exact absurd rfl hw
  | cons t rest =>
    cases t with
    | visit n =>
      by_cases hn : n.isCall = true
      · unfold Node.isCall at hn
        split at hn
        · rename_i sp p f as ks
          cases hf : st.env.resolve f.dotted with
          | some name =>
            refine ⟨_, ?_, h.visit_invocation hf, ?_⟩
            · rw [step, ScopeStack.lookup?_eq_some hscopes, hf]
              rfl
            · have hparts := Node.weight_call_stmt sp p f as ks
              simp only [weight, WorkItem.weights_append, WorkItem.weights_cons,
                WorkItem.weights_visits, Node.weights_ofExprs, Node.exprWeights_append,
                WorkItem.weight, Node.exprWeights] at hparts ⊢
              omega
          | none =>
            refine ⟨_, ?_, h.visit_plain hf, ?_⟩
            · rw [step, ScopeStack.lookup?_eq_some hscopes, hf]
              rfl
            · have hparts := Node.weight_call_stmt sp p f as ks
              have hcall := Node.weight_call p f as ks
              simp only [weight, WorkItem.weights_cons, WorkItem.weight]
              omega
        · rename_i p f as ks
          refine ⟨_, ?_, h.visit_call, ?_⟩
          · rw [step, ScopeStack.lookup?_eq_some hscopes]
            rfl
          · have hcall := Node.weight_call p f as ks
            simp only [weight, WorkItem.weights_append, WorkItem.weights_cons,
              WorkItem.weights_visits, Node.weights_ofExprs, WorkItem.weight]
            omega
        · cases hn
      · rw [Bool.not_eq_true] at hn
        refine ⟨_, step_visit s.package hn rest st is cs, h.visit hn, ?_⟩
        have hless := n.weights_work
        simp only [weight, WorkItem.weights_append, WorkItem.weights_cons]
        omega
    | enter b =>
      refine ⟨_, rfl, h.enter, ?_⟩
      simp only [weight, WorkItem.weights_append, WorkItem.weights_cons, WorkItem.weights_visits,
        WorkItem.weight]
      omega
    | drop =>
      obtain ⟨e, st, rfl⟩ := List.exists_cons_of_ne_nil hscopes
      refine ⟨_, rfl, h.drop, ?_⟩
      simp [weight, WorkItem.weight]
    | expand i =>
      obtain ⟨x, -, hx⟩ := List.mem_map.1 (h.macros i (.inr List.mem_cons_self))
      refine ⟨_, ?_, h.expand, ?_⟩
      · rw [step, ← hx, ofName?_name]
        rfl
      · simp [weight, WorkItem.weight]

/-- **Each step keeps what holds during the traversal.** -/
theorem Sound.step {w w' : Expander} (h : Sound s m w) (hstep : w.step s.package = some w') :
    Sound s m w' := by
  have hw : w.todo ≠ [] := by
    obtain ⟨todo, st, is, cs⟩ := w
    rintro rfl
    cases hstep
  obtain ⟨w'', hnext, hsound, -⟩ := h.exists_next hw
  obtain rfl : w'' = w' := Option.some.inj (hnext.symm.trans hstep)
  exact hsound

theorem Sound.reaches {w w' : Expander} (h : Sound s m w) (hreach : Reaches s.package w w') :
    Sound s m w' := by
  induction hreach with
  | refl => exact h
  | tail _ hstep ih => exact ih.step hstep

theorem sound_start (hs : s.NamesMacros) (m : Module Empty) : Sound s m (start s m) where
  known := List.forall_mem_singleton.2 (known_scopeTable s.package (known_implicitTable hs) _ _)
  bottom := List.suffix_refl _
  depth := by
    have hnone : (visits (ofStmts m.body)).countP WorkItem.isDrop = 0 :=
      List.countP_eq_zero.2 (by simpa using WorkItem.isDrop_of_mem_visits)
    rw [start, hnone]
    rfl
  macros i hi := by
    rcases hi with hi | hi
    · cases hi
    · exact absurd hi WorkItem.expand_notMem_visits
  invocations := by
    have hnodrop : ∀ t ∈ visits (ofStmts m.body), t.isDrop = false :=
      WorkItem.isDrop_of_mem_visits
    have hahead := ahead_append hnodrop [] [(moduleTable s m, false)]
    rw [List.append_nil] at hahead
    rw [allInvocations, start, hahead, ahead, List.append_nil, List.flatMap_map]
    exact (WorkItem.invocations_visits _ _ _).trans (Node.allInvocations_ofStmts m.body)
  misplaced := by
    have hnodrop : ∀ t ∈ visits (ofStmts m.body), t.isDrop = false :=
      WorkItem.isDrop_of_mem_visits
    have hahead := ahead_append hnodrop [] [(moduleTable s m, false)]
    rw [List.append_nil] at hahead
    rw [allMisplaced, start, hahead, ahead, List.append_nil, List.map_map]
    refine (zero_add _).trans ?_
    exact (WorkItem.misplaced_visits _ _ _).trans (Node.allMisplaced_ofStmts m.body)

/-- The traversal comes to an end. -/
theorem Sound.exists_end {w : Expander} (h : Sound s m w) :
    ∃ w', Reaches s.package w w' ∧ w'.todo = [] := by
  induction hk : w.weight using Nat.strong_induction_on generalizing w with
  | _ k ih =>
    by_cases hw : w.todo = []
    · exact ⟨w, .refl, hw⟩
    · obtain ⟨w₁, hnext, hsound, hless⟩ := h.exists_next hw
      obtain ⟨w', hreach, hend⟩ := ih w₁.weight (hk ▸ hless) hsound rfl
      exact ⟨w', .head hnext hreach, hend⟩

/-- At the end only the table of the module is left, and all calls have been found. -/
theorem Sound.of_end {w : Expander} (h : Sound s m w) (hw : w.todo = []) :
    w.scopes = [(moduleTable s m, false)] ∧
    w.invocations = JumpMacros.invocations s.package (.ofTable (moduleTable s m)) m.body ∧
    w.misplaced.Perm (misplacedCalls s.package (.ofTable (moduleTable s m)) m.body) := by
  refine ⟨?_, ?_, ?_⟩
  · have hdepth := h.depth
    rw [hw] at hdepth
    exact (h.bottom.eq_of_length hdepth.symm).symm
  · have hall := h.invocations
    rwa [allInvocations, hw, ahead, List.flatMap_nil, List.append_nil] at hall
  · have hall := h.misplaced
    rw [allMisplaced, hw, ahead, List.map_nil, List.sum_nil, add_zero] at hall
    exact Multiset.coe_eq_coe.1 hall

end Expander

end JumpMacros
