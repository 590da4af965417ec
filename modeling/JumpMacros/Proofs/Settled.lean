import JumpMacros.Proofs.CallLabels
import JumpMacros.Proofs.CallVisits
import JumpMacros.Proofs.ShrunkScopes

/-!
# Settled statements

Lowered statements are *settled* if they see no more macros than the part of a scope that they
stand for, and no call in them denotes one. Statements that are made of settled ones are settled,
one lemma for each construct, and so are the statements that lowering generates.
-/

namespace JumpMacros

open Binding (Covers)
open Lower (assemble check plainJump setFlag)
open Node (ofStmts ofExprs)

/-! ## What is left of a scope -/

/-- No call in a statement itself denotes a macro. -/
structure Quiet (env : Env) (s : Stmt Empty) : Prop where
  invocation : s.invocation? env = none
  placed : (s.ownExprs env).flatMap (Expr.misplaced env) = []

/-- What lowering makes of a part of a scope. The part has the bindings `bs`; what is made of it has
the bindings `bs'`, and `places` are its statements, each with the names visible at it. It imports
no more than the part and binds no less, and where no more is visible than in `env`, no call in it
denotes a macro. -/
structure Settled (env : Env) (bs bs' : List Binding) (places : Env → List (Env × Stmt Empty)) :
    Prop where
  covers : Covers bs bs'
  quiet : ∀ env', env'.Within env → ∀ q ∈ places env', Quiet q.1 q.2

variable {package : String} {env : Env} {sp : Span}

theorem ownExprs_simple {x : Simple} (h : (Stmt.simple sp x).invocation? env = none) :
    (Stmt.simple sp x).ownExprs env = x.exprs := by
  rw [Stmt.ownExprs, h]

/-- Where less is visible, a statement that is no invocation holds no more calls. -/
theorem quiet_of_within {env' : Env} (hw : env'.Within env) {s : Stmt Empty}
    (hi : s.invocation? env' = none) (hown : s.ownExprs env' = s.ownExprs env)
    (he : (s.ownExprs env).flatMap (Expr.misplaced env) = []) : Quiet env' s :=
  ⟨hi, by rw [hown]; exact misplaced_all_of_within hw he⟩

theorem gatherAll_append {α : Type} (own : Env → Stmt Empty → List α) (ss ts : List (Stmt Empty)) :
    Stmt.gatherAll package own env (ss ++ ts) =
      Stmt.gatherAll package own env ss ++ Stmt.gatherAll package own env ts := by
  induction ss with
  | nil => rfl
  | cons s ss ih => simp [Stmt.gatherAll, ih]

/-- Statements that are made of a part of a scope. -/
abbrev StmtsSettled (package : String) (env : Env) (bs : List Binding) (out : List (Stmt Empty)) :
    Prop :=
  Settled env bs (bindingsIn package (ofStmts out)) fun env' =>
    Stmt.gatherAll package located env' out

/-- Handlers that are made of a part of a scope. -/
abbrev HandlersSettled (package : String) (env : Env) (bs : List Binding)
    (out : List (Handler Empty)) : Prop :=
  Settled env bs (bindingsIn package (out.map .handler)) fun env' =>
    Handler.gatherAll package located env' out

/-- Cases that are made of a part of a scope. -/
abbrev CasesSettled (package : String) (env : Env) (bs : List Binding) (out : List (Case Empty)) :
    Prop :=
  Settled env bs (bindingsIn package (out.map .case)) fun env' =>
    Case.gatherAll package located env' out

namespace Settled

variable {bs bs' cs cs' : List Binding} {f g : Env → List (Env × Stmt Empty)}

theorem append (h : Settled env bs bs' f) (h' : Settled env cs cs' g) :
    Settled env (bs ++ cs) (bs' ++ cs') fun env' => f env' ++ g env' where
  covers := h.covers.append h'.covers
  quiet env' hw q hq := by
    rcases List.mem_append.1 hq with hq | hq
    · exact h.quiet env' hw q hq
    · exact h'.quiet env' hw q hq

/-- A statement above others. -/
theorem above (h : Settled env bs bs' f) {s : Stmt Empty}
    (hs : ∀ env', env'.Within env → Quiet env' s) :
    Settled env bs bs' fun env' => (env', s) :: f env' where
  covers := h.covers
  quiet env' hw q hq := by
    rcases List.mem_cons.1 hq with rfl | hq
    · exact hs env' hw
    · exact h.quiet env' hw q hq

theorem refl (bs : List Binding) : Settled env bs bs fun _ => [] := ⟨.refl bs, fun _ _ => nofun⟩

theorem of_stmt {s : Stmt Empty}
    (h : Settled env bs (bindingsIn package [.stmt s]) (Stmt.gather package located · s)) :
    StmtsSettled package env bs [s] := by
  refine ⟨h.covers, fun env' hw q hq => h.quiet env' hw q ?_⟩
  simpa [Stmt.gatherAll] using hq

theorem stmts_append {ss ts : List (Stmt Empty)} (hs : StmtsSettled package env bs ss)
    (ht : StmtsSettled package env cs ts) : StmtsSettled package env (bs ++ cs) (ss ++ ts) := by
  unfold StmtsSettled
  simp only [bindingsIn_ofStmts_append, gatherAll_append]
  exact hs.append ht

/-- Some bindings can be dropped beforehand. -/
theorem of_covers (hc : Covers cs bs) (h : Settled env bs bs' f) : Settled env cs bs' f :=
  ⟨hc.trans h.covers, h.quiet⟩

theorem simple {x : Simple} (hi : (Stmt.simple sp x).invocation? env = none)
    (he : x.exprs.flatMap (Expr.misplaced env) = []) :
    StmtsSettled package env (bindingsIn package (ofStmts [.simple sp x])) [.simple sp x] := by
  refine of_stmt ((refl _).above fun env' hw => ?_)
  have hi' := hw.invocation? hi
  exact ⟨hi', by rw [ownExprs_simple hi']; exact misplaced_all_of_within hw he⟩

theorem branch {t : Expr} {b o : List (Stmt Empty)} (ht : [t].flatMap (Expr.misplaced env) = [])
    (hb : StmtsSettled package env bs b) (ho : StmtsSettled package env cs o) :
    StmtsSettled package env (bindingsIn package (ofExprs [t]) ++ (bs ++ cs))
      [.branch sp t b o] := by
  refine of_stmt ?_
  rw [bindingsIn_branch]
  refine ((refl _).append (hb.append ho)).above fun _ hw => ?_
  exact quiet_of_within hw rfl rfl ht

theorem loop {h : LoopHead} {b o : List (Stmt Empty)}
    (hh : h.exprs.flatMap (Expr.misplaced env) = []) (hb : StmtsSettled package env bs b)
    (ho : StmtsSettled package env cs o) :
    StmtsSettled package env (bindingsIn package (ofExprs h.exprs) ++ (bs ++ cs))
      [.loop sp h b o] := by
  refine of_stmt ?_
  rw [bindingsIn_loop]
  refine ((refl _).append (hb.append ho)).above fun _ hw => ?_
  exact quiet_of_within hw rfl rfl hh

/-- What is left of a function sees no more than the function. -/
theorem function {h : FunctionHead} {b b' : List (Stmt Empty)}
    (hh : h.exprs.flatMap (Expr.misplaced env) = [])
    (hb : StmtsSettled package (env.enterFunction package h b) (scopeBindings package b) b') :
    StmtsSettled package env [.binds h.name] [.function sp h b'] := by
  refine of_stmt ?_
  rw [bindingsIn_function]
  refine ⟨.refl _, fun env' hw q hq => ?_⟩
  rcases List.mem_cons.1 hq with rfl | hq
  · exact quiet_of_within hw rfl rfl hh
  · exact hb.quiet _ (hw.enterFunction h hb.covers) q hq

theorem klass {h : ClassHead} {b b' : List (Stmt Empty)}
    (hh : h.exprs.flatMap (Expr.misplaced env) = [])
    (hb : StmtsSettled package (env.enterClass package b) (scopeBindings package b) b') :
    StmtsSettled package env [.binds h.name] [.klass sp h b'] := by
  refine of_stmt ?_
  rw [bindingsIn_klass]
  refine ⟨.refl _, fun env' hw q hq => ?_⟩
  rcases List.mem_cons.1 hq with rfl | hq
  · exact quiet_of_within hw rfl rfl hh
  · exact hb.quiet _ (hw.enterClass hb.covers) q hq

theorem withItems {a : Bool} {is : List WithItem} {b : List (Stmt Empty)}
    (hi : (is.flatMap WithItem.exprs).flatMap (Expr.misplaced env) = [])
    (hb : StmtsSettled package env bs b) :
    StmtsSettled package env (bindingsIn package (ofExprs (is.flatMap WithItem.exprs)) ++ bs)
      [.withItems sp a is b] := by
  refine of_stmt ?_
  rw [bindingsIn_withItems]
  refine ((refl _).append hb).above fun _ hw => ?_
  exact quiet_of_within hw rfl rfl hi

theorem attempt {star : Bool} {b o f : List (Stmt Empty)} {hs : List (Handler Empty)}
    {bs₁ bs₂ bs₃ bs₄ : List Binding}
    (hh : (hs.flatMap Handler.exprs).flatMap (Expr.misplaced env) = [])
    (hb : StmtsSettled package env bs₁ b) (hhs : HandlersSettled package env bs₂ hs)
    (ho : StmtsSettled package env bs₃ o) (hf : StmtsSettled package env bs₄ f) :
    StmtsSettled package env (bs₁ ++ (bs₂ ++ (bs₃ ++ bs₄))) [.attempt sp star b hs o f] := by
  refine of_stmt ?_
  rw [bindingsIn_attempt]
  have hparts := hb.append (hhs.append (ho.append hf))
  refine ⟨hparts.covers, fun env' hw q hq => ?_⟩
  simp only [Stmt.gather, List.cons_append, List.nil_append, List.mem_cons,
    List.append_assoc] at hq
  obtain rfl | hq := hq
  · exact quiet_of_within hw rfl rfl hh
  · exact hparts.quiet env' hw q hq

theorem select {e : Expr} {cs : List (Case Empty)} {bs : List Binding}
    (he : (e :: cs.flatMap Case.exprs).flatMap (Expr.misplaced env) = [])
    (hcs : CasesSettled package env bs cs) :
    StmtsSettled package env (bindingsIn package (ofExprs [e]) ++ bs) [.select sp e cs] := by
  refine of_stmt ?_
  rw [bindingsIn_select]
  refine ((refl _).append hcs).above fun _ hw => ?_
  exact quiet_of_within hw rfl rfl he

theorem handlers_cons {p : Position} {t : Option Expr} {n : Option String} {b : List (Stmt Empty)}
    {hs : List (Handler Empty)} (hb : StmtsSettled package env bs b)
    (hh : HandlersSettled package env cs hs) : HandlersSettled package env
      ((n.toList.map .binds ++ bindingsIn package (ofExprs t.toList)) ++ (bs ++ cs))
      (.mk p t n b :: hs) := by
  unfold HandlersSettled
  rw [bindingsIn_handlers]
  exact (refl _).append (hb.append hh)

theorem cases_cons {p : Pattern} {g : Option Expr} {b : List (Stmt Empty)}
    {ds : List (Case Empty)} (hb : StmtsSettled package env bs b)
    (hd : CasesSettled package env cs ds) : CasesSettled package env
      ((bindingsIn package [.pattern p] ++ bindingsIn package (ofExprs g.toList)) ++ (bs ++ cs))
      (.mk p g b :: ds) := by
  unfold CasesSettled
  rw [bindingsIn_cases]
  exact (refl _).append (hb.append hd)

/-! Generated statements bind flags and hold no calls. -/

theorem nil : StmtsSettled package env [] [] := by
  unfold StmtsSettled
  rw [ofStmts, List.map_nil, bindingsIn_nil]
  exact refl []

theorem plainJump (k : JumpKind) : StmtsSettled package env [] [plainJump sp k] := by
  have hbare {x : Simple} (hx : x = .breaks ∨ x = .continues) :
      StmtsSettled package env [] [.simple sp x] := by
    have hnone : bindingsIn package (ofStmts [.simple sp x]) = [] := by
      rw [ofStmts, List.map_singleton, bindingsIn_singleton]
      obtain rfl | rfl := hx <;> exact bindingsIn_nil
    rw [← hnone]
    obtain rfl | rfl := hx <;> exact simple rfl rfl
  cases k with
  | breaks => exact hbare (.inl rfl)
  | continues => exact hbare (.inr rfl)

theorem setFlag (x : String) (v : Bool) : StmtsSettled package env [] [setFlag sp x v] := by
  have hcovers : Covers [] [.binds x] := Covers.of_binds [x]
  refine of_covers hcovers ?_
  have hbinds : bindingsIn package (ofStmts [Lower.setFlag sp x v]) = [.binds x] := by
    simp [ofStmts, Lower.setFlag, bindingsIn_cons, bindingsIn_nil, Node.bindings, Node.opensScope,
      Node.children, Node.ofStmt, Simple.exprs, ofExprs, NameUse.binds, Expr.children]
  rw [← hbinds]
  refine simple rfl ?_
  simp [Simple.exprs, misplaced_other, Expr.children]

theorem checks (es : List Exit) : StmtsSettled package env [] (es.map (check sp)) := by
  induction es with
  | nil => exact nil
  | cons e es ih =>
    have htest : bindingsIn package (ofExprs [.name sp.start e.1 .load]) = [] := by
      simp [ofExprs, bindingsIn_singleton, bindingsIn_nil, Node.bindings, Node.opensScope,
        Node.children, NameUse.binds, Expr.children]
    have hplaced : [Expr.name sp.start e.1 .load].flatMap (Expr.misplaced env) = [] := by
      simp [misplaced_other, Expr.children]
    have hcheck : StmtsSettled package env _ [check sp e] :=
      Lower.check_eq sp e ▸ branch hplaced (plainJump e.2) nil
    rw [htest] at hcheck
    exact stmts_append hcheck ih

/-- The resets of the flags of a loop and the checks after it. -/
theorem assemble {h : LoopHead} {b o : List (Stmt Empty)}
    (hh : h.exprs.flatMap (Expr.misplaced env) = []) (hb : StmtsSettled package env bs b)
    (ho : StmtsSettled package env cs o) (f : Frame) :
    StmtsSettled package env (bindingsIn package (ofExprs h.exprs) ++ (bs ++ cs))
      (assemble sp h b o f) := by
  have hreset (x : Option String) :
      StmtsSettled package env [] (x.toList.map (Lower.setFlag sp · false)) := by
    cases x with
    | none => exact nil
    | some x => exact setFlag x false
  have heq : Lower.assemble sp h b o f = f.breakFlag.toList.map (Lower.setFlag sp · false) ++
      ([.loop sp h (f.continueFlag.toList.map (Lower.setFlag sp · false) ++ b) o] ++
        f.exits.map (check sp)) := by
    unfold Lower.assemble
    cases f.breakFlag <;> cases f.continueFlag <;> rfl
  have hloop : StmtsSettled package env _ [.loop sp h _ o] :=
    loop hh (stmts_append (hreset f.continueFlag) hb) ho
  have hchecks : StmtsSettled package env [] (f.exits.map (check sp)) := checks f.exits
  have hall := stmts_append (hreset f.breakFlag) (stmts_append hloop hchecks)
  rw [heq]
  simpa only [List.nil_append, List.append_nil] using hall

end Settled

end JumpMacros
