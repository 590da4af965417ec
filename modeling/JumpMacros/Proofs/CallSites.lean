import JumpMacros.Expansion
import JumpMacros.Proofs.Variables
import Mathlib.Data.List.Basic

/-!
# Where calls stand

`Module.visits` lists the statements and expressions of a module, each with the place where it
stands. The first iterable of a comprehension stands outside of it, like the heads of definitions
and the default values of parameters.

**Theorem (`invocations_eq`, `misplacedCalls_eq`).** The invocations of a module and its misplaced
calls are those of its visits whose callee denotes a macro, for the table `envAt` of the place.
-/

namespace JumpMacros

/-- A node at a place. -/
structure Visit where
  place : Place
  node : Node Empty

/-! ## Expressions -/

/-- The parts of a comprehension with their places. -/
def Place.ofClauses (place : Place) (parts : List Expr) (cs : List Clause) :
    List (Place × Expr) :=
  let inside := Scope.comprehension parts cs :: place
  parts.map (inside, ·) ++
    match cs with
    | [] => []
    | .mk _ t i gs :: cs =>
      (inside, t) :: (place, i) :: (gs ++ cs.flatMap Clause.exprs).map (inside, ·)

/-- The expressions directly under an expression with their places. -/
def Expr.placed (place : Place) : Expr → List (Place × Expr)
  | .lambda _ ps b => ps.exprs.map (place, ·) ++ [(.lambda ps b :: place, b)]
  | .comprehension _ _ e cs => place.ofClauses [e] cs
  | .dictComprehension _ k v cs => place.ofClauses [k, v] cs
  | e => e.children.map (place, ·)

theorem Place.map_snd_ofClauses (place : Place) (parts : List Expr) (cs : List Clause) :
    (place.ofClauses parts cs).map Prod.snd = parts ++ cs.flatMap Clause.exprs := by
  unfold Place.ofClauses
  cases cs with
  | nil => simp [Function.comp_def]
  | cons c cs =>
    obtain ⟨a, t, i, gs⟩ := c
    simp [Clause.exprs, Function.comp_def]

theorem Expr.map_snd_placed (place : Place) (e : Expr) :
    (e.placed place).map Prod.snd = e.children := by
  unfold Expr.placed
  split
  · simp [Expr.children, Function.comp_def]
  · rw [Place.map_snd_ofClauses]
    rfl
  · rw [Place.map_snd_ofClauses]
    rfl
  · simp [Function.comp_def]

theorem Expr.sizeOf_placed {place : Place} {e : Expr} {c : Place × Expr}
    (h : c ∈ e.placed place) : sizeOf c.2 < sizeOf e := by
  refine Expr.sizeOf_lt ?_
  rw [← Expr.map_snd_placed place]
  exact List.mem_map_of_mem h

/-- An expression and all that is under it. -/
def Expr.visits (place : Place) (e : Expr) : List Visit :=
  ⟨place, .expr e⟩ :: (e.placed place).attach.flatMap fun ⟨c, _⟩ => Expr.visits c.1 c.2
termination_by sizeOf e
decreasing_by exact Expr.sizeOf_placed ‹_›

theorem flatMap_attach {α β : Type} (xs : List α) (f : α → List β) :
    (xs.attach.flatMap fun x => f x.1) = xs.flatMap f := by
  have h : (xs.attach.map Subtype.val).flatMap f = xs.attach.flatMap fun x => f x.1 :=
    List.flatMap_map _ _ _
  rw [← h, List.attach_map_subtype_val]

theorem Expr.visits_eq (place : Place) (e : Expr) :
    e.visits place =
      ⟨place, .expr e⟩ :: (e.placed place).flatMap fun c => c.2.visits c.1 := by
  rw [Expr.visits]
  exact congrArg _ (flatMap_attach (e.placed place) fun c => c.2.visits c.1)

/-- An expression without parts is visited alone. -/
theorem Expr.visits_leaf {place : Place} {e : Expr} (h : e.placed place = []) :
    e.visits place = [⟨place, .expr e⟩] := by
  rw [Expr.visits_eq, h, List.flatMap_nil]

/-! ## Statements -/

/-- The expressions of a statement that stand at the place of the statement. A call that is a
statement is not among them, but its parts are. -/
def Stmt.headExprs : Stmt Empty → List Expr
  | .simple _ (.expr (.call _ f as ks)) => f :: as ++ ks.map Keyword.value
  | .simple _ s => s.exprs
  | .hole _ h => nomatch h
  | .branch _ t _ _ => [t]
  | .loop _ h _ _ => h.exprs
  | .function _ h _ => h.exprs
  | .klass _ h _ => h.exprs
  | .withItems _ _ is _ => is.flatMap WithItem.exprs
  | .attempt _ _ _ hs _ _ => hs.flatMap fun
    | .mk _ t _ _ => t.toList
  | .select _ e cs => e :: cs.flatMap fun
    | .mk p g _ => p.allExprs ++ g.toList

/-- A statement without the statements under it. -/
def Stmt.ownVisits (place : Place) (s : Stmt Empty) : List Visit :=
  ⟨place, .stmt s⟩ :: s.headExprs.flatMap (Expr.visits place)

mutual

/-- A statement and all that is under it. -/
def Stmt.visits (place : Place) (s : Stmt Empty) : List Visit :=
  s.ownVisits place ++
    match s with
    | .simple _ _ => []
    | .hole _ h => nomatch h
    | .branch _ _ b o => Stmt.allVisits place b ++ Stmt.allVisits place o
    | .loop _ _ b o => Stmt.allVisits place b ++ Stmt.allVisits place o
    | .function _ h b => Stmt.allVisits (.function h b :: place) b
    | .klass _ _ b => Stmt.allVisits (.klass b :: place) b
    | .withItems _ _ _ b => Stmt.allVisits place b
    | .attempt _ _ b hs o f =>
      Stmt.allVisits place b ++ Handler.visits place hs ++ Stmt.allVisits place o ++
        Stmt.allVisits place f
    | .select _ _ cs => Case.visits place cs

def Stmt.allVisits (place : Place) : List (Stmt Empty) → List Visit
  | [] => []
  | s :: ss => s.visits place ++ Stmt.allVisits place ss

def Handler.visits (place : Place) : List (Handler Empty) → List Visit
  | [] => []
  | .mk _ _ _ b :: hs => Stmt.allVisits place b ++ Handler.visits place hs

def Case.visits (place : Place) : List (Case Empty) → List Visit
  | [] => []
  | .mk _ _ b :: cs => Stmt.allVisits place b ++ Case.visits place cs

end

/-- All statements and expressions of a module. -/
def Module.visits (m : Module Empty) : List Visit := Stmt.allVisits [.module m.body] m.body

/-! ## Tables of places -/

/-- The names visible at a place. -/
def envAt (s : Settings) : Place → Env
  | [] => .ofTable s.implicitTable
  | .module b :: _ => .ofTable (scopeTable s.package b s.implicitTable [])
  | .function h b :: outer => (envAt s outer).enterFunction s.package h b
  | .klass b :: outer => (envAt s outer).enterClass s.package b
  | .lambda ps _ :: outer => (envAt s outer).enterLambda ps
  | .comprehension _ _ :: outer => envAt s outer

namespace Visit

/-- The invocation that a visited statement is. -/
def invocation? (s : Settings) (v : Visit) : Option Invocation :=
  match v.node with
  | .stmt st => st.invocation? (envAt s v.place)
  | _ => none

/-- The misplaced call that a visited expression is. -/
def misplaced? (s : Settings) (v : Visit) : Option MisplacedCall :=
  match v.node with
  | .expr (.call p f _ _) => ((envAt s v.place).resolve f.dotted).map fun m => ⟨m, p⟩
  | _ => none

/-- The callee of the call that is visited. -/
def callee? (v : Visit) : Option Expr :=
  match v.node with
  | .stmt (.simple _ (.expr (.call _ f _ _))) => some f
  | .expr (.call _ f _ _) => some f
  | _ => none

/-- What the callee of a visited call denotes at its place. -/
def macroName? (s : Settings) (v : Visit) : Option String :=
  v.callee?.bind fun f => (envAt s v.place).resolve f.dotted

/-- Where no callee denotes a macro there is no invocation. -/
theorem invocation?_eq_none {s : Settings} (v : Visit) (h : v.macroName? s = none) :
    v.invocation? s = none := by
  obtain ⟨place, n⟩ := v
  unfold invocation?
  split
  · rename_i st hn
    obtain rfl : n = .stmt st := hn
    unfold Stmt.invocation?
    split
    · simpa [macroName?, callee?] using h
    · rfl
  · rfl

/-- And there is no misplaced call. -/
theorem misplaced?_eq_none {s : Settings} (v : Visit) (h : v.macroName? s = none) :
    v.misplaced? s = none := by
  obtain ⟨place, n⟩ := v
  unfold misplaced?
  split
  · rename_i p f as ks hn
    obtain rfl : n = .expr (.call p f as ks) := hn
    simpa [macroName?, callee?] using h
  · rfl

end Visit

/-- Comprehensions have no table of their own. -/
theorem envAt_ofClauses {s : Settings} {place : Place} {parts : List Expr} {cs : List Clause}
    {c : Place × Expr} (h : c ∈ place.ofClauses parts cs) : envAt s c.1 = envAt s place := by
  unfold Place.ofClauses at h
  rcases List.mem_append.1 h with h | h
  · obtain ⟨e, -, rfl⟩ := List.mem_map.1 h
    rfl
  · cases cs with
    | nil => cases h
    | cons d cs =>
      obtain ⟨a, t, i, gs⟩ := d
      rcases List.mem_cons.1 h with rfl | h
      · rfl
      · rcases List.mem_cons.1 h with rfl | h
        · rfl
        · obtain ⟨e, -, rfl⟩ := List.mem_map.1 h
          rfl

/-- The places directly under an expression that is no lambda have its table. -/
theorem envAt_placed {s : Settings} {place : Place} {e : Expr}
    (he : ∀ p ps b, e ≠ .lambda p ps b) {c : Place × Expr} (h : c ∈ e.placed place) :
    envAt s c.1 = envAt s place := by
  unfold Expr.placed at h
  split at h
  · exact absurd rfl (he _ _ _)
  · exact envAt_ofClauses h
  · exact envAt_ofClauses h
  · obtain ⟨e, -, rfl⟩ := List.mem_map.1 h
    rfl

/-! ## Calls -/

theorem misplaced_call (env : Env) (p : Position) (f : Expr) (as : List Expr)
    (ks : List Keyword) :
    (Expr.call p f as ks).misplaced env =
      ((env.resolve f.dotted).toList.map fun m => ⟨m, p⟩) ++
        (f :: as ++ ks.map Keyword.value).flatMap (Expr.misplaced env) := by
  rw [Expr.misplaced]
  exact congrArg (_ ++ ·) (flatMap_attach (Expr.call p f as ks).children _)

/-- A dotted name holds no calls. -/
theorem misplaced_dotted (env : Env) : ∀ f : Expr, f.dotted.isSome = true → f.misplaced env = []
  | .name _ _ _, _ => by
    rw [Expr.misplaced] <;> simp [Expr.children]
  | .attr _ v a, h => by
    have hv : v.dotted.isSome = true := by simpa [Expr.dotted] using h
    rw [Expr.misplaced] <;> simp [Expr.children, misplaced_dotted env v hv]

/-- The calls of an expression are misplaced where its visits are. -/
theorem misplaced_eq (s : Settings) (place : Place) (e : Expr) :
    e.misplaced (envAt s place) = (e.visits place).filterMap (Visit.misplaced? s) := by
  have ih : ∀ c ∈ e.placed place, c.2.misplaced (envAt s c.1) =
      (c.2.visits c.1).filterMap (Visit.misplaced? s) :=
    fun c hc => misplaced_eq s c.1 c.2
  rw [Expr.visits_eq, List.filterMap_cons, List.filterMap_flatMap]
  have hchildren : ((e.placed place).flatMap fun c =>
      (c.2.visits c.1).filterMap (Visit.misplaced? s)) =
      (e.placed place).flatMap fun c => c.2.misplaced (envAt s c.1) :=
    List.flatMap_congr fun c hc => (ih c hc).symm
  rw [hchildren]
  by_cases he : ∃ p ps b, e = .lambda p ps b
  · obtain ⟨p, ps, b, rfl⟩ := he
    rw [Expr.misplaced]
    simp only [Visit.misplaced?, Expr.placed, List.flatMap_append, List.flatMap_map,
      List.flatMap_singleton]
    exact congrArg (· ++ _) (flatMap_attach ps.exprs fun x => x.misplaced (envAt s place))
  · have hne (p ps b) : e ≠ .lambda p ps b := fun h => he ⟨p, ps, b, h⟩
    have hsame : ((e.placed place).flatMap fun c => c.2.misplaced (envAt s c.1)) =
        e.children.flatMap fun x => x.misplaced (envAt s place) := by
      rw [← Expr.map_snd_placed place, List.flatMap_map]
      exact List.flatMap_congr fun c hc => by rw [envAt_placed hne hc]
    rw [hsame, ← flatMap_attach]
    cases e with
    | lambda p ps b => exact absurd rfl (hne p ps b)
    | call p f as ks =>
      rw [misplaced_call, flatMap_attach]
      cases hm : (envAt s place).resolve f.dotted <;> simp [Visit.misplaced?, hm, Expr.children]
    | _ => rw [Expr.misplaced] <;> simp [Visit.misplaced?]
termination_by sizeOf e
decreasing_by exact Expr.sizeOf_placed ‹_›

theorem node_of_mem_visits {place : Place} {e : Expr} {v : Visit} (h : v ∈ e.visits place) :
    ∃ e', v.node = .expr e' := by
  rw [Expr.visits_eq] at h
  rcases List.mem_cons.1 h with rfl | h
  · exact ⟨e, rfl⟩
  · obtain ⟨c, hc, hv⟩ := List.mem_flatMap.1 h
    exact node_of_mem_visits hv
termination_by sizeOf e
decreasing_by exact Expr.sizeOf_placed hc

theorem headExprs_misplaced (env : Env) (st : Stmt Empty) :
    st.headExprs.flatMap (Expr.misplaced env) = (st.ownExprs env).flatMap (Expr.misplaced env) := by
  unfold Stmt.headExprs
  split
  · rename_i sp p f as ks
    unfold Stmt.ownExprs Stmt.invocation?
    cases hm : env.resolve f.dotted with
    | none => simp [misplaced_call, hm, Simple.exprs]
    | some m =>
      -- The callee of an invocation holds no calls.
      have hf : f.dotted.isSome = true := by
        cases hd : f.dotted with
        | none => simp [Env.resolve, hd] at hm
        | some d => rfl
      simp [misplaced_dotted env f hf, hm]
  · rename_i sp x hx
    have hnone : (Stmt.simple sp x).invocation? env = none := by
      unfold Stmt.invocation?
      split
      · rename_i heq
        cases heq
        exact (hx _ _ _ _ rfl).elim
      · rfl
    simp [Stmt.ownExprs, hnone]
  all_goals rfl

/-- What a statement contributes to the invocations. -/
theorem ownVisits_invocation (s : Settings) (place : Place) (st : Stmt Empty) :
    (st.ownVisits place).filterMap (Visit.invocation? s) =
      (st.invocation? (envAt s place)).toList := by
  have hexprs :
      (st.headExprs.flatMap (Expr.visits place)).filterMap (Visit.invocation? s) = [] := by
    refine List.filterMap_eq_nil_iff.2 fun v hv => ?_
    obtain ⟨e, -, hv⟩ := List.mem_flatMap.1 hv
    obtain ⟨e', he'⟩ := node_of_mem_visits hv
    simp [Visit.invocation?, he']
  rw [Stmt.ownVisits, List.filterMap_cons, hexprs]
  simp only [Visit.invocation?]
  cases st.invocation? (envAt s place) <;> rfl

/-- What a statement contributes to the misplaced calls. -/
theorem ownVisits_misplaced (s : Settings) (place : Place) (st : Stmt Empty) :
    (st.ownVisits place).filterMap (Visit.misplaced? s) =
      (st.ownExprs (envAt s place)).flatMap (Expr.misplaced (envAt s place)) := by
  rw [← headExprs_misplaced, Stmt.ownVisits, List.filterMap_cons, List.filterMap_flatMap]
  simp only [Visit.misplaced?]
  exact List.flatMap_congr fun e _ => (misplaced_eq s place e).symm

/-! ## Whole modules -/

section

variable {α : Type} {s : Settings} {own : Env → Stmt Empty → List α} {f : Visit → Option α}

mutual

/-- What is gathered with the names visible at each statement is gathered from its visits. -/
theorem gather_eq (h : ∀ place st, (st.ownVisits place).filterMap f = own (envAt s place) st)
    (place : Place) : ∀ st : Stmt Empty,
      st.gather s.package own (envAt s place) = (st.visits place).filterMap f
  | .simple sp x => by
    rw [Stmt.gather.eq_def, Stmt.visits.eq_def, List.filterMap_append, h]
    rfl
  | .branch sp t b o => by
    rw [Stmt.gather.eq_def, Stmt.visits.eq_def, List.filterMap_append, h]
    simp [gatherAll_eq h place b, gatherAll_eq h place o]
  | .loop sp hd b o => by
    rw [Stmt.gather.eq_def, Stmt.visits.eq_def, List.filterMap_append, h]
    simp [gatherAll_eq h place b, gatherAll_eq h place o]
  | .function sp hd b => by
    rw [Stmt.gather.eq_def, Stmt.visits.eq_def, List.filterMap_append, h]
    exact congrArg (_ ++ ·) (gatherAll_eq h (.function hd b :: place) b)
  | .klass sp hd b => by
    rw [Stmt.gather.eq_def, Stmt.visits.eq_def, List.filterMap_append, h]
    exact congrArg (_ ++ ·) (gatherAll_eq h (.klass b :: place) b)
  | .withItems sp a is b => by
    rw [Stmt.gather.eq_def, Stmt.visits.eq_def, List.filterMap_append, h]
    exact congrArg (_ ++ ·) (gatherAll_eq h place b)
  | .attempt sp star b hs o fin => by
    rw [Stmt.gather.eq_def, Stmt.visits.eq_def, List.filterMap_append, h]
    simp [gatherAll_eq h place b, handlers_gather_eq h place hs, gatherAll_eq h place o,
      gatherAll_eq h place fin]
  | .select sp e cs => by
    rw [Stmt.gather.eq_def, Stmt.visits.eq_def, List.filterMap_append, h]
    exact congrArg (_ ++ ·) (cases_gather_eq h place cs)

theorem gatherAll_eq (h : ∀ place st, (st.ownVisits place).filterMap f = own (envAt s place) st)
    (place : Place) : ∀ b : List (Stmt Empty),
      Stmt.gatherAll s.package own (envAt s place) b = (Stmt.allVisits place b).filterMap f
  | [] => rfl
  | st :: rest => by
    simp [Stmt.gatherAll, Stmt.allVisits, gather_eq h place st, gatherAll_eq h place rest]

theorem handlers_gather_eq
    (h : ∀ place st, (st.ownVisits place).filterMap f = own (envAt s place) st) (place : Place) :
    ∀ hs : List (Handler Empty),
      Handler.gatherAll s.package own (envAt s place) hs = (Handler.visits place hs).filterMap f
  | [] => rfl
  | .mk _ _ _ b :: hs => by
    simp [Handler.gatherAll, Handler.visits, gatherAll_eq h place b, handlers_gather_eq h place hs]

theorem cases_gather_eq
    (h : ∀ place st, (st.ownVisits place).filterMap f = own (envAt s place) st) (place : Place) :
    ∀ cs : List (Case Empty),
      Case.gatherAll s.package own (envAt s place) cs = (Case.visits place cs).filterMap f
  | [] => rfl
  | .mk _ _ b :: cs => by
    simp [Case.gatherAll, Case.visits, gatherAll_eq h place b, cases_gather_eq h place cs]

end

end

/-- **The invocations of a module are visited calls that denote macros.** -/
theorem invocations_eq (s : Settings) (m : Module Empty) :
    invocations s.package (.ofTable (moduleTable s m)) m.body =
      m.visits.filterMap (Visit.invocation? s) :=
  gatherAll_eq (ownVisits_invocation s) [.module m.body] m.body

/-- **So are its misplaced calls.** -/
theorem misplacedCalls_eq (s : Settings) (m : Module Empty) :
    misplacedCalls s.package (.ofTable (moduleTable s m)) m.body =
      m.visits.filterMap (Visit.misplaced? s) :=
  gatherAll_eq (ownVisits_misplaced s) [.module m.body] m.body

end JumpMacros
