import JumpMacros.Proofs.NameCapture
import JumpMacros.Proofs.Walk
import Mathlib.Data.List.TakeWhile

/-!
# Scopes that see less

If a scope imports no more than another, binds otherwise what that one binds, and stands inside of
a scope that sees no more, then it sees no more either (`scopeTable_within`). An expression that
holds no resolved calls holds none where less is visible (`misplaced_of_within`).

`bindingsIn` reads the scan of a scope as a function of the trees in it, and
`Binding.Covers` compares two scans.
-/

namespace JumpMacros

open Text (rootOf)
open Node (ofStmts ofExprs)

/-! ## Tables -/

namespace Table

/-- What denotes a macro in a table. -/
def spellings (t : Table) : List String := t.map Prod.fst

/-- What denotes a macro in the first table denotes one in the second. -/
def Within (t' t : Table) : Prop := t'.spellings ⊆ t.spellings

variable {t t' : Table} {sp : String}

theorem Within.trans {t'' : Table} (h : t''.Within t') (h' : t'.Within t) : t''.Within t :=
  fun _ hsp => h' (h hsp)

theorem lookup_eq_none : t.lookup sp = none ↔ sp ∉ t.spellings := by
  rw [List.lookup_eq_none_iff, spellings, List.mem_map]
  simp only [bne_iff_ne, ne_eq, not_exists, not_and]
  exact forall₂_congr fun e _ => not_congr eq_comm

theorem mem_spellings_insert {s n : String} :
    sp ∈ (t.insert s n).spellings ↔ sp = s ∨ sp ∈ t.spellings := by
  simp only [spellings, insert, List.map_cons, List.mem_cons, List.mem_map, List.mem_filter]
  refine or_congr_right' fun hne => ⟨?_, ?_⟩
  · rintro ⟨e, ⟨he, -⟩, rfl⟩
    exact ⟨e, he, rfl⟩
  · rintro ⟨e, he, rfl⟩
    exact ⟨e, ⟨he, by simpa using hne⟩, rfl⟩

theorem mem_spellings_addDenoted {bs : List Binding} :
    sp ∈ (addDenoted t bs).spellings ↔ sp ∈ t.spellings ∨ ∃ n, .denotes sp n ∈ bs := by
  induction bs generalizing t with
  | nil => simp [addDenoted]
  | cons b bs ih =>
    cases b with
    | denotes s n =>
      show sp ∈ (addDenoted (t.insert s n) bs).spellings ↔ _
      rw [ih, mem_spellings_insert]
      simp only [List.mem_cons, Binding.denotes.injEq, exists_or, exists_and_left, exists_eq,
        and_true]
      tauto
    | binds n =>
      show sp ∈ (addDenoted t bs).spellings ↔ _
      rw [ih]
      simp

theorem mem_spellings_without {names : List String} :
    sp ∈ (t.without names).spellings ↔ sp ∈ t.spellings ∧ rootOf sp ∉ names := by
  simp only [spellings, without, List.mem_map, List.mem_filter, Bool.not_eq_true',
    List.contains_eq_mem, decide_eq_false_iff_not]
  constructor
  · rintro ⟨e, ⟨he, hn⟩, rfl⟩
    exact ⟨⟨e, he, rfl⟩, hn⟩
  · rintro ⟨⟨e, he, rfl⟩, hn⟩
    exact ⟨e, ⟨he, hn⟩, rfl⟩

theorem Within.without (h : t'.Within t) (names : List String) :
    (t'.without names).Within (t.without names) := fun sp hsp => by
  rw [mem_spellings_without] at hsp ⊢
  exact ⟨h hsp.1, hsp.2⟩

end Table

theorem rootOf_rootOf (x : String) : rootOf (rootOf x) = rootOf x := by
  rw [rootOf, rootOf, String.toList_ofList, List.takeWhile_idem]

/-! ## What scopes bind -/

namespace Binding

/-- A scope with the bindings `bs'` sees no more macros than one with the bindings `bs`: it imports
no others, and it binds the same names otherwise. A name that is no root of a spelling does not
matter. -/
structure Covers (bs bs' : List Binding) : Prop where
  denotes : ∀ spelling name, .denotes spelling name ∈ bs' → .denotes spelling name ∈ bs
  binds : ∀ x, rootOf x = x → .binds x ∈ bs → .binds x ∈ bs'

namespace Covers

variable {bs bs' cs cs' : List Binding}

theorem refl (bs : List Binding) : Covers bs bs := ⟨fun _ _ h => h, fun _ _ h => h⟩

theorem trans (h : Covers bs bs') (h' : Covers bs' cs) : Covers bs cs :=
  ⟨fun sp n hn => h.denotes sp n (h'.denotes sp n hn),
    fun x hx hb => h'.binds x hx (h.binds x hx hb)⟩

theorem append (h : Covers bs bs') (h' : Covers cs cs') : Covers (bs ++ cs) (bs' ++ cs') where
  denotes sp n hn := by
    rw [List.mem_append] at hn ⊢
    exact hn.imp (h.denotes sp n) (h'.denotes sp n)
  binds x hx hb := by
    rw [List.mem_append] at hb ⊢
    exact hb.imp (h.binds x hx) (h'.binds x hx)

/-- More names can be bound. -/
theorem of_binds (names : List String) : Covers [] (names.map .binds) where
  denotes sp n hn := by
    obtain ⟨x, -, hx⟩ := List.mem_map.1 hn
    cases hx
  binds x _ hb := nomatch hb

end Covers

end Binding

open Binding (Covers)

theorem scopeTable_within {package : String} {body body' : List (Stmt Empty)} {t t' : Table}
    {params : List String} (ht : t'.Within t)
    (h : Covers (scopeBindings package body) (scopeBindings package body')) :
    (scopeTable package body' t' params).Within (scopeTable package body t params) := by
  intro sp hsp
  unfold scopeTable at hsp ⊢
  simp only [Table.mem_spellings_without, Table.mem_spellings_addDenoted, List.mem_append,
    mem_boundNames, not_or] at hsp ⊢
  obtain ⟨hspelled, hparams, hbound⟩ := hsp
  refine ⟨?_, hparams, fun hb => hbound (h.binds _ (rootOf_rootOf sp) hb)⟩
  exact hspelled.imp (ht ·) (Exists.imp fun n => h.denotes sp n)

/-! ## What is visible at a place -/

/-- What denotes a macro at one place denotes one at the other, also in nested functions. -/
structure Env.Within (env' env : Env) : Prop where
  here : env'.here.Within env.here
  inner : env'.inner.Within env.inner

namespace Env.Within

variable {env env' : Env} {package : String}

theorem ofTable {t t' : Table} (h : t'.Within t) : (Env.ofTable t').Within (.ofTable t) := ⟨h, h⟩

theorem enterFunction (h : env'.Within env) (hd : FunctionHead) {b b' : List (Stmt Empty)}
    (hb : Covers (scopeBindings package b) (scopeBindings package b')) :
    (env'.enterFunction package hd b').Within (env.enterFunction package hd b) :=
  ofTable (scopeTable_within h.inner hb)

theorem enterClass (h : env'.Within env) {b b' : List (Stmt Empty)}
    (hb : Covers (scopeBindings package b) (scopeBindings package b')) :
    (env'.enterClass package b').Within (env.enterClass package b) :=
  ⟨scopeTable_within h.inner hb, h.inner⟩

theorem enterLambda (h : env'.Within env) (ps : Params) :
    (env'.enterLambda ps).Within (env.enterLambda ps) :=
  ofTable (h.inner.without ps.names)

theorem resolve (h : env'.Within env) {sp : Option String} (hsp : env.resolve sp = none) :
    env'.resolve sp = none := by
  cases sp with
  | none => rfl
  | some s =>
    have hs : s ∉ env.here.spellings := Table.lookup_eq_none.1 hsp
    exact Table.lookup_eq_none.2 fun hs' => hs (h.here hs')

theorem invocation? (h : env'.Within env) {s : Stmt Empty} (hs : s.invocation? env = none) :
    s.invocation? env' = none := by
  unfold Stmt.invocation? at hs ⊢
  split
  · rw [Option.map_eq_none_iff] at hs ⊢
    exact h.resolve hs
  · rfl

end Env.Within

/-! ## Calls in expressions -/

theorem misplaced_lambda (env : Env) (p : Position) (ps : Params) (b : Expr) :
    (Expr.lambda p ps b).misplaced env =
      ps.exprs.flatMap (Expr.misplaced env) ++ b.misplaced (env.enterLambda ps) := by
  rw [Expr.misplaced]
  exact congrArg (· ++ _) (flatMap_attach ps.exprs _)

theorem misplaced_other (env : Env) {e : Expr} (hl : ∀ p ps b, e ≠ .lambda p ps b)
    (hc : ∀ p f as ks, e ≠ .call p f as ks) :
    e.misplaced env = e.children.flatMap (Expr.misplaced env) := by
  rw [← flatMap_attach]
  cases e with
  | lambda p ps b => exact absurd rfl (hl p ps b)
  | call p f as ks => exact absurd rfl (hc p f as ks)
  | _ => rw [Expr.misplaced] <;> simp

/-- Where less is visible no more calls are resolved. -/
theorem misplaced_of_within {env env' : Env} (h : env'.Within env) (e : Expr)
    (he : e.misplaced env = []) : e.misplaced env' = [] := by
  induction hn : sizeOf e using Nat.strong_induction_on generalizing env env' e with
  | _ n ih =>
    subst hn
    by_cases hl : ∃ p ps b, e = .lambda p ps b
    · obtain ⟨p, ps, b, rfl⟩ := hl
      rw [misplaced_lambda, List.append_eq_nil_iff, List.flatMap_eq_nil_iff] at he ⊢
      rw [Expr.lambda.sizeOf_spec] at ih
      refine ⟨fun x hx => ?_, ih _ (by omega) (h.enterLambda ps) b he.2 rfl⟩
      have hlt := Params.sizeOf_lt hx
      exact ih _ (by omega) h x (he.1 x hx) rfl
    · by_cases hc : ∃ p f as ks, e = .call p f as ks
      · obtain ⟨p, f, as, ks, rfl⟩ := hc
        rw [misplaced_call, List.append_eq_nil_iff, List.flatMap_eq_nil_iff] at he ⊢
        refine ⟨?_, fun x hx => ?_⟩
        · have hf : env.resolve f.dotted = none := by simpa using he.1
          simp [h.resolve hf]
        · have hlt := Expr.sizeOf_lt (e := .call p f as ks) hx
          exact ih _ hlt h x (he.2 x hx) rfl
      · have hl' (p ps b) : e ≠ .lambda p ps b := fun heq => hl ⟨p, ps, b, heq⟩
        have hc' (p f as ks) : e ≠ .call p f as ks := fun heq => hc ⟨p, f, as, ks, heq⟩
        rw [misplaced_other _ hl' hc', List.flatMap_eq_nil_iff] at he ⊢
        intro x hx
        exact ih _ (Expr.sizeOf_lt hx) h x (he x hx) rfl

theorem misplaced_all_of_within {env env' : Env} (h : env'.Within env) {es : List Expr}
    (hes : es.flatMap (Expr.misplaced env) = []) : es.flatMap (Expr.misplaced env') = [] := by
  rw [List.flatMap_eq_nil_iff] at hes ⊢
  exact fun e he => misplaced_of_within h e (hes e he)

/-! ## The scan of a scope, by its parts -/

/-- The bindings in some trees, nested scopes left out. -/
def bindingsIn (package : String) (ns : List (Node Empty)) : List Binding :=
  (Node.walk (fun n => !n.opensScope) ns).flatMap (Node.bindings package)

theorem scopeBindings_eq (package : String) (body : List (Stmt Empty)) :
    scopeBindings package body = bindingsIn package (ofStmts body) := rfl

section

variable {package : String}

theorem bindingsIn_nil : bindingsIn package [] = [] := by
  simp [bindingsIn, Node.walk]

theorem bindingsIn_append (ns ms : List (Node Empty)) :
    bindingsIn package (ns ++ ms) = bindingsIn package ns ++ bindingsIn package ms := by
  rw [bindingsIn, Node.walk_append, List.flatMap_append]
  rfl

theorem bindingsIn_cons (n : Node Empty) (ns : List (Node Empty)) :
    bindingsIn package (n :: ns) = n.bindings package ++
      ((if n.opensScope then [] else bindingsIn package n.children) ++ bindingsIn package ns) := by
  rw [bindingsIn, Node.walk_cons, List.flatMap_cons, List.flatMap_append]
  cases n.opensScope <;> rfl

theorem bindingsIn_singleton (n : Node Empty) : bindingsIn package [n] = n.bindings package ++
    (if n.opensScope then [] else bindingsIn package n.children) := by
  rw [bindingsIn_cons, bindingsIn_nil, List.append_nil]

theorem bindingsIn_ofExprs_nil : bindingsIn package (ofExprs []) = [] := bindingsIn_nil

theorem bindingsIn_ofExprs_append (es es' : List Expr) : bindingsIn package (ofExprs (es ++ es')) =
    bindingsIn package (ofExprs es) ++ bindingsIn package (ofExprs es') := by
  rw [ofExprs, List.map_append, bindingsIn_append]
  rfl

theorem bindingsIn_ofStmts_cons (s : Stmt Empty) (ss : List (Stmt Empty)) :
    bindingsIn package (ofStmts (s :: ss)) =
      bindingsIn package [.stmt s] ++ bindingsIn package (ofStmts ss) := by
  rw [ofStmts, List.map_cons, ← List.singleton_append, bindingsIn_append]
  rfl

theorem bindingsIn_ofStmts_append (ss ts : List (Stmt Empty)) :
    bindingsIn package (ofStmts (ss ++ ts)) =
      bindingsIn package (ofStmts ss) ++ bindingsIn package (ofStmts ts) := by
  rw [ofStmts, List.map_append, bindingsIn_append]
  rfl

variable (sp : Span) (b o f : List (Stmt Empty))

theorem bindingsIn_branch (t : Expr) : bindingsIn package [.stmt (.branch sp t b o)] =
    bindingsIn package (ofExprs [t]) ++
      (bindingsIn package (ofStmts b) ++ bindingsIn package (ofStmts o)) := by
  rw [bindingsIn_singleton, ← bindingsIn_append, ← bindingsIn_append]
  rfl

theorem bindingsIn_loop (h : LoopHead) : bindingsIn package [.stmt (.loop sp h b o)] =
    bindingsIn package (ofExprs h.exprs) ++
      (bindingsIn package (ofStmts b) ++ bindingsIn package (ofStmts o)) := by
  rw [bindingsIn_singleton, ← bindingsIn_append, ← bindingsIn_append, ← List.append_assoc]
  rfl

theorem bindingsIn_function (h : FunctionHead) :
    bindingsIn package [.stmt (.function sp h b)] = [.binds h.name] := by
  rw [bindingsIn_singleton]
  rfl

theorem bindingsIn_klass (h : ClassHead) :
    bindingsIn package [.stmt (.klass sp h b)] = [.binds h.name] := by
  rw [bindingsIn_singleton]
  rfl

theorem bindingsIn_withItems (a : Bool) (is : List WithItem) :
    bindingsIn package [.stmt (.withItems sp a is b)] =
      bindingsIn package (ofExprs (is.flatMap WithItem.exprs)) ++
        bindingsIn package (ofStmts b) := by
  rw [bindingsIn_singleton, ← bindingsIn_append]
  rfl

theorem bindingsIn_attempt (star : Bool) (hs : List (Handler Empty)) :
    bindingsIn package [.stmt (.attempt sp star b hs o f)] =
      bindingsIn package (ofStmts b) ++ (bindingsIn package (hs.map .handler) ++
        (bindingsIn package (ofStmts o) ++ bindingsIn package (ofStmts f))) := by
  rw [bindingsIn_singleton, ← bindingsIn_append, ← bindingsIn_append, ← bindingsIn_append,
    ← List.append_assoc, ← List.append_assoc]
  rfl

theorem bindingsIn_select (e : Expr) (cs : List (Case Empty)) :
    bindingsIn package [.stmt (.select sp e cs)] =
      bindingsIn package (ofExprs [e]) ++ bindingsIn package (cs.map .case) := by
  rw [bindingsIn_singleton, ← bindingsIn_append]
  rfl

theorem bindingsIn_handlers (p : Position) (t : Option Expr) (n : Option String)
    (hs : List (Handler Empty)) :
    bindingsIn package ((Handler.mk p t n b :: hs).map .handler) =
      (n.toList.map .binds ++ bindingsIn package (ofExprs t.toList)) ++
        (bindingsIn package (ofStmts b) ++ bindingsIn package (hs.map .handler)) := by
  have hown : (Node.handler (.mk p t n b)).bindings package = n.toList.map .binds := by
    cases n <;> rfl
  rw [List.map_cons, bindingsIn_cons, hown, Node.children, bindingsIn_append]
  simp [Node.opensScope]

theorem bindingsIn_cases (p : Pattern) (g : Option Expr) (cs : List (Case Empty)) :
    bindingsIn package ((Case.mk p g b :: cs).map .case) =
      (bindingsIn package [.pattern p] ++ bindingsIn package (ofExprs g.toList)) ++
        (bindingsIn package (ofStmts b) ++ bindingsIn package (cs.map .case)) := by
  have hown : (Node.case (.mk p g b)).bindings package = [] := rfl
  rw [List.map_cons, bindingsIn_cons, hown, Node.children, ← List.singleton_append,
    bindingsIn_append, bindingsIn_append]
  simp [Node.opensScope]

end

end JumpMacros
