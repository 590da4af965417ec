import JumpMacros.Proofs.CallVisits
import JumpMacros.Proofs.MeaningPreservation
import JumpMacros.Proofs.NoCalls
import JumpMacros.Proofs.ReadStmts
import JumpMacros.Proofs.Settled

/-!
# Expansion is idempotent

**Theorem (`expandModule_idempotent`).** An expanded module expands to itself, without a record and
with the same text.

**Theorem (`Module.parse_argumentsRead`).** What it assumes of a tree holds of every source text.

No call of a macro is left in it. A call that was none in the source is none in the result, because
a scope of the result sees no more than the scope that it was lowered from: its imports are the
same, and it still binds what it did, while flags bind more names. What lowering drops binds
nothing: the callee of an invocation denotes a macro, so its scope does not bind it otherwise, and
a label is a name or a string.
-/

namespace JumpMacros

open Binding (Covers)
open Lower (labelOf?)
open Node (ofStmts ofExprs)
open Text (rootOf)

variable {package : String} {env : Env} {sp : Span}

/-! ## What lowering drops -/

/-- Whether an expression is a name that is written or deleted. -/
def Expr.isTarget : Expr → Bool
  | .name _ _ u => u.binds
  | _ => false

/-- The names that some bindings bind otherwise denote no macros. -/
def Env.Frees (env : Env) (bs : List Binding) : Prop := ∀ x, .binds x ∈ bs → env.here.Free x

theorem Env.frees_append {bs cs : List Binding} :
    env.Frees (bs ++ cs) ↔ env.Frees bs ∧ env.Frees cs := by
  simp only [Env.Frees, List.mem_append, or_imp, forall_and]

/-- A scope drops the names that it binds otherwise. -/
theorem free_of_scopeTable (body : List (Stmt Empty)) (t : Table) (params : List String)
    {x : String} (hx : .binds x ∈ scopeBindings package body) :
    (scopeTable package body t params).Free x :=
  Table.Free.without_mem (List.mem_append_right _ (mem_boundNames.2 hx))

/-- A name of a loop binds nothing where it stands as a label. -/
theorem bindingsIn_label {l : Expr} (hname : (labelOf? l).isSome = true)
    (hread : l.isTarget = false) : bindingsIn package (ofExprs [l]) = [] := by
  unfold labelOf? at hname
  split at hname
  · rename_i p id u
    have hu : u.binds = false := hread
    simp [ofExprs, bindingsIn_singleton, bindingsIn_nil, Node.bindings, Node.opensScope,
      Node.children, hu, Expr.children]
  · simp [ofExprs, bindingsIn_singleton, bindingsIn_nil, Node.bindings, Node.opensScope,
      Node.children, Expr.children]
  · cases hname

/-- A dotted name can bind the name that it starts with, and nothing else. -/
theorem bindingsIn_dotted (package : String) : ∀ (f : Expr) (d : String), f.dotted = some d →
    ∃ id, rootOf d = rootOf id ∧ ∀ b ∈ bindingsIn package (ofExprs [f]), b = .binds id
  | .name p id u, d, h => by
    obtain rfl : id = d := Option.some.inj h
    refine ⟨id, rfl, fun b hb => ?_⟩
    cases hu : u.binds <;>
      simp_all [ofExprs, bindingsIn_singleton, bindingsIn_nil, Node.bindings, Node.opensScope,
        Node.children, Expr.children]
  | .attr p v a, d, h => by
    obtain ⟨d', hd', rfl⟩ := Option.map_eq_some_iff.1 h
    obtain ⟨id, hroot, hb⟩ := bindingsIn_dotted package v d' hd'
    refine ⟨id, (rootOf_append d' a).trans hroot, fun b h => hb b ?_⟩
    rw [ofExprs, List.map_singleton, bindingsIn_singleton] at h
    exact h

/-- A callee that denotes a macro is bound in no other way. -/
theorem covers_callee {f : Expr} {name : String} (hf : env.resolve f.dotted = some name)
    (hfree : env.Frees (bindingsIn package (ofExprs [f]))) :
    Covers (bindingsIn package (ofExprs [f])) [] := by
  refine ⟨fun _ _ h => (List.not_mem_nil h).elim, fun x hx hb => ?_⟩
  cases hd : f.dotted with
  | none => simp [hd, Env.resolve] at hf
  | some d =>
    obtain ⟨id, hroot, hall⟩ := bindingsIn_dotted package f d hd
    obtain rfl := Binding.binds.inj (hall _ hb)
    rw [hd, (hfree x hb).resolve (hroot.trans hx)] at hf
    cases hf

/-- What is known of a statement of a module that expands: its calls are placed as they should be,
and if it is an invocation then a rule fits and its label, if it has one, binds nothing. -/
structure Ready (env : Env) (s : Stmt Empty) : Prop where
  placed : (s.ownExprs env).flatMap (Expr.misplaced env) = []
  fits : ∀ i, s.invocation? env = some i → ∃ m r, Macro.ofName? i.name = some m ∧
    i.replacement m = .ok r ∧
      ∀ l, r.1.label? = some l → (labelOf? l).isSome = true ∧ l.isTarget = false

section

variable {Allowed : JumpKind → String → String → Prop} {fs : List Frame} {label : Option String}
  {out : List (Stmt Empty)}

theorem settled_jump {k : JumpKind} {l : Expr} (h : JumpLowersTo fs sp k l out) :
    StmtsSettled package env [] out := by
  unfold JumpLowersTo at h
  split at h
  · exact h ▸ Settled.plainJump k
  · split at h
    · exact h ▸ Settled.plainJump k
    · obtain ⟨x, -, rfl⟩ := h
      exact Settled.stmts_append (Settled.setFlag x true) (Settled.plainJump .breaks)

theorem bindingsIn_returns (v : Option Expr) :
    bindingsIn package (ofStmts [.simple sp (.returns v)]) =
      bindingsIn package (ofExprs v.toList) := by
  rw [ofStmts, List.map_singleton, bindingsIn_singleton]
  rfl

theorem settled_transfer {x : Transfer} (he : x.values.flatMap (Expr.misplaced env) = [])
    (h : (x.toStmt sp).LowersTo Allowed fs label out) :
    StmtsSettled package env (bindingsIn package (ofExprs x.values)) out := by
  cases x with
  | breaks =>
    obtain rfl := h
    rw [Transfer.values, bindingsIn_ofExprs_nil]
    exact Settled.plainJump .breaks
  | continues =>
    obtain rfl := h
    rw [Transfer.values, bindingsIn_ofExprs_nil]
    exact Settled.plainJump .continues
  | returns v =>
    obtain rfl := h
    exact bindingsIn_returns v ▸ Settled.simple rfl he
  | jump k l =>
    rw [Transfer.values, bindingsIn_ofExprs_nil]
    exact settled_jump h

/-- What a replacement lowers to binds what its arguments bind. -/
theorem settled_replacement {r : Replacement} (he : r.values.flatMap (Expr.misplaced env) = [])
    (h : (r.toStmt sp).LowersTo Allowed fs label out) :
    StmtsSettled package env (bindingsIn package (ofExprs r.values)) out := by
  cases r with
  | loopLabel l =>
    obtain rfl := h
    rw [Replacement.values, bindingsIn_ofExprs_nil]
    exact Settled.nil
  | guarded p x =>
    obtain ⟨b', o', ⟨first, more, hfirst, rfl, rfl⟩, rfl, rfl⟩ := h
    rw [Replacement.values, List.flatMap_cons, List.append_eq_nil_iff] at he
    have hx : StmtsSettled package env (bindingsIn package (ofExprs x.values)) first :=
      settled_transfer he.2 hfirst
    have hp : [p].flatMap (Expr.misplaced env) = [] := by simpa using he.1
    have hbranch : StmtsSettled package env _ [.branch sp p first []] :=
      Settled.branch hp hx Settled.nil
    rw [Replacement.values, ← List.singleton_append, bindingsIn_ofExprs_append]
    simpa only [List.append_nil] using hbranch

/-- A call statement binds what its parts bind. -/
theorem bindingsIn_call (p : Position) (f : Expr) (as : List Expr) (ks : List Keyword) :
    bindingsIn package [.stmt (.simple sp (.expr (.call p f as ks)))] =
      bindingsIn package (ofExprs [f]) ++
        bindingsIn package (ofExprs (as ++ ks.map Keyword.value)) := by
  rw [← bindingsIn_ofExprs_append, bindingsIn_singleton]
  show bindingsIn package [.expr (.call p f as ks)] = _
  rw [bindingsIn_singleton]
  rfl

theorem settled_simple {x : Simple} (hready : Ready env (.simple sp x))
    (hfree : env.Frees (bindingsIn package [.stmt (.simple sp x)]))
    (h : (x.expand env sp).LowersTo Allowed fs label out) :
    StmtsSettled package env (bindingsIn package [.stmt (.simple sp x)]) out := by
  have hplaced := hready.placed
  simp only [Simple.expand] at h
  cases hi : (Stmt.simple sp x).invocation? env with
  | none =>
    simp only [hi] at h
    obtain rfl := h
    exact Settled.simple hi (ownExprs_simple hi ▸ hplaced)
  | some i =>
    obtain ⟨m, ⟨r, rule⟩, hm, hr, hlabel⟩ := hready.fits i hi
    simp only [hi, hm, Option.map_some, hr] at h
    have hargs := args_eq (SourceMeaning.shape_of_replacement hr)
    have hks := keywords_of_replacement hr
    have hown : (Stmt.simple sp x).ownExprs env = r.values ++ r.label?.toList := by
      rw [Stmt.ownExprs, hi]
      simp [hks, hargs]
    rw [hown, List.flatMap_append, List.append_eq_nil_iff] at hplaced
    obtain ⟨sp', p, f, heq, hf⟩ := invocation?_eq_some hi
    rw [heq, bindingsIn_call, hks, List.map_nil, List.append_nil, hargs,
      bindingsIn_ofExprs_append] at hfree ⊢
    refine Settled.of_covers ?_ (settled_replacement hplaced.1 h)
    -- The callee and the label are dropped, and neither binds anything that matters.
    have hcallee := covers_callee hf (Env.frees_append.1 hfree).1
    have hdropped : bindingsIn package (ofExprs r.label?.toList) = [] := by
      cases hl : r.label? with
      | none => exact bindingsIn_nil
      | some l => exact bindingsIn_label (hlabel l hl).1 (hlabel l hl).2
    rw [hdropped, List.append_nil]
    exact hcallee.append (.refl _)

/-! ## The traversal -/

/-- Lowering keeps what handlers hold beside their statements. -/
theorem handlers_exprs : ∀ {hs : List (Handler Empty)} {out : List (Handler Empty)},
    Handler.LowerTo Allowed fs out (Handler.expandAll package env hs) →
      out.flatMap Handler.exprs = hs.flatMap Handler.exprs
  | [], _, h => by rw [h]
  | .mk p t n b :: hs, _, ⟨b', hs', _, hh, hout⟩ => by
    rw [hout, List.flatMap_cons, List.flatMap_cons, handlers_exprs hh]
    rfl

theorem cases_exprs : ∀ {cs : List (Case Empty)} {out : List (Case Empty)},
    Case.LowerTo Allowed fs out (Case.expandAll package env cs) →
      out.flatMap Case.exprs = cs.flatMap Case.exprs
  | [], _, h => by rw [h]
  | .mk p g b :: cs, _, ⟨b', cs', _, hc, hout⟩ => by
    rw [hout, List.flatMap_cons, List.flatMap_cons, cases_exprs hc]
    rfl

end

section

variable {Allowed : JumpKind → String → String → Prop}

mutual

/-- A statement of a module that expands is settled when it is lowered. -/
theorem stmt_settled (env : Env) (fs : List Frame) (label : Option String) :
    ∀ (s : Stmt Empty) (out : List (Stmt Empty)),
      (∀ q ∈ s.gather package located env, Ready q.1 q.2) →
      env.Frees (bindingsIn package [.stmt s]) →
      (s.expand package env).LowersTo Allowed fs label out →
      StmtsSettled package env (bindingsIn package [.stmt s]) out
  | .simple sp x, out, hready, hfree, h =>
    settled_simple (hready (env, .simple sp x) (by simp [Stmt.gather])) hfree h
  | .hole _ hole, _, _, _, _ => nomatch hole
  | .branch sp t b o, out, hready, hfree, h => by
    simp only [Stmt.gather, List.forall_mem_cons, List.cons_append, List.nil_append,
      List.forall_mem_append] at hready
    obtain ⟨hown, hrb, hro⟩ := hready
    rw [bindingsIn_branch, Env.frees_append, Env.frees_append] at hfree
    obtain ⟨b', o', hb, ho, rfl⟩ := h
    rw [bindingsIn_branch]
    exact Settled.branch hown.placed (block_settled env fs none b b' hrb hfree.2.1 hb)
      (block_settled env fs none o o' hro hfree.2.2 ho)
  | .loop sp hd b o, out, hready, hfree, h => by
    simp only [Stmt.gather, List.forall_mem_cons, List.cons_append, List.nil_append,
      List.forall_mem_append] at hready
    obtain ⟨hown, hrb, hro⟩ := hready
    rw [bindingsIn_loop, Env.frees_append, Env.frees_append] at hfree
    obtain ⟨f, b', o', hb, ho, -, rfl⟩ := h
    rw [bindingsIn_loop]
    exact Settled.assemble hown.placed (block_settled env (f :: fs) none b b' hrb hfree.2.1 hb)
      (block_settled env fs none o o' hro hfree.2.2 ho) f
  | .function sp hd b, out, hready, _, h => by
    simp only [Stmt.gather, List.forall_mem_cons, List.cons_append, List.nil_append] at hready
    obtain ⟨b', hb, rfl⟩ := h
    have hb' := block_settled _ [] none b b' hready.2 (fun x hx => free_of_scopeTable b _ _ hx) hb
    rw [bindingsIn_function]
    exact Settled.function hready.1.placed hb'
  | .klass sp hd b, out, hready, _, h => by
    simp only [Stmt.gather, List.forall_mem_cons, List.cons_append, List.nil_append] at hready
    obtain ⟨b', hb, rfl⟩ := h
    have hb' := block_settled _ [] none b b' hready.2 (fun x hx => free_of_scopeTable b _ _ hx) hb
    rw [bindingsIn_klass]
    exact Settled.klass hready.1.placed hb'
  | .withItems sp a is b, out, hready, hfree, h => by
    simp only [Stmt.gather, List.forall_mem_cons, List.cons_append, List.nil_append] at hready
    rw [bindingsIn_withItems, Env.frees_append] at hfree
    obtain ⟨b', hb, rfl⟩ := h
    rw [bindingsIn_withItems]
    exact Settled.withItems hready.1.placed
      (block_settled env fs none b b' hready.2 hfree.2 hb)
  | .attempt sp star b hs o f, out, hready, hfree, h => by
    simp only [Stmt.gather, List.forall_mem_cons, List.cons_append, List.nil_append,
      List.forall_mem_append, and_assoc] at hready
    obtain ⟨hown, hrb, hrh, hro, hrf⟩ := hready
    simp only [bindingsIn_attempt, Env.frees_append] at hfree
    obtain ⟨hfb, hfh, hfo, hff⟩ := hfree
    obtain ⟨b', hs', o', f', hb, hh, ho, hf, rfl⟩ := h
    rw [bindingsIn_attempt]
    refine Settled.attempt ?_ (block_settled env fs none b b' hrb hfb hb)
      (handlers_settled env fs hs hs' hrh hfh hh) (block_settled env fs none o o' hro hfo ho)
      (block_settled env fs none f f' hrf hff hf)
    rw [handlers_exprs hh]
    exact hown.placed
  | .select sp e cs, out, hready, hfree, h => by
    simp only [Stmt.gather, List.forall_mem_cons, List.cons_append, List.nil_append] at hready
    rw [bindingsIn_select, Env.frees_append] at hfree
    obtain ⟨cs', hcs, rfl⟩ := h
    rw [bindingsIn_select]
    refine Settled.select ?_ (cases_settled env fs cs cs' hready.2 hfree.2 hcs)
    rw [cases_exprs hcs]
    exact hready.1.placed
termination_by structural s => s

theorem block_settled (env : Env) (fs : List Frame) (label : Option String) :
    ∀ (b : List (Stmt Empty)) (out : List (Stmt Empty)),
      (∀ q ∈ Stmt.gatherAll package located env b, Ready q.1 q.2) →
      env.Frees (bindingsIn package (ofStmts b)) →
      Stmt.BlockLowersTo Allowed fs label out (Stmt.expandAll package env b) →
      StmtsSettled package env (bindingsIn package (ofStmts b)) out
  | [], _, _, _, h => by
    obtain rfl := h
    rw [ofStmts, List.map_nil, bindingsIn_nil]
    exact Settled.nil
  | s :: rest, _, hready, hfree, h => by
    obtain ⟨hrs, hrr⟩ := List.forall_mem_append.1 hready
    rw [bindingsIn_ofStmts_cons, Env.frees_append] at hfree
    obtain ⟨first, more, hs, hrest, rfl⟩ := h
    rw [bindingsIn_ofStmts_cons]
    exact Settled.stmts_append (stmt_settled env fs label s first hrs hfree.1 hs)
      (block_settled env fs _ rest more hrr hfree.2 hrest)
termination_by structural b => b

theorem handlers_settled (env : Env) (fs : List Frame) :
    ∀ (hs : List (Handler Empty)) (out : List (Handler Empty)),
      (∀ q ∈ Handler.gatherAll package located env hs, Ready q.1 q.2) →
      env.Frees (bindingsIn package (hs.map .handler)) →
      Handler.LowerTo Allowed fs out (Handler.expandAll package env hs) →
      HandlersSettled package env (bindingsIn package (hs.map .handler)) out
  | [], _, _, _, h => by
    obtain rfl := h
    exact Settled.refl _
  | .mk p t n b :: hs, _, hready, hfree, h => by
    obtain ⟨hrb, hrh⟩ := List.forall_mem_append.1 hready
    simp only [bindingsIn_handlers, Env.frees_append] at hfree
    obtain ⟨-, hfb, hfh⟩ := hfree
    obtain ⟨b', hs', hb, hh, rfl⟩ := h
    rw [bindingsIn_handlers]
    exact Settled.handlers_cons (block_settled env fs none b b' hrb hfb hb)
      (handlers_settled env fs hs hs' hrh hfh hh)
termination_by structural hs => hs

theorem cases_settled (env : Env) (fs : List Frame) :
    ∀ (cs : List (Case Empty)) (out : List (Case Empty)),
      (∀ q ∈ Case.gatherAll package located env cs, Ready q.1 q.2) →
      env.Frees (bindingsIn package (cs.map .case)) →
      Case.LowerTo Allowed fs out (Case.expandAll package env cs) →
      CasesSettled package env (bindingsIn package (cs.map .case)) out
  | [], _, _, _, h => by
    obtain rfl := h
    exact Settled.refl _
  | .mk p g b :: cs, _, hready, hfree, h => by
    obtain ⟨hrb, hrc⟩ := List.forall_mem_append.1 hready
    simp only [bindingsIn_cases, Env.frees_append] at hfree
    obtain ⟨-, hfb, hfc⟩ := hfree
    obtain ⟨b', cs', hb, hc, rfl⟩ := h
    rw [bindingsIn_cases]
    exact Settled.cases_cons (block_settled env fs none b b' hrb hfb hb)
      (cases_settled env fs cs cs' hrc hfc hc)
termination_by structural cs => cs

end

end

/-! ## Arguments of macro calls -/

/-- No argument of a macro call is itself a name that is written or deleted. The type of trees
allows such arguments, but no source text has them (`Module.parse_argumentsRead`). -/
def Module.ArgumentsRead (s : Settings) (m : Module Empty) : Prop :=
  ∀ i ∈ invocations s.package (.ofTable (moduleTable s m)) m.body, ∀ a ∈ i.args, a.isTarget = false

/-- A name that is read is no target. -/
theorem Expr.Proper.isTarget_eq_false {e : Expr} (h : e.Proper .load) : e.isTarget = false := by
  cases h with
  | plain hp => cases e <;> first | rfl | cases hp
  | _ => rfl

/-- The arguments of a call are read. -/
theorem Expr.Proper.args {u : NameUse} {p : Position} {f : Expr} {as : List Expr}
    {ks : List Keyword} (h : Expr.Proper u (.call p f as ks)) : ∀ a ∈ as, a.Proper .load := by
  cases h with
  | plain _ hc => exact fun a ha => hc a (by simp [Expr.children, ha])

/-- A call that is an invocation has its arguments. -/
theorem Visit.call?_of_invocation {s : Settings} {v : Visit} {i : Invocation}
    (h : v.invocation? s = some i) : ∃ p f, v.call? = some (.call p f i.args i.keywords) := by
  obtain ⟨sp, p, f, hv⟩ : ∃ sp p f, v.node =
      .stmt (.simple sp (.expr (.call p f i.args i.keywords))) := by
    unfold Visit.invocation? at h
    split at h
    · rename_i st hnode
      obtain ⟨sp, p, f, rfl, -⟩ := invocation?_eq_some h
      exact ⟨sp, p, f, hnode⟩
    · cases h
  exact ⟨p, f, by simp [Visit.call?, hv, Node.call?]⟩

/-- The arguments of macro calls are read if names are used as their places say. -/
theorem argumentsRead_of_proper {s : Settings} {m : Module Empty} (h : ∀ st ∈ m.body, st.Proper) :
    m.ArgumentsRead s := by
  intro i hi a ha
  rw [invocations_eq] at hi
  obtain ⟨v, hv, hvi⟩ := List.mem_filterMap.1 hi
  obtain ⟨p, f, hcall⟩ := Visit.call?_of_invocation hvi
  have hmem := (Multiset.coe_eq_coe.1 m.calls_visits).mem_iff.1
    (List.mem_filterMap.2 ⟨v, hv, hcall⟩)
  obtain ⟨n, hn, hncall⟩ := List.mem_filterMap.1 hmem
  have hproper := Node.forall_mem_all (fun _ h => h.children) (Node.proper_ofStmts h) n hn
  have hnode : n = .expr (.call p f i.args i.keywords) := by
    unfold Node.call? at hncall
    split at hncall
    · rw [Option.some.inj hncall]
    · cases hncall
  subst hnode
  obtain ⟨u, hu⟩ := hproper
  exact (hu.args a ha).isTarget_eq_false

/-- **The module of a source text has no macro call with an argument that is written or
deleted.** -/
theorem Module.parse_argumentsRead {s : Settings} {text : String} {m : Module Empty}
    (h : Module.parse text = .ok m) : m.ArgumentsRead s :=
  argumentsRead_of_proper (Module.parse_proper h)

/-! ## Whole modules -/

section

variable {s : Settings} {file : Option String} {m : Module Empty} {e : Expanded}

/-- The statements of a module that expands are ready to be lowered. -/
theorem Expands.ready (h : Expands s file m e)
    (hmisplaced : misplacedCalls s.package (.ofTable (moduleTable s m)) m.body = [])
    (hread : m.ArgumentsRead s) :
    ∀ q ∈ Stmt.gatherAll s.package located (.ofTable (moduleTable s m)) m.body,
      Ready q.1 q.2 := by
  intro q hq
  have hnamed := block_labelNamed s.package _ [] none m.body h.faultless q hq
  have hcall {i : Invocation} (hi : q.2.invocation? q.1 = some i) :
      i ∈ invocations s.package (.ofTable (moduleTable s m)) m.body := by
    rw [invocations, gatherAll_eq_flatMap]
    exact List.mem_flatMap.2 ⟨q, hq, by simp [hi]⟩
  rw [misplacedCalls, gatherAll_eq_flatMap, List.flatMap_eq_nil_iff] at hmisplaced
  refine ⟨hmisplaced q hq, fun i hi => ?_⟩
  obtain ⟨k, r, hk, hr⟩ := h.fits i (hcall hi)
  refine ⟨k, r, hk, hr, fun l hl => ⟨hnamed i k r hi hk hr l hl, hread i (hcall hi) l ?_⟩⟩
  rw [args_eq (SourceMeaning.shape_of_replacement hr), hl]
  simp

/-- No call in an expanded module denotes a macro. -/
theorem Expands.quiet (h : Expands s file m e)
    (hready : ∀ q ∈ Stmt.gatherAll s.package located (.ofTable (moduleTable s m)) m.body,
      Ready q.1 q.2) :
    ∀ q ∈ Stmt.gatherAll s.package located (.ofTable (moduleTable s e.module)) e.module.body,
      Quiet q.1 q.2 := by
  have hlow := (m.expand s).lower_lowersTo s file
  rw [← h.module_eq] at hlow
  have hsettled := block_settled _ [] none m.body e.module.body hready
    (fun x hx => free_of_scopeTable m.body _ _ hx) hlow
  refine hsettled.quiet _ (.ofTable ?_)
  exact scopeTable_within (List.Subset.refl _) hsettled.covers

/-- The result of an expansion is expanded to itself. -/
theorem Succeeds.expandModule_module (h : Succeeds s file m e) (hread : m.ArgumentsRead s) :
    expandModule s file e.module = .ok ⟨e.module, [], e.source⟩ := by
  have hexp := h.expands
  have hquiet := hexp.quiet (hexp.ready h.placed hread)
  rw [expandModule_of_none file, h.written]
  · rw [invocations, gatherAll_eq_flatMap, List.flatMap_eq_nil_iff]
    exact fun q hq => by rw [(hquiet q hq).invocation]; rfl
  · rw [misplacedCalls, gatherAll_eq_flatMap, List.flatMap_eq_nil_iff]
    exact fun q hq => (hquiet q hq).placed

end

/-- **Expansion is idempotent.** If a module expands then expanding the result gives the same tree
and the same text, and no records. This holds for the module of any source text, and for any other
tree in which no argument of a macro call is written or deleted. -/
theorem expandModule_idempotent (s : Settings) (file : Option String) :
    (∀ text m e, Module.parse text = .ok m → expandModule s file m = .ok e →
      expandModule s file e.module = .ok ⟨e.module, [], e.source⟩) ∧
    ∀ m e, m.ArgumentsRead s → expandModule s file m = .ok e →
      expandModule s file e.module = .ok ⟨e.module, [], e.source⟩ :=
  ⟨fun _ _ _ hm h => (succeeds_of_ok h).expandModule_module (Module.parse_argumentsRead hm),
    fun _ _ hread h => (succeeds_of_ok h).expandModule_module hread⟩

theorem Nested.made_argumentsRead : Nested.made.ArgumentsRead .default := by
  unfold Module.ArgumentsRead
  with_unfolding_all decide

/-- The two loops with a jump out of both are expanded once and for all. -/
theorem expandModule_idempotent_made : ∃ e, expandModule .default none Nested.made = .ok e ∧
    Nested.made.ArgumentsRead .default ∧
      expandModule .default none e.module = .ok ⟨e.module, [], e.source⟩ := by
  obtain ⟨e, he⟩ := Nested.made_expands
  exact ⟨e, he, Nested.made_argumentsRead,
    (expandModule_idempotent .default none).2 Nested.made e Nested.made_argumentsRead he⟩

end JumpMacros
