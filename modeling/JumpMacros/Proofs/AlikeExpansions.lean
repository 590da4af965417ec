import JumpMacros.Proofs.AlikeTrees
import JumpMacros.Proofs.CallLabels
import JumpMacros.Proofs.ShrunkScopes

/-!
# Expanding trees that are alike

**Theorem (`Exchange.block_expands`).** If two blocks have the same parts, except for definitions
that are exchanged, what they expand to has the same parts with the same exception, and the records
are the same but for those of the definitions.

What a definition binds around it is its name alone. So if the definitions that are exchanged have
the same name, all scopes around them bind the same (`Exchange.block_bindings`), and the same calls
denote macros.
-/

namespace JumpMacros

open Node (ofStmts)

/-! ## Records -/

/-- The record of the invocation that a statement is. -/
def Stmt.ownRecords (file : Option String) (env : Env) (s : Stmt Empty) : List Record :=
  (s.invocation? env).toList.filterMap fun i => (i.verdict file).record?

/-- The records of the invocations in some statements, with the names visible there. -/
def recordsIn (package : String) (file : Option String) (env : Env) (b : List (Stmt Empty)) :
    List Record :=
  Stmt.gatherAll package (Stmt.ownRecords file) env b

theorem records_of_invocations (package : String) (file : Option String) (env : Env)
    (b : List (Stmt Empty)) :
    (invocations package env b).filterMap (fun i => (i.verdict file).record?) =
      recordsIn package file env b := by
  rw [invocations, recordsIn, gatherAll_eq_flatMap package _ env b,
    gatherAll_eq_flatMap package (Stmt.ownRecords file) env b, List.filterMap_flatMap]
  rfl

/-- Two lists that are the same, except for the lists that some parts contribute with the names
visible around them. -/
def SameBut {α : Type} (part part' : Env → List α) (l l' : List α) : Prop :=
  ∃ layout : List (α ⊕ Env), l = layout.flatMap (Sum.elim (fun a => [a]) part) ∧
    l' = layout.flatMap (Sum.elim (fun a => [a]) part')

namespace SameBut

variable {α : Type} {part part' : Env → List α} {l₁ l₁' l₂ l₂' : List α}

theorem refl (part part' : Env → List α) (l : List α) : SameBut part part' l l :=
  ⟨l.map .inl, by simp [List.flatMap_map], by simp [List.flatMap_map]⟩

theorem of_part (env : Env) : SameBut part part' (part env) (part' env) :=
  ⟨[.inr env], by simp, by simp⟩

theorem append (h : SameBut part part' l₁ l₁') (h' : SameBut part part' l₂ l₂') :
    SameBut part part' (l₁ ++ l₂) (l₁' ++ l₂') := by
  obtain ⟨x, rfl, rfl⟩ := h
  obtain ⟨y, rfl, rfl⟩ := h'
  exact ⟨x ++ y, List.flatMap_append.symm, List.flatMap_append.symm⟩

theorem eq_of_empty (h : SameBut (fun _ => []) (fun _ => []) l₁ l₁') : l₁ = l₁' := by
  obtain ⟨x, rfl, rfl⟩ := h
  rfl

end SameBut

/-! ## Exchanged definitions -/

/-- Definitions that stand for each other in two modules, what they expand to, and which records
they have. They bind the same around them. -/
structure Exchange (package : String) (file : Option String) where
  span : Span → Span → Prop
  apart : Stmt Empty → Stmt Empty → Prop
  expanded : Stmt Placeholder → Stmt Placeholder → Prop
  records : Env → List Record
  records' : Env → List Record
  start_eq : ∀ {sp sp'}, span sp sp' → sp'.start = sp.start
  bindings_eq : ∀ {s t}, apart s t → bindingsIn package [.stmt t] = bindingsIn package [.stmt s]
  expands : ∀ {s t} (env : Env), apart s t →
    expanded (s.expand package env) (t.expand package env) ∧
    s.gather package (Stmt.ownRecords file) env = records env ∧
    t.gather package (Stmt.ownRecords file) env = records' env

namespace Exchange

variable {package : String} {file : Option String} (c : Exchange package file)

/-- Alike before expansion. -/
def before : Likeness Empty := .exact c.span c.apart

/-- Alike after expansion, with the same labels. -/
def after : Likeness Placeholder := .relabelled .univ id c.span c.expanded

variable {c}

/-! ### Scopes -/

mutual

theorem stmt_bindings : ∀ {s t : Stmt Empty}, s.Like c.before t →
    bindingsIn package [.stmt t] = bindingsIn package [.stmt s]
  | .simple sp x, _, ⟨sp', _, rfl, _, rfl⟩ => by
    have hown : (Node.stmt (.simple sp' x) : Node Empty).bindings package =
        (Node.stmt (.simple sp x) : Node Empty).bindings package := by cases x <;> rfl
    rw [bindingsIn_singleton, bindingsIn_singleton, hown]
    rfl
  | .hole _ h, _, _ => nomatch h
  | .branch _ _ _ _, _, ⟨_, _, _, _, rfl, _, rfl, hb, ho⟩ => by
    rw [bindingsIn_branch, bindingsIn_branch, block_bindings hb, block_bindings ho]
  | .loop _ _ _ _, _, ⟨_, _, _, rfl, _, hb, ho⟩ => by
    rw [bindingsIn_loop, bindingsIn_loop, block_bindings hb, block_bindings ho]
  | .function _ _ _, _, ⟨_, _, rfl, _⟩ => by rw [bindingsIn_function, bindingsIn_function]
  | .klass _ _ _, _, ⟨_, _, rfl, _⟩ => by rw [bindingsIn_klass, bindingsIn_klass]
  | .withItems _ _ _ _, _, ⟨_, _, rfl, _, hb⟩ => by
    rw [bindingsIn_withItems, bindingsIn_withItems, block_bindings hb]
  | .attempt _ _ _ _ _ _, _, ⟨_, _, _, _, _, rfl, _, hb, hh, ho, hf⟩ => by
    rw [bindingsIn_attempt, bindingsIn_attempt, block_bindings hb, handlers_bindings hh,
      block_bindings ho, block_bindings hf]
  | .select _ _ _, _, ⟨_, _, rfl, _, hc⟩ => by
    rw [bindingsIn_select, bindingsIn_select, cases_bindings hc]
termination_by structural s => s

/-- Blocks that are alike bind the same. -/
theorem block_bindings : ∀ {b b' : List (Stmt Empty)}, Stmt.AllLike c.before b b' →
    bindingsIn package (ofStmts b') = bindingsIn package (ofStmts b)
  | [], _, h => by
    obtain rfl := h
    rfl
  | s :: _, _, ⟨t, _, rfl, hs, hrest⟩ => by
    have hfirst : bindingsIn package [.stmt t] = bindingsIn package [.stmt s] :=
      hs.elim c.bindings_eq stmt_bindings
    rw [bindingsIn_ofStmts_cons, bindingsIn_ofStmts_cons, hfirst, block_bindings hrest]
termination_by structural b => b

theorem handlers_bindings : ∀ {hs hs' : List (Handler Empty)}, Handler.AllLike c.before hs hs' →
    bindingsIn package (hs'.map .handler) = bindingsIn package (hs.map .handler)
  | [], _, h => by
    obtain rfl := h
    rfl
  | .mk _ _ _ _ :: _, _, ⟨_, _, rfl, hb, hh⟩ => by
    rw [bindingsIn_handlers, bindingsIn_handlers, block_bindings hb, handlers_bindings hh]
termination_by structural hs => hs

theorem cases_bindings : ∀ {cs cs' : List (Case Empty)}, Case.AllLike c.before cs cs' →
    bindingsIn package (cs'.map .case) = bindingsIn package (cs.map .case)
  | [], _, h => by
    obtain rfl := h
    rfl
  | .mk _ _ _ :: _, _, ⟨_, _, rfl, hb, hc⟩ => by
    rw [bindingsIn_cases, bindingsIn_cases, block_bindings hb, cases_bindings hc]
termination_by structural cs => cs

end

section

variable {b b' : List (Stmt Empty)} (h : Stmt.AllLike c.before b b')

include h

/-- Scopes with bodies that are alike have the same table. -/
theorem scopeTable_eq (t : Table) (params : List String) :
    scopeTable package b' t params = scopeTable package b t params := by
  have hbindings : scopeBindings package b' = scopeBindings package b := block_bindings h
  unfold scopeTable
  rw [hbindings]

theorem enterFunction_eq (env : Env) (hd : FunctionHead) :
    env.enterFunction package hd b' = env.enterFunction package hd b :=
  congrArg Env.ofTable (scopeTable_eq h _ _)

theorem enterClass_eq (env : Env) : env.enterClass package b' = env.enterClass package b :=
  congrArg (Env.mk · env.inner) (scopeTable_eq h _ _)

end

/-! ### Calls -/

section

variable {sp sp' : Span}

/-- An invocation at another place is the same but for the place. -/
theorem invocation?_move (sp sp' : Span) (env : Env) (x : Simple) :
    (Stmt.simple sp' x).invocation? env =
      ((Stmt.simple sp x).invocation? env).map fun i => { i with span := some sp' } := by
  unfold Stmt.invocation?
  split
  · rename_i heq
    cases heq
    simp [Function.comp_def]
  · rename_i hno
    split
    · rename_i heq
      cases heq
      exact absurd rfl (hno _ _ _ _ _)
    · rfl

theorem span_of_invocation? {env : Env} {x : Simple} {i : Invocation}
    (h : (Stmt.simple sp x).invocation? env = some i) : i.span = some sp := by
  unfold Stmt.invocation? at h
  split at h
  · rename_i heq
    cases heq
    obtain ⟨m, -, rfl⟩ := Option.map_eq_some_iff.1 h
    rfl
  · cases h

/-- What a call becomes does not depend on its place. -/
theorem replacement_move (i : Invocation) (m : Macro) (sp' : Span) :
    Invocation.replacement m { i with span := some sp' } = i.replacement m := rfl

theorem replacement_like (h : c.span sp sp') (r : Replacement) :
    (r.toStmt sp).Like c.after (r.toStmt sp') := by
  have hlabel (l : Expr) : LabelsAlike .univ id l l :=
    ⟨⟨by simp, fun _ _ => trivial⟩, fun _ => rfl⟩
  cases r with
  | loopLabel l => exact ⟨sp', _, rfl, h, l, rfl, hlabel l⟩
  | guarded t x =>
    refine ⟨sp', t, [x.toStmt sp'], [], rfl, h, rfl, Stmt.allLike_cons (.inr ?_) rfl, rfl⟩
    cases x with
    | breaks => exact ⟨sp', _, rfl, h, rfl⟩
    | continues => exact ⟨sp', _, rfl, h, rfl⟩
    | returns v => exact ⟨sp', _, rfl, h, rfl⟩
    | jump k l => exact ⟨sp', _, rfl, h, l, rfl, hlabel l⟩

/-- A simple statement becomes the same at two places. -/
theorem simple_expand_like (h : c.span sp sp') (env : Env) (x : Simple) :
    (x.expand env sp).Like c.after (x.expand env sp') := by
  have hkept : (Stmt.simple sp x).Like c.after (.simple sp' x) := ⟨sp', x, rfl, h, rfl⟩
  unfold Simple.expand
  rw [invocation?_move sp sp']
  cases (Stmt.simple sp x).invocation? env with
  | none => exact hkept
  | some i =>
    simp only [Option.map_some, replacement_move]
    split
    · exact replacement_like h _
    · exact hkept

/-- A call that starts at the same position has the same record. -/
theorem ownRecords_move (h : sp'.start = sp.start) (env : Env) (x : Simple) :
    (Stmt.simple sp' x).ownRecords file env = (Stmt.simple sp x).ownRecords file env := by
  have hline : sp'.line = sp.line := congrArg Position.line h
  have hcol : sp'.col = sp.col := congrArg Position.col h
  unfold Stmt.ownRecords
  rw [invocation?_move sp sp']
  cases hi : (Stmt.simple sp x).invocation? env with
  | none => rfl
  | some i =>
    have hsame : (Invocation.verdict file { i with span := some sp' }).record? =
        (i.verdict file).record? := by
      unfold Invocation.verdict
      cases Macro.ofName? i.name with
      | none => rfl
      | some m =>
        simp only [replacement_move, Invocation.line, Invocation.col, span_of_invocation? hi,
          Option.map_some, hline, hcol]
        cases i.replacement m <;> rfl
    simp only [Option.map_some, Option.toList_some, List.filterMap_cons, hsame]

end

/-! ### Expansion -/

mutual

theorem stmt_expands (env : Env) : ∀ {s t : Stmt Empty}, s.Like c.before t →
    (s.expand package env).Like c.after (t.expand package env) ∧
      SameBut c.records c.records' (s.gather package (Stmt.ownRecords file) env)
        (t.gather package (Stmt.ownRecords file) env)
  | .simple _ x, _, ⟨_, _, rfl, hsp, rfl⟩ => by
    rw [Stmt.gather, Stmt.gather, ownRecords_move (c.start_eq hsp)]
    exact ⟨simple_expand_like hsp env x, .refl _ _ _⟩
  | .hole _ h, _, _ => nomatch h
  | .branch _ _ _ _, _, ⟨_, _, _, _, rfl, hsp, rfl, hb, ho⟩ =>
    let ⟨hb, rb⟩ := block_expands env hb
    let ⟨ho, ro⟩ := block_expands env ho
    ⟨⟨_, _, _, _, rfl, hsp, rfl, hb, ho⟩, rb.append ro⟩
  | .loop _ _ _ _, _, ⟨_, _, _, rfl, hsp, hb, ho⟩ =>
    let ⟨hb, rb⟩ := block_expands env hb
    let ⟨ho, ro⟩ := block_expands env ho
    ⟨⟨_, _, _, rfl, hsp, hb, ho⟩, rb.append ro⟩
  | .function _ hd b, _, ⟨_, b', rfl, hsp, hb⟩ => by
    obtain ⟨hbody, rbody⟩ := block_expands (env.enterFunction package hd b) hb
    refine ⟨⟨_, _, rfl, hsp, ?_⟩, ?_⟩
    · rwa [enterFunction_eq hb]
    · rwa [Stmt.gather, Stmt.gather, enterFunction_eq hb]
  | .klass _ _ b, _, ⟨_, b', rfl, hsp, hb⟩ => by
    obtain ⟨hbody, rbody⟩ := block_expands (env.enterClass package b) hb
    refine ⟨⟨_, _, rfl, hsp, ?_⟩, ?_⟩
    · rwa [enterClass_eq hb]
    · rwa [Stmt.gather, Stmt.gather, enterClass_eq hb]
  | .withItems _ _ _ _, _, ⟨_, _, rfl, hsp, hb⟩ =>
    let ⟨hb, rb⟩ := block_expands env hb
    ⟨⟨_, _, rfl, hsp, hb⟩, rb⟩
  | .attempt _ _ _ _ _ _, _, ⟨_, _, _, _, _, rfl, hsp, hb, hh, ho, hf⟩ =>
    let ⟨hb, rb⟩ := block_expands env hb
    let ⟨hh, rh⟩ := handlers_expand env hh
    let ⟨ho, ro⟩ := block_expands env ho
    let ⟨hf, rf⟩ := block_expands env hf
    ⟨⟨_, _, _, _, _, rfl, hsp, hb, hh, ho, hf⟩, ((rb.append rh).append ro).append rf⟩
  | .select _ _ _, _, ⟨_, _, rfl, hsp, hc⟩ =>
    let ⟨hc, rc⟩ := cases_expand env hc
    ⟨⟨_, _, rfl, hsp, hc⟩, rc⟩
termination_by structural s => s

/-- **Blocks that are alike expand to blocks that are alike**, with the same records but for what is
exchanged. -/
theorem block_expands (env : Env) : ∀ {b b' : List (Stmt Empty)}, Stmt.AllLike c.before b b' →
    Stmt.AllLike c.after (Stmt.expandAll package env b) (Stmt.expandAll package env b') ∧
      SameBut c.records c.records' (recordsIn package file env b) (recordsIn package file env b')
  | [], _, h => by
    obtain rfl := h
    exact ⟨rfl, .refl _ _ _⟩
  | s :: _, _, ⟨t, _, rfl, .inl hs, hrest⟩ => by
    obtain ⟨hexpanded, hs, ht⟩ := c.expands env hs
    obtain ⟨hmore, rmore⟩ := block_expands env hrest
    refine ⟨Stmt.allLike_cons (.inl hexpanded) hmore, SameBut.append ?_ rmore⟩
    rw [hs, ht]
    exact .of_part env
  | s :: _, _, ⟨t, _, rfl, .inr hs, hrest⟩ =>
    let ⟨hfirst, rfirst⟩ := stmt_expands env hs
    let ⟨hmore, rmore⟩ := block_expands env hrest
    ⟨Stmt.allLike_cons (.inr hfirst) hmore, rfirst.append rmore⟩
termination_by structural b => b

theorem handlers_expand (env : Env) : ∀ {hs hs' : List (Handler Empty)},
    Handler.AllLike c.before hs hs' →
    Handler.AllLike c.after (Handler.expandAll package env hs)
        (Handler.expandAll package env hs') ∧
      SameBut c.records c.records' (Handler.gatherAll package (Stmt.ownRecords file) env hs)
        (Handler.gatherAll package (Stmt.ownRecords file) env hs')
  | [], _, h => by
    obtain rfl := h
    exact ⟨rfl, .refl _ _ _⟩
  | .mk _ _ _ _ :: _, _, ⟨_, _, rfl, hb, hh⟩ =>
    let ⟨hb, rb⟩ := block_expands env hb
    let ⟨hh, rh⟩ := handlers_expand env hh
    ⟨⟨_, _, rfl, hb, hh⟩, rb.append rh⟩
termination_by structural hs => hs

theorem cases_expand (env : Env) : ∀ {cs cs' : List (Case Empty)},
    Case.AllLike c.before cs cs' →
    Case.AllLike c.after (Case.expandAll package env cs) (Case.expandAll package env cs') ∧
      SameBut c.records c.records' (Case.gatherAll package (Stmt.ownRecords file) env cs)
        (Case.gatherAll package (Stmt.ownRecords file) env cs')
  | [], _, h => by
    obtain rfl := h
    exact ⟨rfl, .refl _ _ _⟩
  | .mk _ _ _ :: _, _, ⟨_, _, rfl, hb, hc⟩ =>
    let ⟨hb, rb⟩ := block_expands env hb
    let ⟨hc, rc⟩ := cases_expand env hc
    ⟨⟨_, _, rfl, hb, hc⟩, rb.append rc⟩
termination_by structural cs => cs

end

end Exchange

end JumpMacros
