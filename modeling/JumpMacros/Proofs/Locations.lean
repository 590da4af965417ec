import JumpMacros.Proofs.FlagUses
import JumpMacros.Proofs.RecordOrder

/-!
# Generated code points at the user's code

**Origins (`Stmt.ComesFrom`).** Every statement of an expanded module comes from a statement of the
source. A statement of the user comes from itself. What stands for a call comes from the call: the
`if`, its transfer, the assignment that sets a flag, and the `break` after it. A reset of a flag
comes from the loop that the flag belongs to, and a check, with the jump in it, from the loop that
it follows. All this is said without a word on places.

**Made statements (`allAt_placed`).** Lowering copies a location to the outermost statement that it
makes and to nothing in it. What is in it inherits that location.

**Step (`stmt_located`).** If the statements directly below are where they come from, so is the
statement that holds them.

**Result (`expandModule_locations`).** Each statement of an expanded module has exactly the location
of the statement that it comes from.
-/

namespace JumpMacros

open Node (ofExprs ofStmts)
open Lower (Made plainJump setFlag check check_eq labelOf?)

/-! ## Statements wherever they are -/

/-- An assignment of a truth value to a flag. -/
def Assigns (x : String) (v : Bool) (s : Stmt Empty) : Prop :=
  ∃ sp p q, s = .simple sp (.assign [.name p x .store] (.const q (.bool v)))

/-- A check of a flag, with the jump in it. -/
def ChecksFor (e : Exit) (s : Stmt Empty) : Prop :=
  ∃ sp sp' p, s = .branch sp (.name p e.1 .load) [plainJump sp' e.2] []

/-- What a transfer becomes inside of the loops `fs`. -/
def Transfer.Becomes (fs : List Frame) (out : List (Stmt Empty)) : Transfer → Prop
  | .breaks => ∃ sp, out = [.simple sp .breaks]
  | .continues => ∃ sp, out = [.simple sp .continues]
  | .returns v => ∃ sp, out = [.simple sp (.returns v)]
  | .jump k l => ∃ name inner target, labelOf? l = some name ∧ Targets fs inner target name ∧
      (inner = [] ∧ (∃ sp, out = [plainJump sp k]) ∨
        inner ≠ [] ∧ ∃ x set sp, target.flag k = some x ∧ Assigns x true set ∧
          out = [set, .simple sp .breaks])

/-- What a call becomes inside of the loops `fs`. -/
def Replacement.Becomes (fs : List Frame) (out : List (Stmt Empty)) : Replacement → Prop
  | .guarded t x => ∃ sp body, x.Becomes fs body ∧ out = [.branch sp t body []]
  | .loopLabel _ => out = []

/-! ## Origins -/

/-- A statement of an expanded module, and the statement of the source that it comes from. -/
abbrev Origin := Stmt Empty × Stmt Empty

/-- All statements of a block come from one statement. -/
def allFrom (s : Stmt Empty) (out : List (Stmt Empty)) : List Origin :=
  (Node.statements (ofStmts out)).map fun x => (x, s)

mutual

/-- The statements `out` are what a statement with a label becomes, inside of the loops `fs`. The
statements in them have the origins `os`, parents before children. -/
def Stmt.ComesFrom (package : String) (env : Env) (fs : List Frame) (label : Option String)
    (os : List Origin) (out : List (Stmt Empty)) : Stmt Empty → Prop
  | .simple sp x =>
    match (Stmt.simple sp x).invocation? env with
    | none => ∃ sp', out = [.simple sp' x] ∧ os = [(.simple sp' x, .simple sp x)]
    | some i => (∃ m r rule, Macro.ofName? i.name = some m ∧ i.replacement m = .ok (r, rule) ∧
        r.Becomes fs out) ∧ os = allFrom (.simple sp x) out
  | .hole _ h => nomatch h
  | .branch sp t b o => ∃ sp' o₁ o₂ b' o', Stmt.AllComeFrom package env fs none o₁ b' b ∧
      Stmt.AllComeFrom package env fs none o₂ o' o ∧ out = [.branch sp' t b' o'] ∧
      os = (.branch sp' t b' o', .branch sp t b o) :: (o₁ ++ o₂)
  | .loop sp h b o => ∃ f sp' o₁ o₂ b' o' before first after,
      Stmt.AllComeFrom package env (f :: fs) none o₁ b' b ∧
      Stmt.AllComeFrom package env fs none o₂ o' o ∧ f.label = label ∧
      List.Forall₂ (Assigns · false) (f.flag .breaks).toList before ∧
      List.Forall₂ (Assigns · false) (f.flag .continues).toList first ∧
      List.Forall₂ ChecksFor f.exits after ∧
      out = before ++ .loop sp' h (first ++ b') o' :: after ∧
      os = allFrom (.loop sp h b o) before ++
        (.loop sp' h (first ++ b') o', .loop sp h b o) ::
          (allFrom (.loop sp h b o) first ++ o₁ ++ o₂) ++ allFrom (.loop sp h b o) after
  | .function sp h b => ∃ sp' o₁ b',
      Stmt.AllComeFrom package (env.enterFunction package h b) [] none o₁ b' b ∧
      out = [.function sp' h b'] ∧ os = (.function sp' h b', .function sp h b) :: o₁
  | .klass sp h b => ∃ sp' o₁ b',
      Stmt.AllComeFrom package (env.enterClass package b) [] none o₁ b' b ∧
      out = [.klass sp' h b'] ∧ os = (.klass sp' h b', .klass sp h b) :: o₁
  | .withItems sp a is b => ∃ sp' o₁ b', Stmt.AllComeFrom package env fs none o₁ b' b ∧
      out = [.withItems sp' a is b'] ∧ os = (.withItems sp' a is b', .withItems sp a is b) :: o₁
  | .attempt sp star b hs o f => ∃ sp' o₁ o₂ o₃ o₄ b' hs' o' f',
      Stmt.AllComeFrom package env fs none o₁ b' b ∧ Handler.AllComeFrom package env fs o₂ hs' hs ∧
      Stmt.AllComeFrom package env fs none o₃ o' o ∧ Stmt.AllComeFrom package env fs none o₄ f' f ∧
      out = [.attempt sp' star b' hs' o' f'] ∧
      os = (.attempt sp' star b' hs' o' f', .attempt sp star b hs o f) :: (o₁ ++ o₂ ++ o₃ ++ o₄)
  | .select sp e cs => ∃ sp' o₁ cs', Case.AllComeFrom package env fs o₁ cs' cs ∧
      out = [.select sp' e cs'] ∧ os = (.select sp' e cs', .select sp e cs) :: o₁
termination_by structural s => s

/-- The statements `out` are what a block becomes whose first statement has a label. -/
def Stmt.AllComeFrom (package : String) (env : Env) (fs : List Frame) (label : Option String)
    (os : List Origin) (out : List (Stmt Empty)) : List (Stmt Empty) → Prop
  | [] => out = [] ∧ os = []
  | s :: rest => ∃ o₁ o₂ first more, s.ComesFrom package env fs label o₁ first ∧
      Stmt.AllComeFrom package env fs ((s.invocation? env).bind Invocation.label?) o₂ more rest ∧
      out = first ++ more ∧ os = o₁ ++ o₂
termination_by structural b => b

def Handler.AllComeFrom (package : String) (env : Env) (fs : List Frame) (os : List Origin)
    (out : List (Handler Empty)) : List (Handler Empty) → Prop
  | [] => out = [] ∧ os = []
  | .mk p t n b :: hs => ∃ o₁ o₂ b' hs', Stmt.AllComeFrom package env fs none o₁ b' b ∧
      Handler.AllComeFrom package env fs o₂ hs' hs ∧ out = .mk p t n b' :: hs' ∧ os = o₁ ++ o₂
termination_by structural hs => hs

def Case.AllComeFrom (package : String) (env : Env) (fs : List Frame) (os : List Origin)
    (out : List (Case Empty)) : List (Case Empty) → Prop
  | [] => out = [] ∧ os = []
  | .mk p g b :: cs => ∃ o₁ o₂ b' cs', Stmt.AllComeFrom package env fs none o₁ b' b ∧
      Case.AllComeFrom package env fs o₂ cs' cs ∧ out = .mk p g b' :: cs' ∧ os = o₁ ++ o₂
termination_by structural cs => cs

end

/-! ## Statements at one place -/

/-- A made statement has no location yet, nor has a statement in it. -/
def Lower.Made.Bare : Made → Prop
  | .jump place _ => place = none
  | .assign place _ _ => place = none
  | .test place _ t => place = none ∧ t.Bare

/-- All statements of a block are at one place, those inside of others too. -/
def AllAt (sp : Span) (b : List (Stmt Empty)) : Prop :=
  ∀ s ∈ Node.statements (ofStmts b), s.span = sp

theorem statements_ofStmts_cons (s : Stmt Empty) (b : List (Stmt Empty)) :
    Node.statements (ofStmts (s :: b)) =
      s :: (Node.statements (Node.ofStmt s) ++ Node.statements (ofStmts b)) := by
  rw [ofStmts, List.map_cons, Node.statements_cons]
  rfl

theorem mem_statements_self (s : Stmt Empty) : s ∈ Node.statements [.stmt s] := by
  rw [Node.statements_stmt]
  exact List.mem_cons_self

section

variable {sp : Span} {b : List (Stmt Empty)}

@[simp] theorem allAt_nil : AllAt sp [] := by simp [AllAt, ofStmts]

@[simp] theorem allAt_simple {sp' : Span} {x : Simple} :
    AllAt sp (.simple sp' x :: b) ↔ sp' = sp ∧ AllAt sp b := by
  simp [AllAt, statements_ofStmts_cons, Node.ofStmt, Stmt.span]

@[simp] theorem allAt_branch {sp' : Span} {t : Expr} {b₁ b₂ : List (Stmt Empty)} :
    AllAt sp (.branch sp' t b₁ b₂ :: b) ↔
      sp' = sp ∧ AllAt sp b₁ ∧ AllAt sp b₂ ∧ AllAt sp b := by
  simp [AllAt, statements_ofStmts_cons, Node.ofStmt, Stmt.span, or_imp, forall_and]

theorem allAt_cons {x : Stmt Empty} : AllAt sp (x :: b) ↔ AllAt sp [x] ∧ AllAt sp b := by
  have hnil : Node.statements (ofStmts ([] : List (Stmt Empty))) = [] := Node.statements_nil
  simp [AllAt, statements_ofStmts_cons, hnil, or_imp, forall_and, and_assoc]

/-- A made statement without locations takes that of what is around it, with all that is in it. -/
theorem allAt_fill : ∀ {x : Made} {sp : Span}, x.Bare → AllAt sp [x.fill sp]
  | .jump _ .breaks, _, rfl => allAt_simple.2 ⟨rfl, allAt_nil⟩
  | .jump _ .continues, _, rfl => allAt_simple.2 ⟨rfl, allAt_nil⟩
  | .assign _ _ _, _, rfl => allAt_simple.2 ⟨rfl, allAt_nil⟩
  | .test _ _ _, _, ⟨rfl, ht⟩ => allAt_branch.2 ⟨rfl, allAt_fill ht, allAt_nil, allAt_nil⟩

/-- **A location that is copied to a made statement reaches all that is in it.** -/
theorem allAt_placed {x : Made} (h : x.Bare) : AllAt sp [x.placed sp] := by
  -- Filled in from `sp` itself, the statement is as good as one to which nothing was copied.
  have hsame : x.placed sp = x.fill sp := by
    cases x with
    | jump p k => cases h; cases k <;> rfl
    | assign p f v => cases h; rfl
    | test p f t => cases h.1; rfl
  rw [hsame]
  exact allAt_fill h

theorem allAt_plainJump (k : JumpKind) : AllAt sp [plainJump sp k] :=
  allAt_placed (x := .jump none k) rfl

theorem allAt_setFlag (x : String) (v : Bool) : AllAt sp [setFlag sp x v] :=
  allAt_placed (x := .assign none x v) rfl

theorem allAt_check (e : Exit) : AllAt sp [check sp e] :=
  allAt_placed (x := .test none e.1 (.jump none e.2)) ⟨rfl, rfl⟩

theorem allAt_resets (flag : Option String) : AllAt sp (resets sp flag) := by
  cases flag with
  | none => exact allAt_nil
  | some x => exact allAt_setFlag x false

theorem allAt_checks (es : List Exit) : AllAt sp (es.map (check sp)) := by
  induction es with
  | nil => exact allAt_nil
  | cons e es ih => exact allAt_cons.2 ⟨allAt_check e, ih⟩

end

/-! ## Statements that are where they come from -/

/-- The statements in the trees `out` have the origins `os` in the trees `src`, each at its own
place. -/
structure Located (os : List Origin) (out src : List (Node Empty)) : Prop where
  complete : os.map Prod.fst = Node.statements out
  located : ∀ o ∈ os, o.2 ∈ Node.statements src ∧ o.1.span = o.2.span

namespace Located

variable {os os' : List Origin} {out out' src src' : List (Node Empty)} {s x : Stmt Empty}

theorem nil : Located [] [] src := ⟨by simp, by simp⟩

theorem append (h : Located os out src) (h' : Located os' out' src) :
    Located (os ++ os') (out ++ out') src := by
  refine ⟨by simp [h.complete, h'.complete], fun o ho => ?_⟩
  rcases List.mem_append.1 ho with ho | ho
  · exact h.located o ho
  · exact h'.located o ho

theorem mono (h : Located os out src) (hsub : Node.statements src ⊆ Node.statements src') :
    Located os out src' :=
  ⟨h.complete, fun o ho => (h.located o ho).imp_left fun hmem => hsub hmem⟩

/-- Two parts of a list of trees, one behind the other. -/
theorem both (h : Located os out src) (h' : Located os' out' src') :
    Located (os ++ os') (out ++ out') (src ++ src') := by
  refine (h.mono ?_).append (h'.mono ?_) <;> simp

/-- A statement that stands where its origin does, with what is below it. -/
theorem stmt (h : Located os (Node.ofStmt x) [.stmt s]) (hspan : x.span = s.span) :
    Located ((x, s) :: os) [.stmt x] [.stmt s] := by
  refine ⟨?_, List.forall_mem_cons.2 ⟨⟨mem_statements_self s, hspan⟩, h.located⟩⟩
  rw [Node.statements_stmt, List.map_cons, h.complete]

theorem below (h : Located os out (Node.ofStmt s)) : Located os out [.stmt s] := by
  refine h.mono ?_
  rw [Node.statements_stmt]
  exact List.subset_cons_self s _

/-- Statements that are all at one place come from the statement there. -/
theorem allFrom {out : List (Stmt Empty)} (hmem : s ∈ Node.statements src)
    (h : AllAt s.span out) : Located (allFrom s out) (ofStmts out) src := by
  refine ⟨by simp [JumpMacros.allFrom, Function.comp_def], fun o ho => ?_⟩
  obtain ⟨x, hx, rfl⟩ := List.mem_map.1 ho
  exact ⟨hmem, h x hx⟩

/-- Only the statements of trees matter. -/
theorem of_statements (h : Located os out src) (hout : Node.statements out' = Node.statements out)
    (hsrc : Node.statements src' = Node.statements src) : Located os out' src' :=
  ⟨h.complete.trans hout.symm, fun o ho => hsrc.symm ▸ h.located o ho⟩

end Located

section

variable {package : String} {env : Env} {fs : List Frame} {label : Option String}
  {laid : List LaidLoop} {sp : Span} {out : List (Stmt Empty)}

/-! ## Generated statements -/

theorem assigns_resets (sp : Span) (flag : Option String) :
    List.Forall₂ (Assigns · false) flag.toList (resets sp flag) := by
  unfold resets
  rw [List.forall₂_map_right_iff]
  exact List.forall₂_same.2 fun x _ => ⟨sp, sp.start, sp.start, rfl⟩

theorem checksFor_checks (sp : Span) (es : List Exit) :
    List.Forall₂ ChecksFor es (es.map (check sp)) := by
  rw [List.forall₂_map_right_iff]
  exact List.forall₂_same.2 fun e _ => ⟨sp, sp, sp.start, check_eq sp e⟩

/-! ## Calls -/

/-- A transfer becomes statements at its own place. -/
theorem transfer_becomes {x : Transfer} (h : (x.toStmt sp).LaysOut fs label laid out) :
    x.Becomes fs out ∧ AllAt sp out := by
  cases x with
  | breaks =>
    obtain ⟨-, rfl⟩ := h
    exact ⟨⟨sp, rfl⟩, by simp⟩
  | continues =>
    obtain ⟨-, rfl⟩ := h
    exact ⟨⟨sp, rfl⟩, by simp⟩
  | returns v =>
    obtain ⟨-, rfl⟩ := h
    exact ⟨⟨sp, rfl⟩, by simp⟩
  | jump k l =>
    obtain ⟨-, name, inner, target, hl, ht, h⟩ := h
    rcases h with ⟨hin, rfl⟩ | ⟨hin, x, hx, rfl⟩
    · exact ⟨⟨name, inner, target, hl, ht, .inl ⟨hin, sp, rfl⟩⟩, allAt_plainJump k⟩
    · refine ⟨⟨name, inner, target, hl, ht, .inr ⟨hin, x, _, sp, hx, ⟨sp, _, _, rfl⟩, rfl⟩⟩, ?_⟩
      exact allAt_cons.2 ⟨allAt_setFlag x true, by simp⟩

/-- A call becomes statements at its own place. -/
theorem replacement_becomes {r : Replacement} (h : (r.toStmt sp).LaysOut fs label laid out) :
    r.Becomes fs out ∧ AllAt sp out := by
  cases r with
  | loopLabel l =>
    obtain ⟨-, rfl⟩ := h
    exact ⟨rfl, allAt_nil⟩
  | guarded t x =>
    obtain ⟨l₁, l₂, b', o', hb, ⟨-, rfl⟩, -, rfl⟩ := h
    obtain ⟨l₃, l₄, first, more, hfirst, ⟨-, rfl⟩, -, rfl⟩ := hb
    obtain ⟨hbecomes, hat⟩ := transfer_becomes hfirst
    rw [List.append_nil]
    exact ⟨⟨sp, first, hbecomes, rfl⟩, by simpa using hat⟩

/-! ## The traversal -/

open SourceMeaning (Fits calls)

theorem simple_located {x : Simple} (hfits : ∀ i ∈ calls env (.simple sp x), Fits i)
    (h : (x.expand env sp).LaysOut fs label laid out) :
    ∃ os, (Stmt.simple sp x).ComesFrom package env fs label os out ∧
      Located os (ofStmts out) [.stmt (.simple sp x)] := by
  simp only [Simple.expand] at h
  simp only [Stmt.ComesFrom]
  cases hi : (Stmt.simple sp x).invocation? env with
  | none =>
    simp only [hi] at h
    obtain ⟨-, rfl⟩ := h
    refine ⟨_, ⟨sp, rfl, rfl⟩, Located.stmt ?_ rfl⟩
    exact Located.nil.of_statements (by simp [Node.ofStmt]) rfl
  | some i =>
    obtain ⟨m, ⟨r, rule⟩, hm, hr⟩ := hfits i (by simp [calls, hi])
    simp only [hi, hm, Option.map_some, hr] at h
    obtain ⟨hbecomes, hat⟩ := replacement_becomes h
    exact ⟨_, ⟨⟨m, r, rule, hm, hr, hbecomes⟩, rfl⟩,
      Located.allFrom (mem_statements_self _) hat⟩

/-- A loop is where it was; resets and checks that are put to it are there too. -/
theorem loop_located {hd : LoopHead} {b o b' o' before first after : List (Stmt Empty)}
    {o₁ o₂ : List Origin} (hb : Located o₁ (ofStmts b') (ofStmts b))
    (ho : Located o₂ (ofStmts o') (ofStmts o)) (hbefore : AllAt sp before)
    (hfirst : AllAt sp first) (hafter : AllAt sp after) :
    Located (allFrom (.loop sp hd b o) before ++
        (.loop sp hd (first ++ b') o', .loop sp hd b o) ::
          (allFrom (.loop sp hd b o) first ++ o₁ ++ o₂) ++ allFrom (.loop sp hd b o) after)
      (ofStmts (before ++ .loop sp hd (first ++ b') o' :: after)) [.stmt (.loop sp hd b o)] := by
  have hself := mem_statements_self (.loop sp hd b o)
  have hrest : Located (o₁ ++ o₂) (ofStmts b' ++ ofStmts o') [.stmt (.loop sp hd b o)] :=
    ((hb.both ho).of_statements rfl (by simp [Node.ofStmt])).below
  have hloop : Located ((.loop sp hd (first ++ b') o', .loop sp hd b o) ::
      (allFrom (.loop sp hd b o) first ++ (o₁ ++ o₂)))
      [.stmt (.loop sp hd (first ++ b') o')] [.stmt (.loop sp hd b o)] := by
    refine Located.stmt ?_ rfl
    exact ((Located.allFrom hself hfirst).append hrest).of_statements
      (by simp [Node.ofStmt, ofStmts]) rfl
  rw [List.append_assoc (allFrom _ first)]
  exact (((Located.allFrom hself hbefore).append hloop).append
    (Located.allFrom hself hafter)).of_statements (by simp [ofStmts]) rfl

mutual

/-- The statements that a statement becomes are where they come from. -/
theorem stmt_located (env : Env) (fs : List Frame) (label : Option String) :
    ∀ (s : Stmt Empty) (laid : List LaidLoop) (out : List (Stmt Empty)),
      (∀ i ∈ s.gather package calls env, Fits i) →
      (s.expand package env).LaysOut fs label laid out →
      ∃ os, s.ComesFrom package env fs label os out ∧ Located os (ofStmts out) [.stmt s]
  | .simple sp x, laid, out, hfits, h => by
    refine simple_located (fun i hi => hfits i ?_) h
    simpa [Stmt.gather] using hi
  | .hole _ hole, _, _, _, _ => nomatch hole
  | .branch sp t b o, laid, out, hfits, h => by
    simp only [Stmt.gather, List.mem_append] at hfits
    obtain ⟨l₁, l₂, b', o', hb, ho, -, rfl⟩ := h
    obtain ⟨o₁, hb, hlb⟩ := block_located env fs none b l₁ b'
      (fun i hi => hfits i (.inr (.inl hi))) hb
    obtain ⟨o₂, ho, hlo⟩ := block_located env fs none o l₂ o'
      (fun i hi => hfits i (.inr (.inr hi))) ho
    refine ⟨_, ⟨sp, o₁, o₂, b', o', hb, ho, rfl, rfl⟩, Located.stmt (Located.below ?_) rfl⟩
    exact (hlb.both hlo).of_statements (by simp [Node.ofStmt]) (by simp [Node.ofStmt])
  | .loop sp hd b o, laid, out, hfits, h => by
    simp only [Stmt.gather, List.mem_append] at hfits
    obtain ⟨f, l₁, l₂, b', o', hb, ho, hf, -, rfl⟩ := h
    obtain ⟨o₁, hb, hlb⟩ := block_located env (f :: fs) none b l₁ b'
      (fun i hi => hfits i (.inr (.inl hi))) hb
    obtain ⟨o₂, ho, hlo⟩ := block_located env fs none o l₂ o'
      (fun i hi => hfits i (.inr (.inr hi))) ho
    refine ⟨_, ⟨f, sp, o₁, o₂, b', o', _, _, _, hb, ho, hf.label_eq, assigns_resets sp _,
      assigns_resets sp _, checksFor_checks sp _, rfl, rfl⟩, ?_⟩
    exact loop_located hlb hlo (allAt_resets _) (allAt_resets _) (allAt_checks _)
  | .function sp hd b, laid, out, hfits, h => by
    simp only [Stmt.gather, List.mem_append] at hfits
    obtain ⟨b', hb, rfl⟩ := h
    obtain ⟨o₁, hb, hlb⟩ := block_located _ [] none b laid b' (fun i hi => hfits i (.inr hi)) hb
    refine ⟨_, ⟨sp, o₁, b', hb, rfl, rfl⟩, Located.stmt (Located.below ?_) rfl⟩
    exact hlb.of_statements (by simp [Node.ofStmt]) (by simp [Node.ofStmt])
  | .klass sp hd b, laid, out, hfits, h => by
    simp only [Stmt.gather, List.mem_append] at hfits
    obtain ⟨b', hb, rfl⟩ := h
    obtain ⟨o₁, hb, hlb⟩ := block_located _ [] none b laid b' (fun i hi => hfits i (.inr hi)) hb
    refine ⟨_, ⟨sp, o₁, b', hb, rfl, rfl⟩, Located.stmt (Located.below ?_) rfl⟩
    exact hlb.of_statements (by simp [Node.ofStmt]) (by simp [Node.ofStmt])
  | .withItems sp a is b, laid, out, hfits, h => by
    simp only [Stmt.gather, List.mem_append] at hfits
    obtain ⟨b', hb, rfl⟩ := h
    obtain ⟨o₁, hb, hlb⟩ := block_located env fs none b laid b' (fun i hi => hfits i (.inr hi)) hb
    refine ⟨_, ⟨sp, o₁, b', hb, rfl, rfl⟩, Located.stmt (Located.below ?_) rfl⟩
    exact hlb.of_statements (by simp [Node.ofStmt]) (by simp [Node.ofStmt])
  | .attempt sp star b hs o f, laid, out, hfits, h => by
    simp only [Stmt.gather, List.mem_append] at hfits
    obtain ⟨l₁, l₂, l₃, l₄, b', hs', o', f', hb, hh, ho, hf, -, rfl⟩ := h
    obtain ⟨o₁, hb, hlb⟩ := block_located env fs none b l₁ b'
      (fun i hi => hfits i (.inr (.inl (.inl (.inl hi))))) hb
    obtain ⟨o₂, hh, hlh⟩ := handlers_located env fs hs l₂ hs'
      (fun i hi => hfits i (.inr (.inl (.inl (.inr hi))))) hh
    obtain ⟨o₃, ho, hlo⟩ := block_located env fs none o l₃ o'
      (fun i hi => hfits i (.inr (.inl (.inr hi)))) ho
    obtain ⟨o₄, hf, hlf⟩ := block_located env fs none f l₄ f'
      (fun i hi => hfits i (.inr (.inr hi))) hf
    refine ⟨_, ⟨sp, o₁, o₂, o₃, o₄, b', hs', o', f', hb, hh, ho, hf, rfl, rfl⟩,
      Located.stmt (Located.below ?_) rfl⟩
    exact ((hlb.both hlh).both hlo).both hlf
  | .select sp e cs, laid, out, hfits, h => by
    simp only [Stmt.gather, List.mem_append] at hfits
    obtain ⟨cs', hcs, rfl⟩ := h
    obtain ⟨o₁, hcs, hlc⟩ := cases_located env fs cs laid cs' (fun i hi => hfits i (.inr hi)) hcs
    refine ⟨_, ⟨sp, o₁, cs', hcs, rfl, rfl⟩, Located.stmt (Located.below ?_) rfl⟩
    exact hlc.of_statements (by simp [Node.ofStmt]) (by simp [Node.ofStmt])
termination_by structural s => s

theorem block_located (env : Env) (fs : List Frame) (label : Option String) :
    ∀ (b : List (Stmt Empty)) (laid : List LaidLoop) (out : List (Stmt Empty)),
      (∀ i ∈ Stmt.gatherAll package calls env b, Fits i) →
      Stmt.BlockLaysOut fs label laid out (Stmt.expandAll package env b) →
      ∃ os, Stmt.AllComeFrom package env fs label os out b ∧ Located os (ofStmts out) (ofStmts b)
  | [], _, _, _, h => by
    obtain ⟨-, rfl⟩ := h
    exact ⟨_, ⟨rfl, rfl⟩, .nil⟩
  | s :: rest, laid, out, hfits, h => by
    simp only [Stmt.gatherAll, List.mem_append] at hfits
    obtain ⟨l₁, l₂, first, more, hs, hrest, -, rfl⟩ := h
    have hlabel := SourceMeaning.label_expand package (s := s) fun i hi =>
      hfits i (.inl (Stmt.gather.eq_def package calls env s ▸ List.mem_append_left _ hi))
    rw [hlabel] at hrest
    obtain ⟨o₁, hs, hls⟩ := stmt_located env fs label s l₁ first (fun i hi => hfits i (.inl hi)) hs
    obtain ⟨o₂, hrest, hlr⟩ := block_located env fs _ rest l₂ more
      (fun i hi => hfits i (.inr hi)) hrest
    refine ⟨_, ⟨o₁, o₂, first, more, hs, hrest, rfl, rfl⟩, ?_⟩
    exact (hls.both hlr).of_statements (by simp [ofStmts]) rfl
termination_by structural b => b

theorem handlers_located (env : Env) (fs : List Frame) :
    ∀ (hs : List (Handler Empty)) (laid : List LaidLoop) (out : List (Handler Empty)),
      (∀ i ∈ Handler.gatherAll package calls env hs, Fits i) →
      Handler.LayOut fs laid out (Handler.expandAll package env hs) →
      ∃ os, Handler.AllComeFrom package env fs os out hs ∧
        Located os (out.map .handler) (hs.map .handler)
  | [], _, _, _, h => by
    obtain ⟨-, rfl⟩ := h
    exact ⟨_, ⟨rfl, rfl⟩, .nil⟩
  | .mk p t n b :: hs, laid, out, hfits, h => by
    simp only [Handler.gatherAll, List.mem_append] at hfits
    obtain ⟨l₁, l₂, b', hs', hb, hh, -, rfl⟩ := h
    obtain ⟨o₁, hb, hlb⟩ := block_located env fs none b l₁ b' (fun i hi => hfits i (.inl hi)) hb
    obtain ⟨o₂, hh, hlh⟩ := handlers_located env fs hs l₂ hs' (fun i hi => hfits i (.inr hi)) hh
    refine ⟨_, ⟨o₁, o₂, b', hs', hb, hh, rfl, rfl⟩, ?_⟩
    refine (hlb.both hlh).of_statements ?_ ?_ <;>
      simp [Node.statements_cons, Node.stmt?, Node.children]
termination_by structural hs => hs

theorem cases_located (env : Env) (fs : List Frame) :
    ∀ (cs : List (Case Empty)) (laid : List LaidLoop) (out : List (Case Empty)),
      (∀ i ∈ Case.gatherAll package calls env cs, Fits i) →
      Case.LayOut fs laid out (Case.expandAll package env cs) →
      ∃ os, Case.AllComeFrom package env fs os out cs ∧ Located os (out.map .case) (cs.map .case)
  | [], _, _, _, h => by
    obtain ⟨-, rfl⟩ := h
    exact ⟨_, ⟨rfl, rfl⟩, .nil⟩
  | .mk p g b :: cs, laid, out, hfits, h => by
    simp only [Case.gatherAll, List.mem_append] at hfits
    obtain ⟨l₁, l₂, b', cs', hb, hcs, -, rfl⟩ := h
    obtain ⟨o₁, hb, hlb⟩ := block_located env fs none b l₁ b' (fun i hi => hfits i (.inl hi)) hb
    obtain ⟨o₂, hcs, hlc⟩ := cases_located env fs cs l₂ cs' (fun i hi => hfits i (.inr hi)) hcs
    refine ⟨_, ⟨o₁, o₂, b', cs', hb, hcs, rfl, rfl⟩, ?_⟩
    refine (hlb.both hlc).of_statements ?_ ?_ <;> rw [List.map_cons, Node.statements_cons] <;>
      simp [Node.stmt?, Node.children]
termination_by structural cs => cs

end

end

/-! ## Whole modules -/

/-- **Generated code points at the user's code.** Every statement of an expanded module has exactly
the location of the statement of the source that it comes from. -/
theorem expandModule_locations {s : Settings} {file : Option String} {m : Module Empty}
    {e : Expanded} (h : expandModule s file m = .ok e) :
    ∃ os : List Origin,
      Stmt.AllComeFrom s.package (.ofTable (moduleTable s m)) [] none os e.module.body m.body ∧
      os.map Prod.fst = e.module.statements ∧
      ∀ o ∈ os, o.2 ∈ m.statements ∧ o.1.span = o.2.span := by
  have hok := succeeds_of_ok h
  obtain ⟨laid, hlaid, -⟩ := Module.lower_laysOut hok.labelled hok.writable
  have hfits := (expands_of_ok h).fits
  rw [← (expands_of_ok h).module_eq] at hlaid
  obtain ⟨os, hfrom, hlocated⟩ := block_located _ [] none m.body laid e.module.body hfits hlaid
  exact ⟨os, hfrom, hlocated.complete, hlocated.located⟩

/-- Where the statements of two loops with a jump out of both come from. -/
theorem expandModule_locations_made : ∃ (e : Expanded) (os : List Origin),
    expandModule .default none Nested.made = .ok e ∧ os.map Prod.fst = e.module.statements ∧
      os.map (fun o => o.2.span.line) = [1, 3, 3, 4, 6, 6, 6, 4, 4, 9] := by
  have hlines : ((expandModule .default none Nested.made).toOption.map fun e =>
      e.module.statements.map fun x => x.span.line) = some [1, 3, 3, 4, 6, 6, 6, 4, 4, 9] := by
    with_unfolding_all decide
  obtain ⟨e, he⟩ := Nested.made_expands
  obtain ⟨os, -, hcomplete, hlocated⟩ := expandModule_locations he
  refine ⟨e, os, he, hcomplete, ?_⟩
  have hsame : os.map (fun o => o.2.span.line) = (os.map Prod.fst).map fun x => x.span.line := by
    rw [List.map_map]
    exact List.map_congr_left fun o ho => congrArg Span.line (hlocated o ho).2.symm
  rw [hsame, hcomplete]
  simpa [he, Except.toOption] using hlines

end JumpMacros
