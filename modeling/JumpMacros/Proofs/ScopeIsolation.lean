import JumpMacros.Proofs.AlikeExpansions
import JumpMacros.Proofs.FlagRenaming
import JumpMacros.Proofs.MeaningPreservation

/-!
# Scopes do not interfere

**Theorem (`expandModule_scopes_apart`).** If two modules differ in the body of one function alone,
their expansions are the same outside of that body up to a permutation of the flags, and so are the
records. If they differ in the body of one class, and the definitions in it are the same, then what
these definitions expand to is the same too.

An `Exchange` takes the two modules to two trees with the same labels, and a `Comparison` takes
these to two lowered trees with corresponding flags. Only the flags connect the scopes: they are new
to the whole module, so a name in one scope can change a flag in another.
-/

namespace JumpMacros

open Node (NamedIn ofStmts)

/-! ## Definitions in a scope -/

section

variable {Hole : Type}

mutual

/-- The definitions in a statement, in source order. Definitions inside of others are not listed. -/
def Stmt.definitions : Stmt Hole → List (Stmt Hole)
  | .simple _ _ => []
  | .hole _ _ => []
  | .branch _ _ b o => Stmt.allDefinitions b ++ Stmt.allDefinitions o
  | .loop _ _ b o => Stmt.allDefinitions b ++ Stmt.allDefinitions o
  | .function sp h b => [.function sp h b]
  | .klass sp h b => [.klass sp h b]
  | .withItems _ _ _ b => Stmt.allDefinitions b
  | .attempt _ _ b hs o f => Stmt.allDefinitions b ++ (Handler.definitions hs ++
      (Stmt.allDefinitions o ++ Stmt.allDefinitions f))
  | .select _ _ cs => Case.definitions cs

/-- The definitions of a scope with the given body. -/
def Stmt.allDefinitions : List (Stmt Hole) → List (Stmt Hole)
  | [] => []
  | s :: ss => s.definitions ++ Stmt.allDefinitions ss

def Handler.definitions : List (Handler Hole) → List (Stmt Hole)
  | [] => []
  | .mk _ _ _ b :: hs => Stmt.allDefinitions b ++ Handler.definitions hs

def Case.definitions : List (Case Hole) → List (Stmt Hole)
  | [] => []
  | .mk _ _ b :: cs => Stmt.allDefinitions b ++ Case.definitions cs

end

theorem Stmt.allDefinitions_append (ss ts : List (Stmt Hole)) :
    allDefinitions (ss ++ ts) = allDefinitions ss ++ allDefinitions ts := by
  induction ss with
  | nil => rfl
  | cons s ss ih => simp [allDefinitions, ih]

mutual

theorem Stmt.isDefinition_of_mem : ∀ {s d : Stmt Hole}, d ∈ s.definitions → d.isDefinition = true
  | .simple _ _, _, h => nomatch h
  | .hole _ _, _, h => nomatch h
  | .branch _ _ _ _, _, h =>
    (List.mem_append.1 h).elim Stmt.isDefinition_of_mem_all Stmt.isDefinition_of_mem_all
  | .loop _ _ _ _, _, h =>
    (List.mem_append.1 h).elim Stmt.isDefinition_of_mem_all Stmt.isDefinition_of_mem_all
  | .function _ _ _, _, h => by
    obtain rfl := List.mem_singleton.1 h
    rfl
  | .klass _ _ _, _, h => by
    obtain rfl := List.mem_singleton.1 h
    rfl
  | .withItems _ _ _ _, _, h => Stmt.isDefinition_of_mem_all h
  | .attempt _ _ _ _ _ _, _, h => by
    simp only [Stmt.definitions, List.mem_append] at h
    rcases h with h | h | h | h
    · exact Stmt.isDefinition_of_mem_all h
    · exact Handler.isDefinition_of_mem h
    · exact Stmt.isDefinition_of_mem_all h
    · exact Stmt.isDefinition_of_mem_all h
  | .select _ _ _, _, h => Case.isDefinition_of_mem h

theorem Stmt.isDefinition_of_mem_all : ∀ {b : List (Stmt Hole)} {d : Stmt Hole},
    d ∈ Stmt.allDefinitions b → d.isDefinition = true
  | [], _, h => nomatch h
  | _ :: _, _, h =>
    (List.mem_append.1 h).elim Stmt.isDefinition_of_mem Stmt.isDefinition_of_mem_all

theorem Handler.isDefinition_of_mem : ∀ {hs : List (Handler Hole)} {d : Stmt Hole},
    d ∈ Handler.definitions hs → d.isDefinition = true
  | [], _, h => nomatch h
  | .mk _ _ _ _ :: _, _, h =>
    (List.mem_append.1 h).elim Stmt.isDefinition_of_mem_all Handler.isDefinition_of_mem

theorem Case.isDefinition_of_mem : ∀ {cs : List (Case Hole)} {d : Stmt Hole},
    d ∈ Case.definitions cs → d.isDefinition = true
  | [], _, h => nomatch h
  | .mk _ _ _ :: _, _, h =>
    (List.mem_append.1 h).elim Stmt.isDefinition_of_mem_all Case.isDefinition_of_mem

end

end

/-! ### Expanding them -/

section

variable {package : String} {env env' : Env}

/-- A definition sees what is visible in nested scopes, and no more. -/
theorem definition_of_inner (file : Option String) (h : env'.inner = env.inner) {s : Stmt Empty}
    (hs : s.isDefinition = true) : s.expand package env' = s.expand package env ∧
      s.gather package (Stmt.ownRecords file) env' =
        s.gather package (Stmt.ownRecords file) env := by
  cases s with
  | function sp hd b =>
    have henv : env'.enterFunction package hd b = env.enterFunction package hd b :=
      congrArg (fun t => Env.ofTable (scopeTable package b t hd.params.names)) h
    rw [Stmt.expand, Stmt.expand, Stmt.gather, Stmt.gather, henv]
    exact ⟨rfl, rfl⟩
  | klass sp hd b =>
    have henv : env'.enterClass package b = env.enterClass package b :=
      congrArg (fun t => Env.mk (scopeTable package b t []) t) h
    rw [Stmt.expand, Stmt.expand, Stmt.gather, Stmt.gather, henv]
    exact ⟨rfl, rfl⟩
  | _ => cases hs

theorem definitions_of_inner (file : Option String) (h : env'.inner = env.inner)
    {ss : List (Stmt Empty)} (hs : ∀ s ∈ ss, s.isDefinition = true) :
    Stmt.expandAll package env' ss = Stmt.expandAll package env ss ∧
      recordsIn package file env' ss = recordsIn package file env ss := by
  induction ss with
  | nil => exact ⟨rfl, rfl⟩
  | cons s ss ih =>
    obtain ⟨hfirst, rfirst⟩ := definition_of_inner file h (hs s List.mem_cons_self)
    obtain ⟨hmore, rmore⟩ := ih fun t ht => hs t (List.mem_cons_of_mem _ ht)
    rw [Stmt.expandAll, Stmt.expandAll, hfirst, hmore]
    unfold recordsIn at rmore ⊢
    rw [Stmt.gatherAll, Stmt.gatherAll, rfirst, rmore]
    exact ⟨rfl, rfl⟩

theorem expandAll_append (ss ts : List (Stmt Empty)) : Stmt.expandAll package env (ss ++ ts) =
    Stmt.expandAll package env ss ++ Stmt.expandAll package env ts := by
  induction ss with
  | nil => rfl
  | cons s ss ih => simp [Stmt.expandAll, ih]

mutual

/-- The definitions of an expanded statement are those of the statement, expanded. -/
theorem definitions_expand (env : Env) : ∀ s : Stmt Empty,
    (s.expand package env).definitions = Stmt.expandAll package env s.definitions
  | .simple sp x => by
    unfold Stmt.expand Simple.expand
    split
    · rfl
    · split
      · rename_i r _ _
        cases r with
        | loopLabel l => rfl
        | guarded t x => cases x <;> rfl
      · rfl
  | .hole _ h => nomatch h
  | .branch _ _ b o => by
    simp only [Stmt.expand, Stmt.definitions, expandAll_append, allDefinitions_expand env b,
      allDefinitions_expand env o]
  | .loop _ _ b o => by
    simp only [Stmt.expand, Stmt.definitions, expandAll_append, allDefinitions_expand env b,
      allDefinitions_expand env o]
  | .function _ _ _ => rfl
  | .klass _ _ _ => rfl
  | .withItems _ _ _ b => allDefinitions_expand env b
  | .attempt _ _ b hs o f => by
    simp only [Stmt.expand, Stmt.definitions, expandAll_append, allDefinitions_expand env b,
      handlers_definitions_expand env hs, allDefinitions_expand env o, allDefinitions_expand env f]
  | .select _ _ cs => cases_definitions_expand env cs

theorem allDefinitions_expand (env : Env) : ∀ b : List (Stmt Empty),
    Stmt.allDefinitions (Stmt.expandAll package env b) =
      Stmt.expandAll package env (Stmt.allDefinitions b)
  | [] => rfl
  | s :: ss => by
    simp only [Stmt.expandAll, Stmt.allDefinitions, expandAll_append, definitions_expand env s,
      allDefinitions_expand env ss]

theorem handlers_definitions_expand (env : Env) : ∀ hs : List (Handler Empty),
    Handler.definitions (Handler.expandAll package env hs) =
      Stmt.expandAll package env (Handler.definitions hs)
  | [] => rfl
  | .mk _ _ _ b :: hs => by
    simp only [Handler.expandAll, Handler.definitions, expandAll_append,
      allDefinitions_expand env b, handlers_definitions_expand env hs]

theorem cases_definitions_expand (env : Env) : ∀ cs : List (Case Empty),
    Case.definitions (Case.expandAll package env cs) =
      Stmt.expandAll package env (Case.definitions cs)
  | [] => rfl
  | .mk _ _ b :: cs => by
    simp only [Case.expandAll, Case.definitions, expandAll_append, allDefinitions_expand env b,
      cases_definitions_expand env cs]

end

end

/-! ### Lowering them -/

/-- Some definitions with names of the user, and what is made of them. Their flags are among those
of the given loops. -/
structure DefinitionsSettle (users : List String) (loops : List Frame) (out : List (Stmt Empty))
    (ss : List (Stmt Placeholder)) : Prop where
  definitions : ∀ s ∈ ss, s.isDefinition = true
  named : NamedIn users (ofStmts ss)
  settles : ∃ loops', (flagsOf loops').Sublist (flagsOf loops) ∧
    Stmt.BlockSettlesTo [] none loops' out ss

namespace DefinitionsSettle

variable {users : List String} {loops l₁ l₂ : List Frame} {out out' : List (Stmt Empty)}
  {ss ts : List (Stmt Placeholder)}

theorem nil : DefinitionsSettle users loops [] [] :=
  ⟨by simp, Node.every_nil, [], List.nil_sublist _, rfl, rfl⟩

theorem mono (h : DefinitionsSettle users l₁ out ss)
    (hl : (flagsOf l₁).Sublist (flagsOf l₂)) : DefinitionsSettle users l₂ out ss :=
  let ⟨hd, hn, loops', hsub, hs⟩ := h
  ⟨hd, hn, loops', hsub.trans hl, hs⟩

/-- A definition ends no block with a label, so blocks of definitions can be joined. -/
theorem blockSettlesTo_append (hd : ∀ s ∈ ss, s.isDefinition = true)
    (h : Stmt.BlockSettlesTo [] none l₁ out ss) (h' : Stmt.BlockSettlesTo [] none l₂ out' ts) :
    Stmt.BlockSettlesTo [] none (l₁ ++ l₂) (out ++ out') (ss ++ ts) := by
  induction ss generalizing l₁ out with
  | nil =>
    obtain ⟨rfl, rfl⟩ := h
    exact h'
  | cons s ss ih =>
    obtain ⟨l, l', first, more, hs, hmore, rfl, rfl⟩ := h
    have hlabel := labelFrom_of_isDefinition (hd s List.mem_cons_self)
    rw [hlabel] at hmore
    have hjoined := ih (fun t ht => hd t (List.mem_cons_of_mem _ ht)) hmore
    exact ⟨l, l' ++ l₂, first, more ++ out', hs, hlabel ▸ hjoined, List.append_assoc ..,
      List.append_assoc ..⟩

theorem append (h : DefinitionsSettle users l₁ out ss) (h' : DefinitionsSettle users l₂ out' ts) :
    DefinitionsSettle users (l₁ ++ l₂) (out ++ out') (ss ++ ts) := by
  obtain ⟨hd, hn, k₁, hsub, hs⟩ := h
  obtain ⟨hd', hn', k₂, hsub', hs'⟩ := h'
  refine ⟨List.forall_mem_append.2 ⟨hd, hd'⟩, ?_, k₁ ++ k₂, ?_, blockSettlesTo_append hd hs hs'⟩
  · rw [ofStmts, List.map_append]
    exact Node.every_append.2 ⟨hn, hn'⟩
  · simpa [flagsOf] using hsub.append hsub'

end DefinitionsSettle

section

variable {users : List String}

theorem allDefinitions_of_jump {fs : List Frame} {sp : Span} {k : JumpKind} {l : Expr}
    {out : List (Stmt Empty)} (h : JumpLowersTo fs sp k l out) : Stmt.allDefinitions out = [] := by
  have hplain : Stmt.allDefinitions [Lower.plainJump sp k] = [] := by cases k <;> rfl
  unfold JumpLowersTo at h
  split at h
  · exact h ▸ hplain
  · split at h
    · exact h ▸ hplain
    · obtain ⟨x, -, rfl⟩ := h
      rfl

theorem allDefinitions_assemble (sp : Span) (h : LoopHead) (b o : List (Stmt Empty)) (f : Frame) :
    Stmt.allDefinitions (Lower.assemble sp h b o f) =
      Stmt.allDefinitions b ++ Stmt.allDefinitions o := by
  have hresets (x : Option String) : Stmt.allDefinitions (resets sp x) = [] := by
    cases x <;> rfl
  have hchecks (es : List Exit) : Stmt.allDefinitions (es.map (Lower.check sp)) = [] := by
    induction es with
    | nil => rfl
    | cons e es ih =>
      have hfirst : (Lower.check sp e).definitions = [] := by
        obtain ⟨x, k⟩ := e
        cases k <;> rfl
      rw [List.map_cons, Stmt.allDefinitions, hfirst, ih]
      rfl
  rw [assemble_eq, Stmt.allDefinitions_append, hresets, Stmt.allDefinitions, hchecks,
    Stmt.definitions, Stmt.allDefinitions_append, hresets]
  simp

mutual

/-- The definitions in a statement are lowered as if nothing were around them. -/
theorem definitions_settle {fs loops : List Frame} {n : Option String} {out : List (Stmt Empty)} :
    ∀ {s : Stmt Placeholder}, s.SettlesTo fs n loops out → NamedIn users [.stmt s] →
      DefinitionsSettle users loops (Stmt.allDefinitions out) s.definitions
  | .simple _ _, ⟨_, ho⟩, _ => ho ▸ .nil
  | .hole _ (.jump _ _), ⟨_, ho⟩, _ => by
    rw [allDefinitions_of_jump ho]
    exact .nil
  | .hole _ (.loopLabel _), ⟨_, ho⟩, _ => ho ▸ .nil
  | .branch _ _ _ _, ⟨_, _, _, _, hb, ho, hl, hx⟩, hu => by
    obtain ⟨-, -, hub, huo⟩ := Node.every_branch.1 hu
    subst hl hx
    simpa [Stmt.allDefinitions, Stmt.definitions] using
      (allDefinitions_settle hb hub).append (allDefinitions_settle ho huo)
  | .loop _ _ _ _, ⟨_, _, _, _, _, hb, ho, _, hl, hx⟩, hu => by
    obtain ⟨-, -, hub, huo⟩ := Node.every_loop.1 hu
    subst hl hx
    rw [allDefinitions_assemble]
    refine ((allDefinitions_settle hb hub).append (allDefinitions_settle ho huo)).mono ?_
    rw [List.cons_append, flagsOf_cons]
    exact List.sublist_append_right _ _
  | .function _ _ _, ⟨_, hb, hx⟩, hu => by
    subst hx
    refine ⟨by simp [Stmt.definitions, Stmt.isDefinition], hu, _, .refl _, ?_⟩
    exact ⟨_, [], _, [], ⟨_, hb, rfl⟩, ⟨rfl, rfl⟩, (List.append_nil _).symm, rfl⟩
  | .klass _ _ _, ⟨_, hb, hx⟩, hu => by
    subst hx
    refine ⟨by simp [Stmt.definitions, Stmt.isDefinition], hu, _, .refl _, ?_⟩
    exact ⟨_, [], _, [], ⟨_, hb, rfl⟩, ⟨rfl, rfl⟩, (List.append_nil _).symm, rfl⟩
  | .withItems _ _ _ _, ⟨_, hb, hx⟩, hu => by
    subst hx
    simpa [Stmt.allDefinitions, Stmt.definitions] using
      allDefinitions_settle hb (Node.every_withItems.1 hu).2.2
  | .attempt _ _ _ _ _ _, ⟨_, _, _, _, _, _, _, _, hb, hh, ho, hf, hl, hx⟩, hu => by
    obtain ⟨-, hub, huh, huo, huf⟩ := Node.every_attempt.1 hu
    subst hl hx
    simpa [Stmt.allDefinitions, Stmt.definitions] using
      (allDefinitions_settle hb hub).append ((handlers_definitions_settle hh huh).append
        ((allDefinitions_settle ho huo).append (allDefinitions_settle hf huf)))
  | .select _ _ _, ⟨_, hc, hx⟩, hu => by
    subst hx
    simpa [Stmt.allDefinitions, Stmt.definitions] using
      cases_definitions_settle hc (Node.every_select.1 hu).2.2

theorem allDefinitions_settle {fs loops : List Frame} {n : Option String}
    {out : List (Stmt Empty)} : ∀ {b : List (Stmt Placeholder)},
      Stmt.BlockSettlesTo fs n loops out b → NamedIn users (ofStmts b) →
      DefinitionsSettle users loops (Stmt.allDefinitions out) (Stmt.allDefinitions b)
  | [], ⟨_, ho⟩, _ => ho ▸ .nil
  | _ :: _, ⟨_, _, _, _, hs, hmore, hl, hx⟩, hu => by
    obtain ⟨hus, hur⟩ := Node.every_ofStmts_cons.1 hu
    subst hl hx
    rw [Stmt.allDefinitions_append]
    exact (definitions_settle hs hus).append (allDefinitions_settle hmore hur)

theorem handlers_definitions_settle {fs loops : List Frame} {out : List (Handler Empty)} :
    ∀ {hs : List (Handler Placeholder)}, Handler.SettleTo fs loops out hs →
      NamedIn users (hs.map .handler) →
      DefinitionsSettle users loops (Handler.definitions out) (Handler.definitions hs)
  | [], ⟨_, ho⟩, _ => ho ▸ .nil
  | .mk _ _ _ _ :: _, ⟨_, _, _, _, hb, hh, hl, hx⟩, hu => by
    obtain ⟨-, -, hub, huh⟩ := Node.every_handlers.1 hu
    subst hl hx
    exact (allDefinitions_settle hb hub).append (handlers_definitions_settle hh huh)

theorem cases_definitions_settle {fs loops : List Frame} {out : List (Case Empty)} :
    ∀ {cs : List (Case Placeholder)}, Case.SettleTo fs loops out cs →
      NamedIn users (cs.map .case) →
      DefinitionsSettle users loops (Case.definitions out) (Case.definitions cs)
  | [], ⟨_, ho⟩, _ => ho ▸ .nil
  | .mk _ _ _ :: _, ⟨_, _, _, _, hb, hc, hl, hx⟩, hu => by
    obtain ⟨-, -, -, hub, huc⟩ := Node.every_cases.1 hu
    subst hl hx
    exact (allDefinitions_settle hb hub).append (cases_definitions_settle hc huc)

end

end

/-! ## From exchanged definitions to their lowered forms -/

namespace Exchange

variable {package : String} {file : Option String}

/-- What is exchanged are definitions, and what their expansions are lowered to is related once the
flags are renamed. -/
structure Lowers (c : Exchange package file) (users users' : List String)
    (apartAfter : (String → String) → Stmt Empty → Stmt Empty → Prop) : Prop where
  definitions : ∀ {s t}, c.expanded s t → s.isDefinition = true ∧ t.isDefinition = true
  settles : ∀ {s t fs gs n n' loops loops' out out'}, c.expanded s t → s.SettlesTo fs n loops out →
    t.SettlesTo gs n' loops' out' → NamedIn users [.stmt s] → NamedIn users' [.stmt t] →
    Renamable users users' loops loops' fun σ =>
      ∃ s' t', out = [s'] ∧ out' = [t'] ∧ apartAfter σ s' t'

/-- Such an exchange leads to a comparison of expanded modules, with the same labels. -/
def Lowers.comparison {c : Exchange package file} {users users' : List String}
    {apartAfter : (String → String) → Stmt Empty → Stmt Empty → Prop}
    (h : c.Lowers users users' apartAfter) : Comparison where
  users := users
  users' := users'
  labels := .univ
  ren := id
  span := c.span
  apart := c.expanded
  apartAfter := apartAfter
  injOn := Set.injOn_id _
  start_eq := c.start_eq
  definitions := h.definitions
  settles := h.settles

variable {span : Span → Span → Prop} (hspan : ∀ {sp sp'}, span sp sp' → sp'.start = sp.start)

/-- Nothing is exchanged. -/
def nothing : Exchange package file where
  span := span
  apart _ _ := False
  expanded _ _ := False
  records _ := []
  records' _ := []
  start_eq := hspan
  bindings_eq := False.elim
  expands _ := False.elim

theorem nothing_lowers (users users' : List String) :
    (nothing hspan : Exchange package file).Lowers users users' fun _ _ _ => False where
  definitions := False.elim
  settles := False.elim

section

variable (sp₁ sp₂ : Span) (hd : FunctionHead) (b₁ b₂ : List (Stmt Empty))

/-- A function gets another body. -/
def function : Exchange package file where
  span := span
  apart s t := s = .function sp₁ hd b₁ ∧ t = .function sp₂ hd b₂
  expanded s t := ∃ x y, s = .function sp₁ hd x ∧ t = .function sp₂ hd y
  records env := recordsIn package file (env.enterFunction package hd b₁) b₁
  records' env := recordsIn package file (env.enterFunction package hd b₂) b₂
  start_eq := hspan
  bindings_eq := by
    rintro _ _ ⟨rfl, rfl⟩
    rw [bindingsIn_function, bindingsIn_function]
  expands := by
    rintro _ _ env ⟨rfl, rfl⟩
    exact ⟨⟨_, _, rfl, rfl⟩, rfl, rfl⟩

theorem function_lowers (users users' : List String) :
    (function hspan sp₁ sp₂ hd b₁ b₂ : Exchange package file).Lowers users users' fun _ s t =>
      ∃ x y, s = .function sp₁ hd x ∧ t = .function sp₂ hd y where
  definitions := by
    rintro _ _ ⟨x, y, rfl, rfl⟩
    exact ⟨rfl, rfl⟩
  settles := by
    rintro _ _ _ _ _ _ _ _ _ _ ⟨x, y, rfl, rfl⟩ ⟨x', -, rfl⟩ ⟨y', -, rfl⟩ - -
    exact .pure fun _ _ => ⟨_, _, rfl, rfl, x', y', rfl, rfl⟩

end

section

variable (sp₁ sp₂ : Span) (hd : ClassHead) {b₁ b₂ : List (Stmt Empty)}
  (hdefs : Stmt.AllLike (.exact span fun _ _ => False) (Stmt.allDefinitions b₁)
    (Stmt.allDefinitions b₂))

/-- The definitions in a class expand as they would right outside of it. -/
theorem allDefinitions_in_class (package : String) (file : Option String) (env : Env)
    (b : List (Stmt Empty)) :
    Stmt.allDefinitions (Stmt.expandAll package (env.enterClass package b) b) =
        Stmt.expandAll package env (Stmt.allDefinitions b) ∧
      recordsIn package file (env.enterClass package b) (Stmt.allDefinitions b) =
        recordsIn package file env (Stmt.allDefinitions b) := by
  have hinner : (env.enterClass package b).inner = env.inner := rfl
  rw [allDefinitions_expand]
  exact definitions_of_inner file hinner fun s hs => Stmt.isDefinition_of_mem_all hs

/-- A class gets another body with the same definitions. -/
def klass : Exchange package file where
  span := span
  apart s t := s = .klass sp₁ hd b₁ ∧ t = .klass sp₂ hd b₂
  expanded s t := ∃ x y, s = .klass sp₁ hd x ∧ t = .klass sp₂ hd y ∧
    Stmt.AllLike (.relabelled .univ id span fun _ _ => False) (Stmt.allDefinitions x)
      (Stmt.allDefinitions y)
  records env := recordsIn package file (env.enterClass package b₁) b₁
  records' env := recordsIn package file (env.enterClass package b₂) b₂
  start_eq := hspan
  bindings_eq := by
    rintro _ _ ⟨rfl, rfl⟩
    rw [bindingsIn_klass, bindingsIn_klass]
  expands := by
    rintro _ _ env ⟨rfl, rfl⟩
    refine ⟨⟨_, _, rfl, rfl, ?_⟩, rfl, rfl⟩
    rw [(allDefinitions_in_class package file env b₁).1,
      (allDefinitions_in_class package file env b₂).1]
    exact ((nothing hspan : Exchange package file).block_expands env hdefs).1

theorem klass_lowers (users users' : List String) :
    (klass hspan sp₁ sp₂ hd hdefs : Exchange package file).Lowers users users' fun σ s t =>
      ∃ x y, s = .klass sp₁ hd x ∧ t = .klass sp₂ hd y ∧
        Stmt.AllLike (.reflagged σ span fun _ _ => False) (Stmt.allDefinitions x)
          (Stmt.allDefinitions y) where
  definitions := by
    rintro _ _ ⟨x, y, rfl, rfl, -⟩
    exact ⟨rfl, rfl⟩
  settles := by
    rintro _ _ _ _ _ _ _ _ _ _ ⟨x, y, rfl, rfl, halike⟩ ⟨x', hx, rfl⟩ ⟨y', hy, rfl⟩ hu hu'
    obtain ⟨-, hn, l, hl, hset⟩ := allDefinitions_settle hx (Node.every_klass.1 hu).2.2
    obtain ⟨-, hn', l', hl', hset'⟩ := allDefinitions_settle hy (Node.every_klass.1 hu').2.2
    let c := ((nothing_lowers hspan users users' :
      (nothing hspan : Exchange package file).Lowers users users' _)).comparison
    have hmatch := Comparison.block_reflagged (c := c) .none halike hset hset' hn hn'
    refine (Renamable.imp hmatch fun σ _ _ h => ?_).sublist hl hl'
    exact ⟨_, _, rfl, rfl, x', y', rfl, rfl, h .nil⟩

end

end Exchange

/-! ## Whole modules -/

/-- The records of an expansion are those of the invocations in the module. -/
theorem records_of_ok {s : Settings} {file : Option String} {m : Module Empty} {e : Expanded}
    (h : expandModule s file m = .ok e) :
    e.records = recordsIn s.package file (.ofTable (moduleTable s m)) m.body := by
  rw [← records_of_invocations]
  unfold expandModule at h
  dsimp only at h
  repeat' split at h
  all_goals cases h
  rfl

/-- **Modules with exchanged definitions expand alike**: the trees are the same up to a permutation
of the flags, and the records are the same, but for what is exchanged. -/
theorem Exchange.expandModule_alike {s : Settings} {file : Option String} {m₁ m₂ : Module Empty}
    {e₁ e₂ : Expanded} (h₁ : expandModule s file m₁ = .ok e₁)
    (h₂ : expandModule s file m₂ = .ok e₂) {c : Exchange s.package file}
    {apartAfter : (String → String) → Stmt Empty → Stmt Empty → Prop}
    (hc : c.Lowers (m₁.userNames s) (m₂.userNames s) apartAfter)
    (h : Stmt.AllLike c.before m₁.body m₂.body) :
    (∃ σ : Equiv.Perm String, (∀ x ∈ m₁.userNames s, x ∈ m₂.userNames s → σ x = x) ∧
      Stmt.AllLike (.reflagged σ c.span (apartAfter σ)) e₁.module.body e₂.module.body) ∧
    SameBut c.records c.records' e₁.records e₂.records := by
  have htable : moduleTable s m₂ = moduleTable s m₁ := scopeTable_eq h _ _
  obtain ⟨htrees, hrecords⟩ := c.block_expands (.ofTable (moduleTable s m₁)) h
  rw [(succeeds_of_ok h₁).module_eq, (succeeds_of_ok h₂).module_eq, records_of_ok h₁,
    records_of_ok h₂, htable]
  refine ⟨hc.comparison.exists_reflagging s file ?_ rfl rfl, hrecords⟩
  rwa [Module.expand, Module.expand, htable]

/-- **Scopes do not interfere.** If two modules differ in the body of one function alone, their
expansions are the same outside of it, up to a permutation of names that moves no name of both
modules, and so are the records. If they differ in the body of one class, but not in the definitions
there, this holds of these definitions too. -/
theorem expandModule_scopes_apart {s : Settings} {file : Option String} {m₁ m₂ : Module Empty}
    {e₁ e₂ : Expanded} (h₁ : expandModule s file m₁ = .ok e₁)
    (h₂ : expandModule s file m₂ = .ok e₂) {span : Span → Span → Prop}
    (hspan : ∀ {sp sp'}, span sp sp' → sp'.start = sp.start) :
    (∀ sp₁ sp₂ hd b₁ b₂,
      Stmt.AllLike (.exact span fun s t => s = .function sp₁ hd b₁ ∧ t = .function sp₂ hd b₂)
        m₁.body m₂.body →
      (∃ σ : Equiv.Perm String, (∀ x ∈ m₁.userNames s, x ∈ m₂.userNames s → σ x = x) ∧
        Stmt.AllLike
          (.reflagged σ span fun s t => ∃ x y, s = .function sp₁ hd x ∧ t = .function sp₂ hd y)
          e₁.module.body e₂.module.body) ∧
      SameBut (fun env => recordsIn s.package file (env.enterFunction s.package hd b₁) b₁)
        (fun env => recordsIn s.package file (env.enterFunction s.package hd b₂) b₂)
        e₁.records e₂.records) ∧
    (∀ sp₁ sp₂ hd b₁ b₂,
      Stmt.AllLike (.exact span fun _ _ => False) (Stmt.allDefinitions b₁)
        (Stmt.allDefinitions b₂) →
      Stmt.AllLike (.exact span fun s t => s = .klass sp₁ hd b₁ ∧ t = .klass sp₂ hd b₂)
        m₁.body m₂.body →
      (∃ σ : Equiv.Perm String, (∀ x ∈ m₁.userNames s, x ∈ m₂.userNames s → σ x = x) ∧
        Stmt.AllLike
          (.reflagged σ span fun s t => ∃ x y, s = .klass sp₁ hd x ∧ t = .klass sp₂ hd y ∧
            Stmt.AllLike (.reflagged σ span fun _ _ => False) (Stmt.allDefinitions x)
              (Stmt.allDefinitions y))
          e₁.module.body e₂.module.body) ∧
      SameBut (fun env => recordsIn s.package file (env.enterClass s.package b₁) b₁)
        (fun env => recordsIn s.package file (env.enterClass s.package b₂) b₂)
        e₁.records e₂.records ∧
      ∀ env : Env,
        recordsIn s.package file (env.enterClass s.package b₁) (Stmt.allDefinitions b₁) =
          recordsIn s.package file (env.enterClass s.package b₂) (Stmt.allDefinitions b₂)) := by
  refine ⟨fun sp₁ sp₂ hd b₁ b₂ h => ?_, fun sp₁ sp₂ hd b₁ b₂ hdefs h => ?_⟩
  · exact Exchange.expandModule_alike h₁ h₂ (Exchange.function_lowers hspan sp₁ sp₂ hd b₁ b₂ _ _) h
  · obtain ⟨htrees, hrecords⟩ := Exchange.expandModule_alike h₁ h₂
      (Exchange.klass_lowers hspan sp₁ sp₂ hd hdefs _ _) h
    refine ⟨htrees, hrecords, fun env => ?_⟩
    rw [(Exchange.allDefinitions_in_class s.package file env b₁).2,
      (Exchange.allDefinitions_in_class s.package file env b₂).2]
    exact SameBut.eq_of_empty ((Exchange.nothing hspan).block_expands env hdefs).2

namespace Nested

def helperHead : FunctionHead := ⟨false, "helper", ⟨[], [], none, [], none⟩, [], none, 1⟩

/-- A function before the two loops. -/
def beside (b : List (Stmt Empty)) : Module Empty :=
  ⟨.function (line 0) helperHead b :: made.body⟩

/-- A body that uses the name that the flag of the loops would get. -/
def usingFlag : List (Stmt Empty) := [.simple (line 0) (call "_flow_break_outer" [])]

theorem beside_pass_expands : ∃ e, expandModule .default none (beside [.simple (line 0) .pass]) =
    .ok e :=
  ok_of_toOption (by with_unfolding_all decide)

theorem beside_usingFlag_expands : ∃ e, expandModule .default none (beside usingFlag) = .ok e :=
  ok_of_toOption (by with_unfolding_all decide)

end Nested

/-- The loops are expanded alike, also if the function uses the name of their flag. -/
theorem expandModule_scopes_apart_beside : ∃ e₁ e₂,
    expandModule .default none (Nested.beside [.simple (Nested.line 0) .pass]) = .ok e₁ ∧
    expandModule .default none (Nested.beside Nested.usingFlag) = .ok e₂ ∧
    ∃ σ : Equiv.Perm String, σ "f" = "f" ∧
      Stmt.AllLike (.reflagged σ (· = ·) fun s t => ∃ x y,
        s = .function (Nested.line 0) Nested.helperHead x ∧
        t = .function (Nested.line 0) Nested.helperHead y) e₁.module.body e₂.module.body := by
  obtain ⟨e₁, h₁⟩ := Nested.beside_pass_expands
  obtain ⟨e₂, h₂⟩ := Nested.beside_usingFlag_expands
  have hspan {sp sp' : Span} (h : sp = sp') : sp'.start = sp.start := congrArg Span.start h.symm
  obtain ⟨hfunction, -⟩ := expandModule_scopes_apart h₁ h₂ hspan
  obtain ⟨⟨σ, hσ, halike⟩, -⟩ := hfunction _ _ _ _ _ (Stmt.allLike_cons (.inl ⟨rfl, rfl⟩)
    (Stmt.allLike_refl (Likeness.exact_refl (fun _ => rfl) _) Nested.made.body))
  exact ⟨e₁, e₂, h₁, h₂, σ,
    hσ "f" (by with_unfolding_all decide) (by with_unfolding_all decide), halike⟩

end JumpMacros
