import JumpMacros.Proofs.JoinedNames
import JumpMacros.Proofs.ReadTrees
import JumpMacros.Tree.Names

/-!
# Flags and the names of the user

`Node.Mentions` lists the positions in which a node reads or binds a name, and `MentionedIn` says
which names some statements mention, and in the body of which class. Lowering collects names in
another way (`Node.ownNames`); the two agree on identifiers. A variable is the name as it is
spelled, unless the name is a private one of a class (`Occurs`).

**Theorem (`expandModule_flags_apart`).** No flag of an expanded module is a name that is mentioned
in it before lowering, and no two jumps to different loops, or of different kinds, have a flag in
common. So if no private name stands for a flag, no statement of the user reads or binds a flag, and
no generated statement reads or binds a variable of the user.

**Where it fails (`privateName_captured`).** Lowering compares names as they are spelled. A private
name of a class is another variable than it is spelled, and this can be a flag.
-/

namespace JumpMacros

open Text (rootOf isIdentifier)
open Node (EveryIn NamedIn Stands every_nil every_ofStmts_cons ofStmts ofExprs)

/-! ## Where names stand -/

/-- `n.Mentions x` if the node `n` itself reads or binds the name `x`. What an import of all names
binds is not known. -/
inductive Node.Mentions {Hole : Type} : Node Hole → String → Prop
  | name {p : Position} {x : String} {u : NameUse} : Mentions (.expr (.name p x u)) x
  | lambdaParam {p : Position} {ps : Params} {b : Expr} {q : Param} (h : q ∈ ps.toList) :
    Mentions (.expr (.lambda p ps b)) q.name
  | function {sp : Span} {h : FunctionHead} {b : List (Stmt Hole)} :
    Mentions (.stmt (.function sp h b)) h.name
  | param {sp : Span} {h : FunctionHead} {b : List (Stmt Hole)} {q : Param}
    (hq : q ∈ h.params.toList) : Mentions (.stmt (.function sp h b)) q.name
  | klass {sp : Span} {h : ClassHead} {b : List (Stmt Hole)} :
    Mentions (.stmt (.klass sp h b)) h.name
  | imports {sp : Span} {as : List Alias} {a : Alias} (h : a ∈ as) :
    Mentions (.stmt (.simple sp (.imports as))) (a.asName.getD (rootOf a.name))
  | importsFrom {sp : Span} {path : Option String} {as : List Alias} {level : Nat} {a : Alias}
    (h : a ∈ as) (hs : a.name ≠ "*") :
    Mentions (.stmt (.simple sp (.importsFrom path as level))) a.bound
  | globals {sp : Span} {ns : List String} {x : String} (h : x ∈ ns) :
    Mentions (.stmt (.simple sp (.globals ns))) x
  | nonlocals {sp : Span} {ns : List String} {x : String} (h : x ∈ ns) :
    Mentions (.stmt (.simple sp (.nonlocals ns))) x
  | handler {p : Position} {t : Option Expr} {x : String} {b : List (Stmt Hole)} :
    Mentions (.handler (.mk p t (some x) b)) x
  | capture {p : Position} {x : String} : Mentions (.pattern (.capture p (some x))) x
  | named {p : Position} {q : Pattern} {x : String} : Mentions (.pattern (.named p q x)) x
  | star {p : Position} {x : String} : Mentions (.pattern (.star p (some x))) x
  | rest {p : Position} {ks : List Expr} {ps : List Pattern} {x : String} :
    Mentions (.pattern (.mapping p ks ps (some x))) x

/-- The class that the body of a class is in. -/
def enterClass (_ : Option String) (h : ClassHead) : Option String := some h.name

section

variable {Hole : Type} [HasExprs Hole]

/-- `MentionedIn start body c y` if the identifier `y` is mentioned in `body`, directly in the class
`c` or in none. The statements themselves stand in the class `start`, if in any. -/
def MentionedIn (start : Option String) (body : List (Stmt Hole)) (c : Option String) (y : String) :
    Prop :=
  isIdentifier y = true ∧ ∃ s ∈ ofStmts body, ∃ n, Stands enterClass start s c n ∧ n.Mentions y

/-- A variable that occurs in some statements. In a class a private name stands for another
variable. -/
def Occurs (start : Option String) (x : String) (body : List (Stmt Hole)) : Prop :=
  ∃ c y, MentionedIn start body c y ∧ mangled c y = x

/-- A variable that a private name of a class stands for. -/
def OccursPrivately (start : Option String) (x : String) (body : List (Stmt Hole)) : Prop :=
  ∃ c y, MentionedIn start body c y ∧ mangled c y = x ∧ x ≠ y

end

/-- An identifier is its own root. -/
theorem rootOf_of_isIdentifier {x : String} (h : isIdentifier x = true) : rootOf x = x := by
  have hall : ∀ c ∈ x.toList, (c != '.') = true := by
    intro c hc
    rw [bne_iff_ne]
    rintro rfl
    exact Text.no_stop_of_isIdentifier h hc
  have htake : x.toList.takeWhile (· != '.') = x.toList := List.takeWhile_eq_self_iff.2 hall
  rw [rootOf, htake, String.ofList_toList]

/-- Every identifier that a node mentions is collected. -/
theorem Node.Mentions.mem_ownNames {Hole : Type} {n : Node Hole} {x : String} (h : n.Mentions x)
    (hx : isIdentifier x = true) : x ∈ n.ownNames := by
  cases h with
  | name => exact List.mem_singleton_self x
  | lambdaParam h => exact List.mem_map_of_mem h
  | function => exact List.mem_cons_self
  | param h => exact List.mem_cons_of_mem _ (List.mem_map_of_mem h)
  | klass => exact List.mem_singleton_self _
  | @imports sp as a h =>
    refine List.mem_map.2 ⟨a, h, ?_⟩
    unfold Alias.bound
    cases ha : a.asName with
    | none => rfl
    | some y =>
      rw [ha] at hx
      exact rootOf_of_isIdentifier hx
  | @importsFrom sp path as level a h _ =>
    exact List.mem_map.2 ⟨a, h, rootOf_of_isIdentifier hx⟩
  | globals h => exact h
  | nonlocals h => exact h
  | handler => exact List.mem_singleton_self x
  | capture => exact List.mem_singleton_self x
  | named => exact List.mem_singleton_self x
  | star => exact List.mem_singleton_self x
  | rest => exact List.mem_singleton_self x

section

variable {Hole : Type} [HasExprs Hole] {P : Option String → String → Prop} {start : Option String}
  {body : List (Stmt Hole)}

/-- The identifiers that a node in a class mentions are such as `P` says. -/
def Node.MentionsOnly {Hole : Type} (P : Option String → String → Prop) (c : Option String)
    (n : Node Hole) : Prop :=
  ∀ y, n.Mentions y → isIdentifier y = true → P c y

theorem every_mentionsOnly : EveryIn enterClass (Node.MentionsOnly P) start (ofStmts body) ↔
    ∀ c y, MentionedIn start body c y → P c y := by
  constructor
  · rintro h c y ⟨hy, s, hs, n, hn, hm⟩
    exact h s hs c n hn y hm hy
  · exact fun h s hs c n hn y hm hy => h c y ⟨hy, s, hs, n, hn, hm⟩

/-- What is mentioned in named statements is one of the names. -/
theorem MentionedIn.mem {names : List String} {c : Option String} {y : String}
    (h : MentionedIn start body c y) (hnames : NamedIn names (ofStmts body)) : y ∈ names := by
  obtain ⟨hy, s, hs, n, hn, hm⟩ := h
  exact (hnames.everyIn start) s hs c n hn y (hm.mem_ownNames hy)

end

/-! The names that a node mentions depend neither on the tree that it stands in nor on its
blocks. -/

section

variable {H K : Type} {sp : Span} {y : String}

theorem Node.Mentions.expr {e : Expr} (h : (Node.expr e : Node H).Mentions y) :
    (Node.expr e : Node K).Mentions y := by
  cases h with
  | name => exact .name
  | lambdaParam hq => exact .lambdaParam hq

theorem Node.Mentions.pattern {p : Pattern} (h : (Node.pattern p : Node H).Mentions y) :
    (Node.pattern p : Node K).Mentions y := by
  cases h with
  | capture => exact .capture
  | named => exact .named
  | star => exact .star
  | rest => exact .rest

theorem Node.Mentions.simple {x : Simple}
    (h : (Node.stmt (.simple sp x) : Node H).Mentions y) :
    (Node.stmt (.simple sp x) : Node K).Mentions y := by
  cases h with
  | imports ha => exact .imports ha
  | importsFrom ha hs => exact .importsFrom ha hs
  | globals hx => exact .globals hx
  | nonlocals hx => exact .nonlocals hx

theorem Node.Mentions.ofFunction {h : FunctionHead} {b : List (Stmt H)} (b' : List (Stmt K))
    (hy : (Node.stmt (.function sp h b)).Mentions y) :
    (Node.stmt (.function sp h b')).Mentions y := by
  cases hy with
  | function => exact .function
  | param hq => exact .param hq

theorem Node.Mentions.ofKlass {h : ClassHead} {b : List (Stmt H)} (b' : List (Stmt K))
    (hy : (Node.stmt (.klass sp h b)).Mentions y) : (Node.stmt (.klass sp h b')).Mentions y := by
  cases hy with
  | klass => exact .klass

theorem Node.Mentions.ofHandler {p : Position} {t : Option Expr} {n : Option String}
    {b : List (Stmt H)} (b' : List (Stmt K)) (hy : (Node.handler (.mk p t n b)).Mentions y) :
    (Node.handler (.mk p t n b')).Mentions y := by
  cases hy with
  | handler => exact .handler

end

/-! ## The names of the user's program

Replacing a call leaves its arguments, apart from labels, so all names that are left are names of
the expanded tree, each in the class it was in. -/

/-- All identifiers that some trees mention are such as `P` says. -/
abbrev Node.NamesOnly {Hole : Type} [HasExprs Hole] (P : Option String → String → Prop)
    (c : Option String) (ns : List (Node Hole)) : Prop :=
  EveryIn enterClass (MentionsOnly P) c ns

section

open Node (NamesOnly every_branch every_loop every_function every_klass every_withItems
  every_attempt every_select every_handlers every_cases)
open SourceMeaning (Fits calls)

variable {P : Option String → String → Prop} {package : String} {sp : Span} {c : Option String}

section

variable {H K : Type} [HasExprs H] [HasExprs K]

theorem namesOnly_expr (e : Expr) (h : NamesOnly P c [(.expr e : Node H)]) :
    NamesOnly P c [(.expr e : Node K)] :=
  Node.everyIn_expr (Q := Node.MentionsOnly P) (fun _ he y hy => he y hy.expr) e h

theorem namesOnly_exprs {es : List Expr} (h : NamesOnly P c (ofExprs es : List (Node H))) :
    NamesOnly P c (ofExprs es : List (Node K)) :=
  Node.everyIn_exprs (Q := Node.MentionsOnly P) (fun _ he y hy => he y hy.expr) h

theorem namesOnly_pattern (p : Pattern) (h : NamesOnly P c [(.pattern p : Node H)]) :
    NamesOnly P c [(.pattern p : Node K)] :=
  Node.everyIn_pattern (Q := Node.MentionsOnly P) (fun _ he y hy => he y hy.expr)
    (fun _ hp y hy => hp y hy.pattern) p h

end

/-- A simple statement mentions the same names in either tree. -/
theorem namesOnly_simple {x : Simple}
    (h : NamesOnly P c [.stmt (.simple sp x : Stmt Placeholder)]) :
    NamesOnly P c [.stmt (.simple sp x : Stmt Empty)] := by
  obtain ⟨hown, hexprs⟩ := Node.every_simple.1 h
  exact Node.every_simple.2 ⟨fun y hy => hown y hy.simple, namesOnly_exprs hexprs⟩

/-- A bare jump mentions no name. -/
theorem namesOnly_bare {x : Simple} (hx : x = .breaks ∨ x = .continues) :
    NamesOnly P c [.stmt (.simple sp x : Stmt Empty)] := by
  obtain rfl | rfl := hx <;> exact Node.every_simple.2 ⟨nofun, every_nil⟩

theorem namesOnly_transfer {x : Transfer} (h : NamesOnly P c [.stmt (x.toStmt sp)])
    (around : List (Option String)) :
    NamesOnly P c [.stmt (.simple sp (x.simple around) : Stmt Empty)] := by
  cases x with
  | breaks => exact namesOnly_bare (.inl rfl)
  | continues => exact namesOnly_bare (.inr rfl)
  | returns v => exact namesOnly_simple h
  | jump k l =>
    cases k with
    | breaks => exact namesOnly_bare (.inl rfl)
    | continues =>
      cases hc : crosses around l with
      | true => simpa [Transfer.simple, hc] using namesOnly_bare (.inl rfl)
      | false => simpa [Transfer.simple, hc] using namesOnly_bare (.inr rfl)

theorem namesOnly_replacement {r : Replacement} (h : NamesOnly P c [.stmt (r.toStmt sp)])
    (around : List (Option String)) : NamesOnly P c (ofStmts (r.replaced around sp)) := by
  cases r with
  | loopLabel l => exact every_nil
  | guarded p x =>
    obtain ⟨-, hp, hx, -⟩ := every_branch.1 h
    exact every_branch.2 ⟨nofun, namesOnly_expr p hp, namesOnly_transfer hx around, every_nil⟩

mutual

/-- A statement with its calls replaced mentions names of the expanded statement only. -/
theorem stmt_namesOnly (env : Env) (around : List (Option String)) (label : Option String) :
    ∀ (s : Stmt Empty) {c : Option String}, (∀ i ∈ s.gather package calls env, Fits i) →
      NamesOnly P c [.stmt (s.expand package env)] →
      NamesOnly P c (ofStmts (s.replaced package env around label))
  | .simple sp x, c, hfits, h => by
    simp only [Stmt.expand, Simple.expand, Stmt.replaced] at h ⊢
    cases hi : (Stmt.simple sp x).invocation? env with
    | none =>
      simp only [hi] at h
      exact namesOnly_simple h
    | some i =>
      obtain ⟨m, ⟨r, rule⟩, hm, hr⟩ := hfits i (by simp [Stmt.gather, calls, hi])
      simp only [hi, hm, Option.map_some, hr] at h
      dsimp only
      rw [replaced_eq hm (SourceMeaning.shape_of_replacement hr)]
      exact namesOnly_replacement h around
  | .hole _ hole, _, _, _ => nomatch hole
  | .branch sp t b o, c, hfits, h => by
    simp only [Stmt.gather, List.mem_append] at hfits
    obtain ⟨-, ht, hb, ho⟩ := every_branch.1 h
    exact every_branch.2 ⟨nofun, namesOnly_expr t ht,
      block_namesOnly env around none b (fun i hi => hfits i (.inr (.inl hi))) hb,
      block_namesOnly env around none o (fun i hi => hfits i (.inr (.inr hi))) ho⟩
  | .loop sp hd b o, c, hfits, h => by
    simp only [Stmt.gather, List.mem_append] at hfits
    obtain ⟨-, hh, hb, ho⟩ := every_loop.1 h
    exact every_loop.2 ⟨nofun, namesOnly_exprs hh,
      block_namesOnly env (label :: around) none b (fun i hi => hfits i (.inr (.inl hi))) hb,
      block_namesOnly env around none o (fun i hi => hfits i (.inr (.inr hi))) ho⟩
  | .function sp hd b, c, hfits, h => by
    simp only [Stmt.gather, List.mem_append] at hfits
    obtain ⟨hown, hh, hb⟩ := every_function.1 h
    exact every_function.2 ⟨fun y hy => hown y (hy.ofFunction _), namesOnly_exprs hh,
      block_namesOnly _ [] none b (fun i hi => hfits i (.inr hi)) hb⟩
  | .klass sp hd b, c, hfits, h => by
    simp only [Stmt.gather, List.mem_append] at hfits
    obtain ⟨hown, hh, hb⟩ := every_klass.1 h
    exact every_klass.2 ⟨fun y hy => hown y (hy.ofKlass _), namesOnly_exprs hh,
      block_namesOnly _ [] none b (fun i hi => hfits i (.inr hi)) hb⟩
  | .withItems sp a is b, c, hfits, h => by
    simp only [Stmt.gather, List.mem_append] at hfits
    obtain ⟨-, hi, hb⟩ := every_withItems.1 h
    exact every_withItems.2 ⟨nofun, namesOnly_exprs hi,
      block_namesOnly env around none b (fun i hi => hfits i (.inr hi)) hb⟩
  | .attempt sp star b hs o f, c, hfits, h => by
    simp only [Stmt.gather, List.mem_append] at hfits
    obtain ⟨-, hb, hh, ho, hf⟩ := every_attempt.1 h
    exact every_attempt.2 ⟨nofun,
      block_namesOnly env around none b (fun i hi => hfits i (.inr (.inl (.inl (.inl hi))))) hb,
      handlers_namesOnly env around hs (fun i hi => hfits i (.inr (.inl (.inl (.inr hi))))) hh,
      block_namesOnly env around none o (fun i hi => hfits i (.inr (.inl (.inr hi)))) ho,
      block_namesOnly env around none f (fun i hi => hfits i (.inr (.inr hi))) hf⟩
  | .select sp e cs, c, hfits, h => by
    simp only [Stmt.gather, List.mem_append] at hfits
    obtain ⟨-, he, hcs⟩ := every_select.1 h
    exact every_select.2 ⟨nofun, namesOnly_expr e he,
      cases_namesOnly env around cs (fun i hi => hfits i (.inr hi)) hcs⟩

theorem block_namesOnly (env : Env) (around : List (Option String)) (label : Option String) :
    ∀ (b : List (Stmt Empty)) {c : Option String},
      (∀ i ∈ Stmt.gatherAll package calls env b, Fits i) →
      NamesOnly P c (ofStmts (Stmt.expandAll package env b)) →
      NamesOnly P c (ofStmts (Stmt.allReplaced package env around label b))
  | [], _, _, _ => every_nil
  | s :: rest, c, hfits, h => by
    simp only [Stmt.gatherAll, List.mem_append] at hfits
    obtain ⟨hs, hrest⟩ := every_ofStmts_cons.1 h
    exact Node.every_ofStmts_append.2
      ⟨stmt_namesOnly env around label s (fun i hi => hfits i (.inl hi)) hs,
        block_namesOnly env around _ rest (fun i hi => hfits i (.inr hi)) hrest⟩

theorem handlers_namesOnly (env : Env) (around : List (Option String)) :
    ∀ (hs : List (Handler Empty)) {c : Option String},
      (∀ i ∈ Handler.gatherAll package calls env hs, Fits i) →
      NamesOnly P c ((Handler.expandAll package env hs).map .handler) →
      NamesOnly P c ((Handler.allReplaced package env around hs).map .handler)
  | [], _, _, _ => every_nil
  | .mk p t n b :: hs, c, hfits, h => by
    simp only [Handler.gatherAll, List.mem_append] at hfits
    obtain ⟨hown, ht, hb, hh⟩ := every_handlers.1 h
    exact every_handlers.2 ⟨fun y hy => hown y (hy.ofHandler _), namesOnly_exprs ht,
      block_namesOnly env around none b (fun i hi => hfits i (.inl hi)) hb,
      handlers_namesOnly env around hs (fun i hi => hfits i (.inr hi)) hh⟩

theorem cases_namesOnly (env : Env) (around : List (Option String)) :
    ∀ (cs : List (Case Empty)) {c : Option String},
      (∀ i ∈ Case.gatherAll package calls env cs, Fits i) →
      NamesOnly P c ((Case.expandAll package env cs).map .case) →
      NamesOnly P c ((Case.allReplaced package env around cs).map .case)
  | [], _, _, _ => every_nil
  | .mk p g b :: cs, c, hfits, h => by
    simp only [Case.gatherAll, List.mem_append] at hfits
    obtain ⟨-, hp, hg, hb, hcs⟩ := every_cases.1 h
    exact every_cases.2 ⟨nofun, namesOnly_pattern p hp, namesOnly_exprs hg,
      block_namesOnly env around none b (fun i hi => hfits i (.inl hi)) hb,
      cases_namesOnly env around cs (fun i hi => hfits i (.inr hi)) hcs⟩

end

end

/-! ## Flags -/

/-- The only names of a generated statement are flags. -/
theorem namedIn_of_isGenerated {flags : List String} {s : Stmt Empty}
    (h : s.isGenerated flags = true) : NamedIn flags (ofStmts [s]) := by
  have bare {y : Simple} {sp : Span} (hy : y = .breaks ∨ y = .continues) :
      NamedIn flags (ofStmts [(.simple sp y : Stmt Empty)]) := by
    obtain rfl | rfl := hy <;> exact Node.every_simple.2 ⟨List.forall_mem_nil _, every_nil⟩
  have name {p : Position} {x : String} {u : NameUse} (hx : x ∈ flags) :
      NamedIn flags [(.expr (.name p x u) : Node Empty)] := by
    refine Node.every_singleton.2 ⟨fun y hy => ?_, every_nil⟩
    exact List.mem_singleton.1 hy ▸ hx
  unfold Stmt.isGenerated at h
  split at h
  · refine Node.every_simple.2 ⟨List.forall_mem_nil _, Node.every_ofExprs.2 fun e he => ?_⟩
    rcases List.mem_cons.1 he with rfl | he
    · exact name (by simpa using h)
    · obtain rfl := List.mem_singleton.1 he
      exact Node.every_singleton.2 ⟨List.forall_mem_nil _, every_nil⟩
  · exact Node.every_branch.2 ⟨List.forall_mem_nil _, name (by simpa using h),
      bare (.inl rfl), every_nil⟩
  · exact Node.every_branch.2 ⟨List.forall_mem_nil _, name (by simpa using h),
      bare (.inr rfl), every_nil⟩
  · cases h

theorem mangled_eq_self {x : String} (h : x.startsWith "__" = false) (c : Option String) :
    mangled c x = x := by
  cases c with
  | none => rfl
  | some c => simp [mangled, h]

/-- A name is private if it starts with two underscores. A flag does only if its prefix does,
because the name of the kind of jump comes after the prefix. -/
theorem flagCandidate_not_private {flagPrefix : String} (h : flagPrefix.startsWith "__" = false)
    (k : JumpKind) (label : String) (i : Nat) :
    (flagCandidate (flagBase flagPrefix k.name label) i).startsWith "__" = false := by
  obtain ⟨c, rest, hc, hflag⟩ : ∃ c rest, c ≠ '_' ∧
      (flagCandidate (flagBase flagPrefix k.name label) i).toList =
        flagPrefix.toList ++ c :: rest := by
    cases k <;> cases i <;>
      simp [flagCandidate, flagBase, JumpKind.name, String.toList_append]
  rw [String.startsWith_string_eq_false_iff] at h ⊢
  rw [hflag]
  generalize flagPrefix.toList = cs at h ⊢
  rcases cs with _ | ⟨a, _ | ⟨b, more⟩⟩
  · simp [hc.symm]
  · simp [hc.symm]
  · simpa using h

theorem Stmt.BlockLowersBy.not_private {users : List String} {flagPrefix : String}
    {loops : List Frame} {out : List (Stmt Empty)} {b : List (Stmt Placeholder)}
    (h : Stmt.BlockLowersBy (IsFlagFor users flagPrefix) [] none loops out b)
    (hpre : flagPrefix.startsWith "__" = false) {x : String} (hx : x ∈ flagsOf loops) :
    x.startsWith "__" = false := by
  obtain ⟨f, hf, hmem⟩ := List.mem_flatMap.1 hx
  obtain ⟨k, hk⟩ := Frame.mem_flags.1 hmem
  have hmarks : Node.Every (Node.MarksBy fun _ => True) (ofStmts b) :=
    Node.every_iff_all.2 fun _ _ _ _ _ _ _ => trivial
  obtain ⟨name, -, -, -, i, rfl⟩ := h.namedBy (by simp) hmarks f hf k x hk
  exact flagCandidate_not_private hpre k name i

/-- Jumps with a flag in common are to the same loop and of the same kind. -/
theorem flag_unique {loops : List Frame} (h : (flagsOf loops).Nodup) {i j : Nat} {f g : Frame}
    (hi : loops[i]? = some f) (hj : loops[j]? = some g) {k k' : JumpKind} {x : String}
    (hf : f.flag k = some x) (hg : g.flag k' = some x) : i = j ∧ k = k' := by
  obtain ⟨hown, hpairs⟩ := List.nodup_flatMap.1 h
  obtain ⟨hi', rfl⟩ := List.getElem?_eq_some_iff.1 hi
  obtain ⟨hj', rfl⟩ := List.getElem?_eq_some_iff.1 hj
  have hfx := Frame.mem_flags.2 ⟨k, hf⟩
  have hgx := Frame.mem_flags.2 ⟨k', hg⟩
  rcases lt_trichotomy i j with hij | rfl | hij
  · exact absurd hgx (List.pairwise_iff_getElem.1 hpairs i j hi' hj' hij hfx)
  · refine ⟨rfl, ?_⟩
    have hnodup := hown _ (List.getElem_mem hi')
    unfold Frame.flags at hnodup
    cases k <;> cases k'
    · rfl
    · rw [show loops[i].breakFlag = some x from hf, show loops[i].continueFlag = some x from hg]
        at hnodup
      simp at hnodup
    · rw [show loops[i].breakFlag = some x from hg, show loops[i].continueFlag = some x from hf]
        at hnodup
      simp at hnodup
    · rfl
  · exact absurd hfx (List.pairwise_iff_getElem.1 hpairs j i hj' hi' hij hgx)

/-! ## Whole modules -/

/-- The variables of the user are apart from the flags, in the tree before lowering and in what is
left of it, and generated statements mention no variable of the user, whichever class they are
in. -/
structure FlagsApart (flags : List String) (tree : List (Stmt Placeholder))
    (result : List (Stmt Empty)) : Prop where
  user : ∀ x, Occurs none x tree → x ∉ flags
  left : ∀ x, Occurs none x (Stmt.allWithoutFlags flags result) → x ∉ flags
  generated : ∀ st, .stmt st ∈ Node.all (ofStmts result) → st.isGenerated flags = true →
    ∀ c x, Occurs c x [st] → x ∈ flags ∧ ¬Occurs none x tree

/-- **Flags are kept apart** from the names of the user and from each other. The flags of an
expanded module belong to its loops, each to one loop and one kind of jump. None is mentioned in the
module before lowering, the user's part of the result mentions nothing else than that module does in
the same classes, and generated statements mention flags only. Where names are variables, flags are
apart from the variables of the user exactly if no private name stands for a flag. -/
theorem expandModule_flags_apart {s : Settings} {file : Option String} {m : Module Empty}
    {e : Expanded} (h : expandModule s file m = .ok e) : ∃ loops : List Frame,
    Stmt.BlockLowersBy (IsFlagFor (m.userNames s) s.flagPrefix) [] none loops e.module.body
      (m.expand s).body ∧
    (∀ (i j : Nat) (f g : Frame) (k k' : JumpKind) (x : String), loops[i]? = some f →
      loops[j]? = some g → f.flag k = some x → g.flag k' = some x → i = j ∧ k = k') ∧
    (∀ c y, MentionedIn none (m.expand s).body c y → y ∉ flagsOf loops) ∧
    (∀ c y, MentionedIn none (Stmt.allWithoutFlags (flagsOf loops) e.module.body) c y →
      MentionedIn none (m.expand s).body c y) ∧
    (∀ st, .stmt st ∈ Node.all (ofStmts e.module.body) → st.isGenerated (flagsOf loops) = true →
      ∀ start c y, MentionedIn start [st] c y → y ∈ flagsOf loops) ∧
    (s.flagPrefix.startsWith "__" = false →
      (FlagsApart (flagsOf loops) (m.expand s).body e.module.body ↔
        ∀ x, OccursPrivately none x (m.expand s).body → x ∉ flagsOf loops)) := by
  have hexp := expands_of_ok h
  obtain ⟨loops, hlow, hnodup, hdisj⟩ := hexp.lowersBy
  have huser (c : Option String) (y : String) (hy : MentionedIn none (m.expand s).body c y) :
      y ∉ flagsOf loops := hdisj y (hy.mem (Node.namedIn_namesIn _))
  have hleft (c : Option String) (y : String)
      (hy : MentionedIn none (Stmt.allWithoutFlags (flagsOf loops) e.module.body) c y) :
      MentionedIn none (m.expand s).body c y := by
    rw [hexp.withoutFlags hlow hdisj] at hy
    exact every_mentionsOnly.1
      (block_namesOnly _ [] none m.body hexp.fits (every_mentionsOnly.2 fun _ _ hy => hy)) c y hy
  have hgenerated (st : Stmt Empty) (hst : st.isGenerated (flagsOf loops) = true)
      (start c : Option String) (y : String) (hy : MentionedIn start [st] c y) :
      y ∈ flagsOf loops := hy.mem (namedIn_of_isGenerated hst)
  refine ⟨loops, hlow, fun i j f g k k' x hi hj hf hg => flag_unique hnodup hi hj hf hg, huser,
    hleft, fun st _ => hgenerated st, fun hpre => ⟨fun hapart x => ?_, fun hprivate => ?_⟩⟩
  · rintro ⟨c, y, hy, heq, -⟩
    exact hapart.user x ⟨c, y, hy, heq⟩
  · have happart (x : String) (hx : Occurs none x (m.expand s).body) : x ∉ flagsOf loops := by
      obtain ⟨c, y, hy, heq⟩ := hx
      by_cases hxy : x = y
      · exact hxy ▸ huser c y hy
      · exact hprivate x ⟨c, y, hy, heq, hxy⟩
    refine ⟨happart, fun x ⟨c, y, hy, heq⟩ => happart x ⟨c, y, hleft c y hy, heq⟩,
      fun st _ hst c x ⟨d, y, hy, heq⟩ => ?_⟩
    have hflag := hgenerated st hst c d y hy
    rw [mangled_eq_self (hlow.not_private hpre hflag)] at heq
    exact heq ▸ ⟨hflag, fun hocc => happart y hocc hflag⟩

namespace Nested

/-- The loops of two modules: no name that is mentioned in them is a private one. -/
theorem not_occursPrivately_made (x : String) :
    ¬OccursPrivately none x (made.expand .default).body := by
  rintro ⟨c, y, hy, heq, hne⟩
  have hnames : ∀ y ∈ made.userNames .default, y.startsWith "__" = false := by
    with_unfolding_all decide
  rw [mangled_eq_self (hnames y (hy.mem (Node.namedIn_namesIn _)))] at heq
  exact hne heq.symm

/-- Code in a method of a class. -/
def inMethod (className : String) (body : List (Stmt Empty)) : Module Empty :=
  let params := ["self", "xs", "ys"].map fun x => Param.mk ⟨3, 4⟩ x none none
  ⟨[.simple (line 1) importing, .klass (line 2) ⟨className, [], [], []⟩
    [.function (line 3) ⟨false, "m", ⟨[], params, none, [], none⟩, [], none, 3⟩ body]]⟩

/-- A variable `__x`, and a jump out of two loops to the label `_x`. -/
def privateName : Module Empty :=
  inMethod "flow_break" [.simple (line 4) (.assign [target "__x"] (.const ⟨4, 14⟩ (.int 1))),
    .simple (line 5) (call "label" [var "_x"]),
    loops [.simple (line 6) (call "break_if" [.const ⟨6, 25⟩ (.bool true), var "_x"])],
    .simple (line 10) (.returns (some (var "__x")))]

theorem moduleTable_privateName :
    moduleTable .default privateName = [("label", "label"), ("break_if", "break_if")] := by
  with_unfolding_all decide

end Nested

/-- The test of a jump out of two loops is no flag of theirs, and stays in the user's part. -/
theorem expandModule_flags_apart_made : ∃ e loops,
    expandModule .default none Nested.made = .ok e ∧
      Occurs none "p" (Nested.made.expand .default).body ∧ "p" ∉ flagsOf loops ∧
      FlagsApart (flagsOf loops) (Nested.made.expand .default).body e.module.body := by
  obtain ⟨e, he⟩ := Nested.made_expands
  obtain ⟨loops, -, -, -, -, -, hiff⟩ := expandModule_flags_apart he
  have hapart := (hiff (by with_unfolding_all decide)).2 fun x hx =>
    absurd hx (Nested.not_occursPrivately_made x)
  have hbody : (Nested.made.expand .default).body = [.simple (Nested.line 1) Nested.importing,
      .hole (Nested.line 2) (.loopLabel (Nested.var "outer")),
      Nested.loops [Nested.leaveReplaced]] := by
    rw [Module.expand, Nested.moduleTable_made]
    rfl
  have hp : Occurs none "p" (Nested.made.expand .default).body := by
    by_contra hno
    have hall := every_mentionsOnly.2 fun c y hy => fun (heq : mangled c y = "p") =>
      hno ⟨c, y, hy, heq⟩
    rw [hbody] at hall
    obtain ⟨-, -, hround, -⟩ := Node.every_loop.1
      (every_ofStmts_cons.1 (every_ofStmts_cons.1 (every_ofStmts_cons.1 hall).2).2).1
    obtain ⟨-, -, hinner, -⟩ := Node.every_loop.1 (every_ofStmts_cons.1 hround).1
    obtain ⟨-, hp, -⟩ := Node.every_branch.1 (every_ofStmts_cons.1 hinner).1
    exact (Node.every_parts.1 hp).1 "p" .name (by decide) rfl
  exact ⟨e, loops, he, hp, hapart.user "p" hp, hapart⟩

/-- **A private name that stands for a flag.** Lowering makes the name, which the tree before does
not have, and in the class it is the variable that the user's `__x` stands for. -/
theorem privateName_captured : ∃ e,
    expandModule .default none Nested.privateName = .ok e ∧
      "_flow_break__x" ∈ namesIn e.module.body ∧
      "_flow_break__x" ∉ Nested.privateName.userNames .default ∧
      Occurs none "_flow_break__x" (Nested.privateName.expand .default).body := by
  obtain ⟨e, he⟩ : ∃ e, expandModule .default none Nested.privateName = .ok e :=
    Nested.ok_of_toOption (by decide +kernel)
  have hflag : ((expandModule .default none Nested.privateName).toOption.map fun e =>
      decide ("_flow_break__x" ∈ namesIn e.module.body)) = some true := by decide +kernel
  rw [he] at hflag
  refine ⟨e, he, of_decide_eq_true (Option.some.inj hflag), by with_unfolding_all decide, ?_⟩
  by_contra hno
  have hall := every_mentionsOnly.2 fun c y hy => fun (heq : mangled c y = "_flow_break__x") =>
    hno ⟨c, y, hy, heq⟩
  rw [Module.expand, Nested.moduleTable_privateName] at hall
  obtain ⟨-, -, hklass⟩ := Node.every_klass.1
    (every_ofStmts_cons.1 (every_ofStmts_cons.1 hall).2).1
  obtain ⟨-, -, hmethod⟩ := Node.every_function.1 (every_ofStmts_cons.1 hklass).1
  obtain ⟨-, htarget⟩ := Node.every_simple.1 (every_ofStmts_cons.1 hmethod).1
  have hx := Node.every_ofExprs.1 htarget (Nested.target "__x") List.mem_cons_self
  exact (Node.every_parts.1 hx).1 "__x" .name (by decide) (by with_unfolding_all decide)

end JumpMacros
