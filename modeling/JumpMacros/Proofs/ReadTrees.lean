import JumpMacros.Proofs.CallLabels
import JumpMacros.Proofs.FilledBlocks
import JumpMacros.Proofs.SpelledTrees
import JumpMacros.Proofs.UserProgram
import JumpMacros.Unicode.Normal

/-!
# Trees as they are read

`Node.AsRead` says of a node what a parser sees to: identifiers are in normal form, names are
identifiers, and mandatory blocks are not empty.

**Theorem (`block_asRead`).** Replacing the calls of such a tree gives such a tree.

**Theorem (`Stmt.BlockLowersBy.spelled`).** Lowering adds no identifiers but the flags.

**Theorem (`Stmt.BlockLowersBy.namedBy`).** A flag has the name of a marker of the tree in it.
-/

namespace JumpMacros

open Text (isIdentifier normalForm)
open Node (Every every_nil every_ofStmts_append every_ofStmts_cons ofExprs ofStmts)
open Lower (assemble check labelOf? plainJump setFlag)

/-! ## Nodes as they are read -/

/-- The name that a node is, as an expression. -/
def Node.usedName? {Hole : Type} : Node Hole → Option String
  | .expr (.name _ x _) => some x
  | _ => none

/-- A node as a parser gives it. -/
structure Node.AsRead {Hole : Type} (n : Node Hole) : Prop where
  normal : ∀ x ∈ n.identifiers, normalForm x = x
  named : ∀ x ∈ n.usedName?, isIdentifier x = true
  filled : n.IsFilled

/-- A module as a parser gives it. -/
def Module.AsRead (m : Module Empty) : Prop := Every Node.AsRead (ofStmts m.body)

section

variable {Hole Hole' : Type}

instance (n : Node Hole) : Decidable n.IsFilled :=
  decidable_of_iff (∀ b ∈ n.mandatoryBlocks, b ≠ [])
    ⟨fun h hempty => h [] hempty rfl, fun h _ hb hempty => h (hempty ▸ hb)⟩

instance (n : Node Hole) : Decidable n.AsRead :=
  decidable_of_iff ((∀ x ∈ n.identifiers, normalForm x = x) ∧
    (∀ x ∈ n.usedName?, isIdentifier x = true) ∧ n.IsFilled)
    ⟨fun ⟨hn, hv, hf⟩ => ⟨hn, hv, hf⟩, fun ⟨hn, hv, hf⟩ => ⟨hn, hv, hf⟩⟩

instance (m : Module Empty) : Decidable m.AsRead :=
  decidable_of_iff (∀ n ∈ Node.all (ofStmts m.body), n.AsRead) Node.every_iff_all.symm

/-- Whether a node that is no variable is as a parser gives it depends on its identifiers and on the
lengths of its blocks. -/
theorem Node.AsRead.transfer {n : Node Hole} {n' : Node Hole'} (h : n.AsRead)
    (hid : n'.identifiers = n.identifiers) (hvar : n'.usedName? = none)
    (hblocks : n'.mandatoryBlocks.map List.length = n.mandatoryBlocks.map List.length) :
    n'.AsRead := by
  refine ⟨hid ▸ h.normal, by simp [hvar], fun hempty => ?_⟩
  have hzero : 0 ∈ n.mandatoryBlocks.map List.length :=
    hblocks ▸ List.mem_map.2 ⟨[], hempty, rfl⟩
  obtain ⟨b, hb, hlen⟩ := List.mem_map.1 hzero
  exact h.filled (List.length_eq_zero_iff.1 hlen ▸ hb)

variable (Hole Hole') in
theorem Node.identifiers_expr (e : Expr) :
    (Node.expr e : Node Hole').identifiers = (Node.expr e : Node Hole).identifiers := by
  cases e <;> rfl

variable (Hole Hole') in
theorem Node.identifiers_simple (sp : Span) (s : Simple) :
    (Node.stmt (.simple sp s) : Node Hole').identifiers =
      (Node.stmt (.simple sp s) : Node Hole).identifiers := by
  cases s <;> rfl

theorem Node.asRead_expr (e : Expr) (h : (Node.expr e : Node Hole).AsRead) :
    (Node.expr e : Node Hole').AsRead := by
  have hvar : (Node.expr e : Node Hole').usedName? = (Node.expr e : Node Hole).usedName? := by
    cases e <;> rfl
  exact ⟨Node.identifiers_expr Hole Hole' e ▸ h.normal, hvar ▸ h.named, List.not_mem_nil⟩

theorem Node.asRead_pattern (p : Pattern) (h : (Node.pattern p : Node Hole).AsRead) :
    (Node.pattern p : Node Hole').AsRead :=
  h.transfer rfl rfl rfl

end

/-! ## Replacing calls -/

section

variable {package : String}

theorem length_expandAll (env : Env) (b : List (Stmt Empty)) :
    (Stmt.expandAll package env b).length = b.length := by
  induction b with
  | nil => rfl
  | cons s b ih => rw [Stmt.expandAll, List.length_cons, List.length_cons, ih]

theorem exprs_asRead {es : List Expr} (h : Every Node.AsRead (ofExprs es : List (Node Empty))) :
    Every Node.AsRead (ofExprs es : List (Node Placeholder)) :=
  Node.every_exprs Node.asRead_expr h

/-- A placeholder has neither identifiers nor blocks of its own. -/
theorem hole_asRead (sp : Span) (h : Placeholder) : (Node.stmt (.hole sp h)).AsRead :=
  ⟨nofun, nofun, List.not_mem_nil⟩

/-- What a call is replaced by is made of its arguments. -/
theorem replacement_asRead (sp : Span) {r : Replacement}
    (h : ∀ e ∈ r.values ++ r.label?.toList, Every Node.AsRead [(.expr e : Node Placeholder)]) :
    Every Node.AsRead [.stmt (r.toStmt sp)] := by
  have hplaced {x : Placeholder} (hx : ∀ e ∈ HasExprs.exprs x, e ∈ r.values ++ r.label?.toList) :
      Every Node.AsRead [.stmt (.hole sp x)] :=
    Node.every_hole.2 ⟨hole_asRead sp x, Node.every_ofExprs.2 fun e he => h e (hx e he)⟩
  have hkept {x : Simple} (hid : (Node.stmt (.simple sp x) : Node Placeholder).identifiers = [])
      (hx : ∀ e ∈ x.exprs, e ∈ r.values ++ r.label?.toList) :
      Every Node.AsRead [(.stmt (.simple sp x) : Node Placeholder)] :=
    Node.every_simple.2 ⟨⟨by simp [hid], nofun, List.not_mem_nil⟩,
      Node.every_ofExprs.2 fun e he => h e (hx e he)⟩
  cases r with
  | loopLabel l => exact hplaced fun e he => he
  | guarded p x =>
    refine Node.every_branch.2 ⟨⟨nofun, nofun, ?_⟩, h p List.mem_cons_self, ?_, every_nil⟩
    · simp [Node.IsFilled, Node.mandatoryBlocks]
    · cases x with
      | breaks => exact hkept rfl nofun
      | continues => exact hkept rfl nofun
      | returns v =>
        exact hkept rfl fun e he => List.mem_append_left _ (List.mem_cons_of_mem p he)
      | jump k l => exact hplaced fun e he => List.mem_append_right _ he

theorem simple_asRead (env : Env) (sp : Span) (x : Simple)
    (h : Every Node.AsRead [(.stmt (.simple sp x) : Node Empty)]) :
    Every Node.AsRead [.stmt (x.expand env sp)] := by
  have hkept : Every Node.AsRead [(.stmt (.simple sp x) : Node Placeholder)] := by
    obtain ⟨hown, hexprs⟩ := Node.every_simple.1 h
    exact Node.every_simple.2
      ⟨hown.transfer (Node.identifiers_simple Empty Placeholder sp x) rfl rfl, exprs_asRead hexprs⟩
  unfold Simple.expand
  split
  · exact hkept
  · rename_i i hi
    split
    · rename_i r rule hr
      obtain ⟨m, -, hm⟩ := Option.map_eq_some_iff.1 hr
      refine replacement_asRead sp ?_
      rw [← args_eq (SourceMeaning.shape_of_replacement hm)]
      obtain ⟨_, p, f, hcall, -⟩ := invocation?_eq_some hi
      cases hcall
      obtain ⟨-, hexprs⟩ := Node.every_simple.1 hkept
      obtain ⟨-, hchildren⟩ := Node.every_singleton.1 hexprs
      obtain ⟨-, hrest⟩ := List.forall_mem_cons.1 (Node.every_ofExprs.1 hchildren)
      exact (List.forall_mem_append.1 hrest).1
    · exact hkept

mutual

/-- A statement as it is read is so with its calls replaced. -/
theorem stmt_asRead (env : Env) : ∀ s : Stmt Empty, Every Node.AsRead [.stmt s] →
    Every Node.AsRead [.stmt (s.expand package env)]
  | .simple sp x, h => simple_asRead env sp x h
  | .hole _ hole, _ => nomatch hole
  | .branch sp t b o, h => by
    obtain ⟨hown, ht, hb, ho⟩ := Node.every_branch.1 h
    exact Node.every_branch.2
      ⟨hown.transfer rfl rfl (by simp [Node.mandatoryBlocks, length_expandAll]),
        Node.every_expr Node.asRead_expr t ht, block_asRead env b hb, block_asRead env o ho⟩
  | .loop sp hd b o, h => by
    obtain ⟨hown, hh, hb, ho⟩ := Node.every_loop.1 h
    exact Node.every_loop.2
      ⟨hown.transfer rfl rfl (by simp [Node.mandatoryBlocks, length_expandAll]),
        exprs_asRead hh, block_asRead env b hb, block_asRead env o ho⟩
  | .function sp hd b, h => by
    obtain ⟨hown, hh, hb⟩ := Node.every_function.1 h
    exact Node.every_function.2
      ⟨hown.transfer rfl rfl (by simp [Node.mandatoryBlocks, length_expandAll]),
        exprs_asRead hh, block_asRead _ b hb⟩
  | .klass sp hd b, h => by
    obtain ⟨hown, hh, hb⟩ := Node.every_klass.1 h
    exact Node.every_klass.2
      ⟨hown.transfer rfl rfl (by simp [Node.mandatoryBlocks, length_expandAll]),
        exprs_asRead hh, block_asRead _ b hb⟩
  | .withItems sp a is b, h => by
    obtain ⟨hown, hi, hb⟩ := Node.every_withItems.1 h
    exact Node.every_withItems.2
      ⟨hown.transfer rfl rfl (by simp [Node.mandatoryBlocks, length_expandAll]),
        exprs_asRead hi, block_asRead env b hb⟩
  | .attempt sp star b hs o f, h => by
    obtain ⟨hown, hb, hh, ho, hf⟩ := Node.every_attempt.1 h
    exact Node.every_attempt.2
      ⟨hown.transfer rfl rfl (by simp [Node.mandatoryBlocks, length_expandAll]),
        block_asRead env b hb, handlers_asRead env hs hh, block_asRead env o ho,
        block_asRead env f hf⟩
  | .select sp e cs, h => by
    obtain ⟨hown, he, hcs⟩ := Node.every_select.1 h
    exact Node.every_select.2
      ⟨hown.transfer rfl rfl rfl, Node.every_expr Node.asRead_expr e he, cases_asRead env cs hcs⟩

theorem block_asRead (env : Env) : ∀ b : List (Stmt Empty), Every Node.AsRead (ofStmts b) →
    Every Node.AsRead (ofStmts (Stmt.expandAll package env b))
  | [], _ => every_nil
  | s :: rest, h => by
    obtain ⟨hs, hrest⟩ := every_ofStmts_cons.1 h
    exact every_ofStmts_cons.2 ⟨stmt_asRead env s hs, block_asRead env rest hrest⟩

theorem handlers_asRead (env : Env) : ∀ hs : List (Handler Empty),
    Every Node.AsRead (hs.map .handler) →
      Every Node.AsRead ((Handler.expandAll package env hs).map .handler)
  | [], _ => every_nil
  | .mk p t n b :: hs, h => by
    obtain ⟨hown, ht, hb, hrest⟩ := Node.every_handlers.1 h
    exact Node.every_handlers.2
      ⟨hown.transfer rfl rfl (by simp [Node.mandatoryBlocks, length_expandAll]),
        exprs_asRead ht, block_asRead env b hb, handlers_asRead env hs hrest⟩

theorem cases_asRead (env : Env) : ∀ cs : List (Case Empty),
    Every Node.AsRead (cs.map .case) →
      Every Node.AsRead ((Case.expandAll package env cs).map .case)
  | [], _ => every_nil
  | .mk p g b :: cs, h => by
    obtain ⟨hown, hp, hg, hb, hrest⟩ := Node.every_cases.1 h
    exact Node.every_cases.2
      ⟨hown.transfer rfl rfl (by simp [Node.mandatoryBlocks, length_expandAll]),
        Node.every_pattern Node.asRead_expr Node.asRead_pattern p hp, exprs_asRead hg,
        block_asRead env b hb, cases_asRead env cs hrest⟩

end

end

/-! ## Lowering -/

/-- All identifiers of a node are such as `P` says. -/
def Node.SpelledBy {Hole : Type} (P : String → Prop) (n : Node Hole) : Prop :=
  ∀ x ∈ n.identifiers, P x

section

variable {P : String → Prop} {Allowed : JumpKind → String → String → Prop} {sp : Span}

theorem spelled_expr (e : Expr) (h : (Node.expr e : Node Placeholder).SpelledBy P) :
    (Node.expr e : Node Empty).SpelledBy P := by
  rwa [Node.SpelledBy, Node.identifiers_expr Placeholder]

theorem exprs_spelled {es : List Expr}
    (h : Every (Node.SpelledBy P) (ofExprs es : List (Node Placeholder))) :
    Every (Node.SpelledBy P) (ofExprs es : List (Node Empty)) :=
  Node.every_exprs spelled_expr h

theorem expr_spelled {e : Expr} (h : Every (Node.SpelledBy P) [(.expr e : Node Placeholder)]) :
    Every (Node.SpelledBy P) [(.expr e : Node Empty)] :=
  Node.every_expr spelled_expr e h

theorem name_spelled (p : Position) {x : String} (u : NameUse) (hx : P x) :
    Every (Node.SpelledBy P) [(.expr (.name p x u) : Node Empty)] :=
  Node.every_singleton.2 ⟨fun _ hy => List.mem_singleton.1 hy ▸ hx, every_nil⟩

theorem plainJump_spelled (k : JumpKind) :
    Every (Node.SpelledBy P) [.stmt (plainJump sp k)] := by
  cases k <;> exact Node.every_simple.2 ⟨nofun, every_nil⟩

theorem setFlag_spelled {x : String} (v : Bool) (hx : P x) :
    Every (Node.SpelledBy P) [.stmt (setFlag sp x v)] := by
  refine Node.every_simple.2 ⟨nofun, Node.every_ofExprs.2 ?_⟩
  exact List.forall_mem_cons.2 ⟨name_spelled _ _ hx,
    List.forall_mem_singleton.2 (Node.every_singleton.2 ⟨nofun, every_nil⟩)⟩

theorem check_spelled {e : Exit} (he : P e.1) :
    Every (Node.SpelledBy P) [.stmt (check sp e)] := by
  rw [Lower.check_eq]
  exact Node.every_branch.2 ⟨nofun, name_spelled _ _ he, plainJump_spelled e.2, every_nil⟩

theorem checks_spelled {es : List Exit} (h : ∀ e ∈ es, P e.1) :
    Every (Node.SpelledBy P) (ofStmts (es.map (check sp))) := by
  induction es with
  | nil => exact every_nil
  | cons e es ih =>
    obtain ⟨he, hes⟩ := List.forall_mem_cons.1 h
    exact every_ofStmts_cons.2 ⟨check_spelled he, ih hes⟩

theorem assemble_spelled {hd : LoopHead} {b o : List (Stmt Empty)} {f : Frame}
    (hf : ∀ x ∈ f.flags, P x) (hexits : ∀ e ∈ f.exits, P e.1)
    (hh : Every (Node.SpelledBy P) (ofExprs hd.exprs : List (Node Empty)))
    (hb : Every (Node.SpelledBy P) (ofStmts b)) (ho : Every (Node.SpelledBy P) (ofStmts o)) :
    Every (Node.SpelledBy P) (ofStmts (assemble sp hd b o f)) := by
  have hflag {k : JumpKind} {x : String} (hx : f.flag k = some x) : P x :=
    hf x (Frame.mem_flags.2 ⟨k, hx⟩)
  have hloop {body : List (Stmt Empty)} (hbody : Every (Node.SpelledBy P) (ofStmts body)) :
      Every (Node.SpelledBy P) (ofStmts (.loop sp hd body o :: f.exits.map (check sp))) :=
    every_ofStmts_cons.2 ⟨Node.every_loop.2 ⟨nofun, hh, hbody, ho⟩, checks_spelled hexits⟩
  unfold assemble
  refine every_ofStmts_append.2 ⟨?_, hloop ?_⟩
  · cases hx : f.breakFlag with
    | none => exact every_nil
    | some x => exact setFlag_spelled false (hflag (k := .breaks) hx)
  · cases hx : f.continueFlag with
    | none => exact hb
    | some x => exact every_ofStmts_cons.2 ⟨setFlag_spelled false (hflag (k := .continues) hx), hb⟩

theorem jump_spelled {fs : List Frame} {k : JumpKind} {l : Expr} {out : List (Stmt Empty)}
    (hfs : ∀ x ∈ flagsOf fs, P x) (h : JumpLowersTo fs sp k l out) :
    Every (Node.SpelledBy P) (ofStmts out) := by
  unfold JumpLowersTo at h
  split at h
  · exact h ▸ plainJump_spelled k
  · split at h
    · exact h ▸ plainJump_spelled k
    · obtain ⟨x, hx, rfl⟩ := h
      exact every_ofStmts_cons.2 ⟨setFlag_spelled true (hfs x (mem_flagsOf_of_flagOf? hx)),
        Node.every_simple.2 ⟨List.forall_mem_nil P, every_nil⟩⟩

mutual

/-- The identifiers of a lowered statement are those of the statement, and flags. -/
theorem Stmt.LowersBy.spelled {fs loops : List Frame} {label : Option String}
    {out : List (Stmt Empty)} (hfs : ∀ x ∈ flagsOf fs, P x) :
    ∀ {s : Stmt Placeholder}, s.LowersBy Allowed fs label loops out →
      (∀ x ∈ flagsOf loops, P x) → Every (Node.SpelledBy P) [.stmt s] →
      Every (Node.SpelledBy P) (ofStmts out)
  | .simple _ x, ⟨_, hout⟩, _, h => by
    obtain ⟨hown, hexprs⟩ := Node.every_simple.1 h
    rw [Node.SpelledBy, Node.identifiers_simple Empty] at hown
    exact hout ▸ Node.every_simple.2 ⟨hown, exprs_spelled hexprs⟩
  | .hole _ (.jump _ _), ⟨_, hjump⟩, _, _ => jump_spelled hfs hjump
  | .hole _ (.loopLabel _), ⟨_, hout⟩, _, _ => hout ▸ every_nil
  | .branch _ _ _ _, ⟨l₁, l₂, b', o', hb, ho, hl, hout⟩, hloops, h => by
    obtain ⟨-, ht, hsb, hso⟩ := Node.every_branch.1 h
    rw [hl, flagsOf, List.flatMap_append, List.forall_mem_append] at hloops
    exact hout ▸ Node.every_branch.2 ⟨nofun, expr_spelled ht,
      Stmt.BlockLowersBy.spelled hfs hb hloops.1 hsb,
      Stmt.BlockLowersBy.spelled hfs ho hloops.2 hso⟩
  | .loop _ _ _ _, ⟨f, l₁, l₂, b', o', hb, ho, hf, hl, hout⟩, hloops, h => by
    obtain ⟨-, hh, hsb, hso⟩ := Node.every_loop.1 h
    rw [hl, List.cons_append, flagsOf_cons, List.forall_mem_append, flagsOf, List.flatMap_append,
      List.forall_mem_append] at hloops
    obtain ⟨hff, hl₁, hl₂⟩ := hloops
    have haround : ∀ x ∈ flagsOf (f :: fs), P x := List.forall_mem_append.2 ⟨hff, hfs⟩
    exact hout ▸ assemble_spelled hff (fun e he => hfs _ (hf.mem_flagsOf he)) (exprs_spelled hh)
      (Stmt.BlockLowersBy.spelled haround hb hl₁ hsb)
      (Stmt.BlockLowersBy.spelled hfs ho hl₂ hso)
  | .function _ _ _, ⟨b', hb, hout⟩, hloops, h => by
    obtain ⟨hown, hh, hsb⟩ := Node.every_function.1 h
    exact hout ▸ Node.every_function.2 ⟨hown, exprs_spelled hh,
      Stmt.BlockLowersBy.spelled (by simp [flagsOf]) hb hloops hsb⟩
  | .klass _ _ _, ⟨b', hb, hout⟩, hloops, h => by
    obtain ⟨hown, hh, hsb⟩ := Node.every_klass.1 h
    exact hout ▸ Node.every_klass.2 ⟨hown, exprs_spelled hh,
      Stmt.BlockLowersBy.spelled (by simp [flagsOf]) hb hloops hsb⟩
  | .withItems _ _ _ _, ⟨b', hb, hout⟩, hloops, h => by
    obtain ⟨-, hi, hsb⟩ := Node.every_withItems.1 h
    exact hout ▸ Node.every_withItems.2 ⟨nofun, exprs_spelled hi,
      Stmt.BlockLowersBy.spelled hfs hb hloops hsb⟩
  | .attempt _ _ _ _ _ _, ⟨l₁, l₂, l₃, l₄, b', hs', o', f', hb, hh, ho, hf, hl, hout⟩, hloops,
      h => by
    obtain ⟨-, hsb, hsh, hso, hsf⟩ := Node.every_attempt.1 h
    simp only [hl, flagsOf, List.flatMap_append, List.forall_mem_append] at hloops
    obtain ⟨hl₁, hl₂, hl₃, hl₄⟩ := hloops
    exact hout ▸ Node.every_attempt.2 ⟨nofun, Stmt.BlockLowersBy.spelled hfs hb hl₁ hsb,
      Handler.LowerBy.spelled hfs hh hl₂ hsh, Stmt.BlockLowersBy.spelled hfs ho hl₃ hso,
      Stmt.BlockLowersBy.spelled hfs hf hl₄ hsf⟩
  | .select _ _ _, ⟨cs', hcs, hout⟩, hloops, h => by
    obtain ⟨-, he, hsc⟩ := Node.every_select.1 h
    exact hout ▸ Node.every_select.2 ⟨nofun, expr_spelled he,
      Case.LowerBy.spelled hfs hcs hloops hsc⟩

theorem Stmt.BlockLowersBy.spelled {fs loops : List Frame} {label : Option String}
    {out : List (Stmt Empty)} (hfs : ∀ x ∈ flagsOf fs, P x) :
    ∀ {b : List (Stmt Placeholder)}, Stmt.BlockLowersBy Allowed fs label loops out b →
      (∀ x ∈ flagsOf loops, P x) → Every (Node.SpelledBy P) (ofStmts b) →
      Every (Node.SpelledBy P) (ofStmts out)
  | [], ⟨_, hout⟩, _, _ => hout ▸ every_nil
  | _ :: _, ⟨l₁, l₂, first, more, hs, hrest, hl, hout⟩, hloops, h => by
    obtain ⟨hss, hsr⟩ := every_ofStmts_cons.1 h
    rw [hl, flagsOf, List.flatMap_append, List.forall_mem_append] at hloops
    exact hout ▸ every_ofStmts_append.2 ⟨Stmt.LowersBy.spelled hfs hs hloops.1 hss,
      Stmt.BlockLowersBy.spelled hfs hrest hloops.2 hsr⟩

theorem Handler.LowerBy.spelled {fs loops : List Frame} {out : List (Handler Empty)}
    (hfs : ∀ x ∈ flagsOf fs, P x) :
    ∀ {hs : List (Handler Placeholder)}, Handler.LowerBy Allowed fs loops out hs →
      (∀ x ∈ flagsOf loops, P x) → Every (Node.SpelledBy P) (hs.map .handler) →
      Every (Node.SpelledBy P) (out.map .handler)
  | [], ⟨_, hout⟩, _, _ => hout ▸ every_nil
  | .mk _ _ _ _ :: _, ⟨l₁, l₂, b', hs', hb, hh, hl, hout⟩, hloops, h => by
    obtain ⟨hown, ht, hsb, hsh⟩ := Node.every_handlers.1 h
    rw [hl, flagsOf, List.flatMap_append, List.forall_mem_append] at hloops
    exact hout ▸ Node.every_handlers.2 ⟨hown, exprs_spelled ht,
      Stmt.BlockLowersBy.spelled hfs hb hloops.1 hsb, Handler.LowerBy.spelled hfs hh hloops.2 hsh⟩

theorem Case.LowerBy.spelled {fs loops : List Frame} {out : List (Case Empty)}
    (hfs : ∀ x ∈ flagsOf fs, P x) :
    ∀ {cs : List (Case Placeholder)}, Case.LowerBy Allowed fs loops out cs →
      (∀ x ∈ flagsOf loops, P x) → Every (Node.SpelledBy P) (cs.map .case) →
      Every (Node.SpelledBy P) (out.map .case)
  | [], ⟨_, hout⟩, _, _ => hout ▸ every_nil
  | .mk _ _ _ :: _, ⟨l₁, l₂, b', cs', hb, hc, hl, hout⟩, hloops, h => by
    obtain ⟨-, hp, hg, hsb, hsc⟩ := Node.every_cases.1 h
    rw [hl, flagsOf, List.flatMap_append, List.forall_mem_append] at hloops
    exact hout ▸ Node.every_cases.2
      ⟨nofun, Node.every_pattern spelled_expr (fun _ hown => hown) _ hp, exprs_spelled hg,
        Stmt.BlockLowersBy.spelled hfs hb hloops.1 hsb, Case.LowerBy.spelled hfs hc hloops.2 hsc⟩

end

end

/-! ## The names of flags -/

/-- The names that a node gives to a loop are such as `P` says. -/
def Node.MarksBy (P : String → Prop) (n : Node Placeholder) : Prop :=
  ∀ sp l, n = .stmt (.hole sp (.loopLabel l)) → ∀ name, labelOf? l = some name → P name

section

variable {P : String → Prop} {Allowed : JumpKind → String → String → Prop}

/-- A flag of a loop is allowed for the loop's name, which is as `P` says. -/
def Frame.NamedBy (P : String → Prop) (Allowed : JumpKind → String → String → Prop) (f : Frame) :
    Prop :=
  ∀ k x, f.flag k = some x → ∃ name, f.label = some name ∧ P name ∧ Allowed k name x

theorem FrameOk.namedBy {js : List NamedJump} {label : Option String} {f : Frame} {fs : List Frame}
    (h : FrameOk Allowed js label f fs) (hlabel : ∀ name ∈ label, P name) :
    f.NamedBy P Allowed := by
  intro k x hx
  obtain ⟨name, hname, hallowed⟩ := h.flags.allowed f List.mem_cons_self k x hx
  exact ⟨name, hname, hlabel name (h.label_eq.symm.trans hname), hallowed⟩

/-- The name that a statement gives to the one after it is as `P` says. -/
theorem labelFrom_of_marksBy {s : Stmt Placeholder} (h : (Node.stmt s).MarksBy P) :
    ∀ name ∈ Layer.labelFrom (some s), P name := by
  intro name hname
  unfold Layer.labelFrom at hname
  split at hname
  · rename_i heq
    exact h _ _ (congrArg Node.stmt (Option.some.inj heq)) name hname
  · cases hname

mutual

/-- The loops in a lowered statement have the names that its markers give. -/
theorem Stmt.LowersBy.namedBy {fs loops : List Frame} {label : Option String}
    {out : List (Stmt Empty)} : ∀ {s : Stmt Placeholder},
    s.LowersBy Allowed fs label loops out → (∀ name ∈ label, P name) →
      Every (Node.MarksBy P) [.stmt s] → ∀ f ∈ loops, f.NamedBy P Allowed
  | .simple _ _, ⟨hl, _⟩, _, _ => hl ▸ nofun
  | .hole _ (.jump _ _), ⟨hl, _⟩, _, _ => hl ▸ nofun
  | .hole _ (.loopLabel _), ⟨hl, _⟩, _, _ => hl ▸ nofun
  | .branch _ _ _ _, ⟨l₁, l₂, b', o', hb, ho, hl, _⟩, _, h => by
    obtain ⟨-, -, hsb, hso⟩ := Node.every_branch.1 h
    exact hl ▸ List.forall_mem_append.2 ⟨Stmt.BlockLowersBy.namedBy hb nofun hsb,
      Stmt.BlockLowersBy.namedBy ho nofun hso⟩
  | .loop _ _ _ _, ⟨f, l₁, l₂, b', o', hb, ho, hf, hl, _⟩, hlabel, h => by
    obtain ⟨-, -, hsb, hso⟩ := Node.every_loop.1 h
    exact hl ▸ List.forall_mem_cons.2 ⟨hf.namedBy hlabel, List.forall_mem_append.2
      ⟨Stmt.BlockLowersBy.namedBy hb nofun hsb, Stmt.BlockLowersBy.namedBy ho nofun hso⟩⟩
  | .function _ _ _, ⟨b', hb, _⟩, _, h =>
    Stmt.BlockLowersBy.namedBy hb nofun (Node.every_function.1 h).2.2
  | .klass _ _ _, ⟨b', hb, _⟩, _, h =>
    Stmt.BlockLowersBy.namedBy hb nofun (Node.every_klass.1 h).2.2
  | .withItems _ _ _ _, ⟨b', hb, _⟩, _, h =>
    Stmt.BlockLowersBy.namedBy hb nofun (Node.every_withItems.1 h).2.2
  | .attempt _ _ _ _ _ _, ⟨l₁, l₂, l₃, l₄, b', hs', o', f', hb, hh, ho, hf, hl, _⟩, _, h => by
    obtain ⟨-, hsb, hsh, hso, hsf⟩ := Node.every_attempt.1 h
    simp only [hl, List.forall_mem_append]
    exact ⟨Stmt.BlockLowersBy.namedBy hb nofun hsb, Handler.LowerBy.namedBy hh hsh,
      Stmt.BlockLowersBy.namedBy ho nofun hso, Stmt.BlockLowersBy.namedBy hf nofun hsf⟩
  | .select _ _ _, ⟨cs', hcs, _⟩, _, h =>
    Case.LowerBy.namedBy hcs (Node.every_select.1 h).2.2

theorem Stmt.BlockLowersBy.namedBy {fs loops : List Frame} {label : Option String}
    {out : List (Stmt Empty)} : ∀ {b : List (Stmt Placeholder)},
    Stmt.BlockLowersBy Allowed fs label loops out b → (∀ name ∈ label, P name) →
      Every (Node.MarksBy P) (ofStmts b) → ∀ f ∈ loops, f.NamedBy P Allowed
  | [], ⟨hl, _⟩, _, _ => hl ▸ nofun
  | _ :: _, ⟨l₁, l₂, first, more, hs, hrest, hl, _⟩, hlabel, h => by
    obtain ⟨hss, hsr⟩ := every_ofStmts_cons.1 h
    exact hl ▸ List.forall_mem_append.2 ⟨Stmt.LowersBy.namedBy hs hlabel hss,
      Stmt.BlockLowersBy.namedBy hrest (labelFrom_of_marksBy (Node.every_singleton.1 hss).1) hsr⟩

theorem Handler.LowerBy.namedBy {fs loops : List Frame} {out : List (Handler Empty)} :
    ∀ {hs : List (Handler Placeholder)}, Handler.LowerBy Allowed fs loops out hs →
      Every (Node.MarksBy P) (hs.map .handler) → ∀ f ∈ loops, f.NamedBy P Allowed
  | [], ⟨hl, _⟩, _ => hl ▸ nofun
  | .mk _ _ _ _ :: _, ⟨l₁, l₂, b', hs', hb, hh, hl, _⟩, h => by
    obtain ⟨-, -, hsb, hsh⟩ := Node.every_handlers.1 h
    exact hl ▸ List.forall_mem_append.2
      ⟨Stmt.BlockLowersBy.namedBy hb nofun hsb, Handler.LowerBy.namedBy hh hsh⟩

theorem Case.LowerBy.namedBy {fs loops : List Frame} {out : List (Case Empty)} :
    ∀ {cs : List (Case Placeholder)}, Case.LowerBy Allowed fs loops out cs →
      Every (Node.MarksBy P) (cs.map .case) → ∀ f ∈ loops, f.NamedBy P Allowed
  | [], ⟨hl, _⟩, _ => hl ▸ nofun
  | .mk _ _ _ :: _, ⟨l₁, l₂, b', cs', hb, hc, hl, _⟩, h => by
    obtain ⟨-, -, -, hsb, hsc⟩ := Node.every_cases.1 h
    exact hl ▸ List.forall_mem_append.2
      ⟨Stmt.BlockLowersBy.namedBy hb nofun hsb, Case.LowerBy.namedBy hc hsc⟩

end

end

end JumpMacros
