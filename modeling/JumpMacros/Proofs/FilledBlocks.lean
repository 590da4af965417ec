import JumpMacros.Proofs.EveryNode
import JumpMacros.Proofs.LabelResolution
import JumpMacros.Proofs.MeaningPreservation

/-!
# Lowered trees are complete and well formed

**Theorem (`lower_complete_and_filled`).** A lowered tree has no placeholder at any depth, whatever
was reported. If nothing was reported and every block that the grammar requires holds a statement,
then it does so after lowering too.

Lowering deletes only the markers that label loops. A marker that is not directly before a loop is
reported, so a block that is left with nothing had nothing but markers, and its last one was
reported. A label that cannot be written makes no exception here: it silences the report on its own
text, not the one on its position.
-/

namespace JumpMacros

namespace Node

variable {Hole : Type}

/-- The blocks of a node that must hold a statement. An `else` or a `finally` may be missing. -/
def mandatoryBlocks : Node Hole → List (List (Stmt Hole))
  | .stmt (.branch _ _ b _) | .stmt (.loop _ _ b _) | .stmt (.function _ _ b)
  | .stmt (.klass _ _ b) | .stmt (.withItems _ _ _ b) | .stmt (.attempt _ _ b _ _ _)
  | .handler (.mk _ _ _ b) | .case (.mk _ _ b) => [b]
  | _ => []

/-- Whether a placeholder stands where a statement is expected. -/
def isPlaceholder : Node Hole → Bool
  | .stmt (.hole _ _) => true
  | _ => false

variable [HasExprs Hole]

/-- No mandatory block of a node is empty. -/
def IsFilled {Hole : Type} (n : Node Hole) : Prop := [] ∉ n.mandatoryBlocks

/-- No mandatory block is empty in some trees, at any depth. -/
abbrev Filled (ns : List (Node Hole)) : Prop := Every IsFilled ns

/-- Expressions hold no blocks. -/
theorem filled_exprs (es : List Expr) : Filled (ofExprs es : List (Node Hole)) :=
  every_exprs_of_forall (fun _ => List.not_mem_nil) es

theorem filled_expr (e : Expr) : Filled [(.expr e : Node Hole)] := filled_exprs [e]

/-- Nor do patterns. -/
theorem filled_pattern (p : Pattern) : Filled [(.pattern p : Node Hole)] :=
  every_pattern_of_forall (fun _ => List.not_mem_nil) (fun _ => List.not_mem_nil) p

/-! Filled statements, by their parts. -/

section

attribute [local simp] IsFilled mandatoryBlocks

variable {sp : Span} {b o f : List (Stmt Hole)}

theorem filled_simple (s : Simple) : Filled [(.stmt (.simple sp s) : Node Hole)] :=
  every_simple.2 ⟨List.not_mem_nil, filled_exprs _⟩

theorem filled_branch {t : Expr} : Filled [.stmt (.branch sp t b o)] ↔
    b ≠ [] ∧ Filled (ofStmts b) ∧ Filled (ofStmts o) :=
  every_branch.trans (by simp [filled_expr, eq_comm])

theorem filled_loop {h : LoopHead} : Filled [.stmt (.loop sp h b o)] ↔
    b ≠ [] ∧ Filled (ofStmts b) ∧ Filled (ofStmts o) :=
  every_loop.trans (by simp [filled_exprs, eq_comm])

theorem filled_function {h : FunctionHead} : Filled [.stmt (.function sp h b)] ↔
    b ≠ [] ∧ Filled (ofStmts b) :=
  every_function.trans (by simp [filled_exprs, eq_comm])

theorem filled_klass {h : ClassHead} : Filled [.stmt (.klass sp h b)] ↔
    b ≠ [] ∧ Filled (ofStmts b) :=
  every_klass.trans (by simp [filled_exprs, eq_comm])

theorem filled_withItems {a : Bool} {is : List WithItem} :
    Filled [.stmt (.withItems sp a is b)] ↔ b ≠ [] ∧ Filled (ofStmts b) :=
  every_withItems.trans (by simp [filled_exprs, eq_comm])

theorem filled_attempt {star : Bool} {hs : List (Handler Hole)} :
    Filled [.stmt (.attempt sp star b hs o f)] ↔ b ≠ [] ∧ Filled (ofStmts b) ∧
      Filled (hs.map .handler) ∧ Filled (ofStmts o) ∧ Filled (ofStmts f) :=
  every_attempt.trans (by simp [eq_comm])

theorem filled_select {e : Expr} {cs : List (Case Hole)} :
    Filled [.stmt (.select sp e cs)] ↔ Filled (cs.map .case) :=
  every_select.trans (by simp [filled_expr])

theorem filled_handlers {p : Position} {t : Option Expr} {n : Option String}
    {hs : List (Handler Hole)} : Filled ((Handler.mk p t n b :: hs).map .handler) ↔
      b ≠ [] ∧ Filled (ofStmts b) ∧ Filled (hs.map .handler) :=
  every_handlers.trans (by simp [filled_exprs, eq_comm])

theorem filled_cases {p : Pattern} {g : Option Expr} {cs : List (Case Hole)} :
    Filled ((Case.mk p g b :: cs).map .case) ↔
      b ≠ [] ∧ Filled (ofStmts b) ∧ Filled (cs.map .case) :=
  every_cases.trans (by simp [filled_pattern, filled_exprs, eq_comm])

end

end Node

open Node (Filled every_nil every_ofStmts_append every_ofStmts_cons filled_simple ofStmts)

/-! ## Generated statements are filled -/

theorem filled_plainJump (sp : Span) (k : JumpKind) :
    Filled [.stmt (Lower.plainJump sp k)] := by
  cases k <;> exact filled_simple _

theorem filled_check (sp : Span) (e : Exit) : Filled [.stmt (Lower.check sp e)] := by
  rw [Lower.check_eq]
  exact Node.filled_branch.2 ⟨List.cons_ne_nil _ _, filled_plainJump sp e.2, every_nil⟩

/-- A lowered loop is filled if its blocks are: resets and checks are filled, and a reset in the
body does not empty it. -/
theorem filled_assemble {sp : Span} {h : LoopHead} {b o : List (Stmt Empty)} {f : Frame}
    (hne : b ≠ []) (hb : Filled (ofStmts b)) (ho : Filled (ofStmts o)) :
    Filled (ofStmts (Lower.assemble sp h b o f)) ∧ Lower.assemble sp h b o f ≠ [] := by
  have hset (x : String) (v : Bool) : Filled [.stmt (Lower.setFlag sp x v)] := filled_simple _
  have hchecks : Filled (ofStmts (f.exits.map (Lower.check sp))) := by
    induction f.exits with
    | nil => exact every_nil
    | cons e es ih => exact every_ofStmts_cons.2 ⟨filled_check sp e, ih⟩
  unfold Lower.assemble
  refine ⟨every_ofStmts_append.2 ⟨?_, every_ofStmts_cons.2 ⟨Node.filled_loop.2 ?_, hchecks⟩⟩,
    by simp⟩
  · cases f.breakFlag with
    | none => exact every_nil
    | some x => exact hset x false
  · cases f.continueFlag with
    | none => exact ⟨hne, hb, ho⟩
    | some x => exact ⟨List.cons_ne_nil _ _, every_ofStmts_cons.2 ⟨hset x false, hb⟩, ho⟩

/-! ## Markers in place -/

/-- A marker has its loop directly after it. -/
def Site.InPlace (s : Site) : Prop := ∀ l, s.hole = .loopLabel l → s.beforeLoop = true

/-- A marker that is out of place has a diagnostic, whether or not its label can be written. -/
theorem Module.inPlace_of_no_diagnostics {s : Settings} {file : Option String}
    {m : Module Placeholder} (h : (m.lower s file).diagnostics = []) :
    ∀ site ∈ m.sites, site.InPlace := by
  intro site hsite l hl
  by_contra hno
  have hfault : (site.span, LabelFault.withoutLoop) ∈ m.labelFaults := by
    refine List.mem_flatMap.2 ⟨site, hsite, List.mem_map.2 ⟨.withoutLoop, ?_, rfl⟩⟩
    simp [Site.faults, hl, hno]
  have hall := (m.lower_reports s file).1.symm.trans h
  have := List.filterMap_eq_nil_iff.1 hall _ hfault
  simp [LabelFault.diagnostic?, LabelFault.cause?] at this

/-! ## The traversal -/

section

variable {Allowed : JumpKind → String → String → Prop}

theorem JumpLowersTo.filled {fs : List Frame} {sp : Span} {k : JumpKind} {l : Expr}
    {out : List (Stmt Empty)} (h : JumpLowersTo fs sp k l out) :
    Filled (ofStmts out) ∧ out ≠ [] := by
  have hplain : Filled (ofStmts [Lower.plainJump sp k]) := filled_plainJump sp k
  unfold JumpLowersTo at h
  split at h
  · exact h ▸ ⟨hplain, by simp⟩
  · split at h
    · exact h ▸ ⟨hplain, by simp⟩
    · obtain ⟨x, -, rfl⟩ := h
      exact ⟨every_ofStmts_cons.2 ⟨filled_simple _, filled_simple _⟩, by simp⟩

mutual

/-- A filled statement whose markers are in place lowers to filled statements, and to at least one
if it is no marker. -/
theorem Stmt.LowersTo.filled {fs : List Frame} {around : List Layer} {label : Option String}
    {before after : Option (Stmt Placeholder)} {out : List (Stmt Empty)} :
    ∀ {s : Stmt Placeholder}, s.LowersTo Allowed fs label out →
      (∀ x ∈ s.sites around before after, x.InPlace) → Filled [.stmt s] →
      Filled (ofStmts out) ∧ (Lower.loopLabel? s = none → out ≠ [])
  | .simple sp s, h, _, _ => by
    obtain rfl := h
    exact ⟨filled_simple s, by simp⟩
  | .hole _ (.jump _ _), h, _, _ => (JumpLowersTo.filled h).imp_right fun hne _ => hne
  | .hole _ (.loopLabel _), h, _, _ => by
    obtain rfl := h
    exact ⟨every_nil, by simp [Lower.loopLabel?]⟩
  | .branch _ _ _ _, ⟨b', o', hb, ho, hout⟩, hs, hf => by
    obtain ⟨hne, hfb, hfo⟩ := Node.filled_branch.1 hf
    rw [Stmt.sites, List.forall_mem_append] at hs
    obtain ⟨hb', hne'⟩ := Stmt.BlockLowersTo.filled hb hs.1 hfb
    have ho' := (Stmt.BlockLowersTo.filled ho hs.2 hfo).1
    exact hout ▸ ⟨Node.filled_branch.2 ⟨hne' hne, hb', ho'⟩, by simp⟩
  | .loop _ _ _ _, ⟨f, b', o', hb, ho, _, hout⟩, hs, hf => by
    obtain ⟨hne, hfb, hfo⟩ := Node.filled_loop.1 hf
    rw [Stmt.sites, List.forall_mem_append] at hs
    obtain ⟨hb', hne'⟩ := Stmt.BlockLowersTo.filled hb hs.1 hfb
    have ho' := (Stmt.BlockLowersTo.filled ho hs.2 hfo).1
    exact hout ▸ (filled_assemble (hne' hne) hb' ho').imp_right fun h _ => h
  | .function _ _ _, ⟨b', hb, hout⟩, hs, hf => by
    obtain ⟨hne, hfb⟩ := Node.filled_function.1 hf
    obtain ⟨hb', hne'⟩ := Stmt.BlockLowersTo.filled hb hs hfb
    exact hout ▸ ⟨Node.filled_function.2 ⟨hne' hne, hb'⟩, by simp⟩
  | .klass _ _ _, ⟨b', hb, hout⟩, hs, hf => by
    obtain ⟨hne, hfb⟩ := Node.filled_klass.1 hf
    obtain ⟨hb', hne'⟩ := Stmt.BlockLowersTo.filled hb hs hfb
    exact hout ▸ ⟨Node.filled_klass.2 ⟨hne' hne, hb'⟩, by simp⟩
  | .withItems _ _ _ _, ⟨b', hb, hout⟩, hs, hf => by
    obtain ⟨hne, hfb⟩ := Node.filled_withItems.1 hf
    obtain ⟨hb', hne'⟩ := Stmt.BlockLowersTo.filled hb hs hfb
    exact hout ▸ ⟨Node.filled_withItems.2 ⟨hne' hne, hb'⟩, by simp⟩
  | .attempt _ _ _ _ _ _, ⟨b', hs', o', f', hb, hh, ho, hfin, hout⟩, hs, hf => by
    obtain ⟨hne, hfb, hfh, hfo, hff⟩ := Node.filled_attempt.1 hf
    simp only [Stmt.sites, List.forall_mem_append] at hs
    obtain ⟨⟨⟨hsb, hsh⟩, hso⟩, hsf⟩ := hs
    obtain ⟨hb', hne'⟩ := Stmt.BlockLowersTo.filled hb hsb hfb
    have ho' := (Stmt.BlockLowersTo.filled ho hso hfo).1
    have hf' := (Stmt.BlockLowersTo.filled hfin hsf hff).1
    exact hout ▸ ⟨Node.filled_attempt.2
      ⟨hne' hne, hb', Handler.LowerTo.filled hh hsh hfh, ho', hf'⟩, by simp⟩
  | .select _ _ _, ⟨cs', hcs, hout⟩, hs, hf => by
    have hc := Case.LowerTo.filled hcs hs (Node.filled_select.1 hf)
    exact hout ▸ ⟨Node.filled_select.2 hc, by simp⟩

theorem Stmt.BlockLowersTo.filled {fs : List Frame} {around : List Layer} {label : Option String}
    {before : Option (Stmt Placeholder)} {out : List (Stmt Empty)} :
    ∀ {b : List (Stmt Placeholder)}, Stmt.BlockLowersTo Allowed fs label out b →
      (∀ x ∈ Stmt.blockSites around before b, x.InPlace) → Filled (ofStmts b) →
      Filled (ofStmts out) ∧ (b ≠ [] → out ≠ [])
  | [], h, _, _ => by
    obtain rfl := h
    exact ⟨every_nil, by simp⟩
  | s :: rest, ⟨first, more, hs, hrest, hout⟩, hsites, hf => by
    obtain ⟨hfs, hfr⟩ := every_ofStmts_cons.1 hf
    rw [Stmt.blockSites, List.forall_mem_append] at hsites
    obtain ⟨hfirst, hnef⟩ := Stmt.LowersTo.filled hs hsites.1 hfs
    obtain ⟨hmore, hnem⟩ := Stmt.BlockLowersTo.filled hrest hsites.2 hfr
    refine hout ▸ ⟨every_ofStmts_append.2 ⟨hfirst, hmore⟩, fun _ => ?_⟩
    -- A marker is followed by a loop, so what comes after it is not empty.
    by_cases hmarker : Lower.loopLabel? s = none
    · exact List.append_ne_nil_of_left_ne_nil (hnef hmarker) _
    · refine List.append_ne_nil_of_right_ne_nil _ (hnem ?_)
      obtain ⟨sp, l, rfl⟩ : ∃ sp l, s = .hole sp (.loopLabel l) := by
        unfold Lower.loopLabel? at hmarker
        split at hmarker <;> simp_all
      rintro rfl
      have := hsites.1 _ (List.mem_singleton_self _) l rfl
      simp [Site.beforeLoop] at this

theorem Handler.LowerTo.filled {fs : List Frame} {around : List Layer}
    {out : List (Handler Empty)} :
    ∀ {hs : List (Handler Placeholder)}, Handler.LowerTo Allowed fs out hs →
      (∀ x ∈ Handler.sites around hs, x.InPlace) → Filled (hs.map .handler) →
      Filled (out.map .handler)
  | [], h, _, _ => by
    obtain rfl := h
    exact every_nil
  | .mk _ _ _ _ :: _, ⟨b', hs', hb, hh, hout⟩, hsites, hf => by
    obtain ⟨hne, hfb, hfh⟩ := Node.filled_handlers.1 hf
    rw [Handler.sites, List.forall_mem_append] at hsites
    obtain ⟨hb', hne'⟩ := Stmt.BlockLowersTo.filled hb hsites.1 hfb
    exact hout ▸ Node.filled_handlers.2 ⟨hne' hne, hb', Handler.LowerTo.filled hh hsites.2 hfh⟩

theorem Case.LowerTo.filled {fs : List Frame} {around : List Layer} {out : List (Case Empty)} :
    ∀ {cs : List (Case Placeholder)}, Case.LowerTo Allowed fs out cs →
      (∀ x ∈ Case.sites around cs, x.InPlace) → Filled (cs.map .case) → Filled (out.map .case)
  | [], h, _, _ => by
    obtain rfl := h
    exact every_nil
  | .mk _ _ _ :: _, ⟨b', cs', hb, hc, hout⟩, hsites, hf => by
    obtain ⟨hne, hfb, hfc⟩ := Node.filled_cases.1 hf
    rw [Case.sites, List.forall_mem_append] at hsites
    obtain ⟨hb', hne'⟩ := Stmt.BlockLowersTo.filled hb hsites.1 hfb
    exact hout ▸ Node.filled_cases.2 ⟨hne' hne, hb', Case.LowerTo.filled hc hsites.2 hfc⟩

end

end

/-- A tree without a type for placeholders has none. -/
theorem Node.isPlaceholder_eq_false (n : Node Empty) : n.isPlaceholder = false := by
  unfold isPlaceholder
  split
  · rename_i h
    exact h.elim
  · rfl

/-- **Lowered trees are complete and well formed.** Lowering makes something of every statement, as
`Stmt.LowersTo` says, and leaves no placeholder at any depth, with or without reports. If it
reports nothing and the mandatory blocks were filled, they still are. -/
theorem lower_complete_and_filled (s : Settings) (file : Option String) (m : Module Placeholder) :
    Stmt.BlockLowersTo (IsFlagFor (namesIn m.body) s.flagPrefix) [] none
      (m.lower s file).module.body m.body ∧
    (∀ n ∈ Node.all (ofStmts (m.lower s file).module.body), n.isPlaceholder = false) ∧
    ((m.lower s file).diagnostics = [] → Filled (ofStmts m.body) →
      Filled (ofStmts (m.lower s file).module.body)) := by
  refine ⟨m.lower_lowersTo s file, fun n _ => n.isPlaceholder_eq_false, fun hd hf => ?_⟩
  exact ((m.lower_lowersTo s file).filled (Module.inPlace_of_no_diagnostics hd) hf).1

/-- Two loops, a marker, and a jump in a `try` statement. -/
theorem lower_complete_and_filled_overridden :
    (Nested.overridden.expand .default).body.length = 3 ∧
      ((Nested.overridden.expand .default).lower .default none).diagnostics = [] ∧
      Filled (ofStmts (Nested.overridden.expand .default).body) ∧
      Filled (ofStmts ((Nested.overridden.expand .default).lower .default none).module.body) := by
  have hlower : ((Nested.overridden.expand .default).lower .default none).diagnostics = [] :=
    List.isEmpty_iff.1 (by with_unfolding_all decide)
  have hhole (sp : Span) (h : Placeholder) : Filled [.stmt (.hole sp h)] :=
    Node.every_hole.2 ⟨List.not_mem_nil, Node.filled_exprs _⟩
  have hgoingOn : Filled [.stmt (Nested.goingOn Nested.leaveReplaced)] :=
    Node.filled_attempt.2 ⟨by simp, Node.filled_branch.2 ⟨by simp, hhole _ _, every_nil⟩,
      every_nil, every_nil, filled_simple _⟩
  have hloops : Filled [.stmt (Nested.loops [Nested.goingOn Nested.leaveReplaced])] :=
    Node.filled_loop.2 ⟨by simp [Nested.round],
      every_ofStmts_cons.2 ⟨Node.filled_loop.2 ⟨by simp, hgoingOn, every_nil⟩,
        filled_simple _⟩, every_nil⟩
  have hfilled : Filled (ofStmts (Nested.overridden.expand .default).body) := by
    rw [Nested.expand_overridden]
    exact every_ofStmts_cons.2 ⟨filled_simple _, every_ofStmts_cons.2 ⟨hhole _ _, hloops⟩⟩
  obtain ⟨-, -, hkeeps⟩ :=
    lower_complete_and_filled .default none (Nested.overridden.expand .default)
  exact ⟨by rw [Nested.expand_overridden]; rfl, hlower, hfilled, hkeeps hlower hfilled⟩

end JumpMacros
