import JumpMacros.Expand
import JumpMacros.Proofs.CallSites
import JumpMacros.Proofs.LabelDiagnostics
import JumpMacros.Proofs.SourceMeaning

/-!
# Modules without macro calls

**Theorem (`expandModule_of_no_calls`).** A module in which no callee denotes a macro is expanded
to itself.

Without a placeholder lowering takes no decision: it gives every statement back, with any label,
in any state.
-/

namespace JumpMacros

open SourceMeaning (calls)

namespace Lower

theorem insideLoop_pure {α : Type} (label : Option String) (a : α) :
    insideLoop label (pure a) = pure (a, Frame.ofLabel label) := rfl

theorem withFrames_pure {α : Type} (fs : List Frame) (a : α) :
    withFrames fs (pure a) = pure a := rfl

/-- A statement that is no call of a macro is no marker when expanded. -/
theorem loopLabel?_expand (package : String) {env : Env} {s : Stmt Empty}
    (h : s.invocation? env = none) : loopLabel? (s.expand package env) = none := by
  cases s with
  | simple sp x => simp [Stmt.expand, Simple.expand, h, loopLabel?]
  | hole _ hole => exact hole.elim
  | _ => rfl

variable (ctx : LowerContext) (package : String)

mutual

/-- A statement without calls of macros is expanded and lowered to itself. -/
theorem stmt_expand (env : Env) (label : Option String) : ∀ s : Stmt Empty,
    s.gather package calls env = [] → stmt ctx label (s.expand package env) = pure [s]
  | .simple sp x, h => by
    have hi : (Stmt.simple sp x).invocation? env = none := by simpa [Stmt.gather] using h
    simp [Stmt.expand, Simple.expand, hi, stmt]
  | .hole _ hole, _ => nomatch hole
  | .branch sp t b o, h => by
    simp only [Stmt.gather, List.append_eq_nil_iff] at h
    simp [Stmt.expand, stmt, block_expand env none b h.2.1, block_expand env none o h.2.2]
  | .loop sp hd b o, h => by
    simp only [Stmt.gather, List.append_eq_nil_iff] at h
    simp only [Stmt.expand, stmt, block_expand env none b h.2.1, block_expand env none o h.2.2,
      insideLoop_pure]
    rfl
  | .function sp hd b, h => by
    simp only [Stmt.gather, List.append_eq_nil_iff] at h
    simp [Stmt.expand, stmt, block_expand _ none b h.2, withFrames_pure]
  | .klass sp hd b, h => by
    simp only [Stmt.gather, List.append_eq_nil_iff] at h
    simp [Stmt.expand, stmt, block_expand _ none b h.2, withFrames_pure]
  | .withItems sp a is b, h => by
    simp only [Stmt.gather, List.append_eq_nil_iff] at h
    simp [Stmt.expand, stmt, block_expand env none b h.2]
  | .attempt sp star b hs o f, h => by
    simp only [Stmt.gather, List.append_eq_nil_iff] at h
    obtain ⟨-, ⟨⟨hb, hh⟩, ho⟩, hf⟩ := h
    simp [Stmt.expand, stmt, block_expand env none b hb, handlers_expand env hs hh,
      block_expand env none o ho, block_expand env none f hf]
  | .select sp e cs, h => by
    simp only [Stmt.gather, List.append_eq_nil_iff] at h
    simp [Stmt.expand, stmt, cases_expand env cs h.2]

theorem block_expand (env : Env) (label : Option String) : ∀ b : List (Stmt Empty),
    Stmt.gatherAll package calls env b = [] →
      block ctx label (Stmt.expandAll package env b) = pure b
  | [], _ => by rw [Stmt.expandAll, block]
  | s :: rest, h => by
    simp only [Stmt.gatherAll, List.append_eq_nil_iff] at h
    have hi : s.invocation? env = none := by
      have hs := h.1
      rw [Stmt.gather.eq_def, List.append_eq_nil_iff] at hs
      simpa using hs.1
    simp [Stmt.expandAll, block, loopLabel?_expand package hi, stmt_expand env label s h.1,
      block_expand env none rest h.2]

theorem handlers_expand (env : Env) : ∀ hs : List (Handler Empty),
    Handler.gatherAll package calls env hs = [] →
      handlers ctx (Handler.expandAll package env hs) = pure hs
  | [], _ => by rw [Handler.expandAll, handlers]
  | .mk p t n b :: hs, h => by
    simp only [Handler.gatherAll, List.append_eq_nil_iff] at h
    simp [Handler.expandAll, handlers, block_expand env none b h.1, handlers_expand env hs h.2]

theorem cases_expand (env : Env) : ∀ cs : List (Case Empty),
    Case.gatherAll package calls env cs = [] →
      cases ctx (Case.expandAll package env cs) = pure cs
  | [], _ => by rw [Case.expandAll, cases]
  | .mk p g b :: cs, h => by
    simp only [Case.gatherAll, List.append_eq_nil_iff] at h
    simp [Case.expandAll, cases, block_expand env none b h.1, cases_expand env cs h.2]

end

end Lower

/-- Lowering a module without calls of macros does nothing. -/
theorem Module.lower_expand {s : Settings} (file : Option String) {m : Module Empty}
    (h : invocations s.package (.ofTable (moduleTable s m)) m.body = []) :
    (m.expand s).lower s file = ⟨m, [], none⟩ := by
  rw [Module.lower, Module.expand, Lower.block_expand _ s.package _ none m.body h]
  rfl

section

variable {s : Settings} (file : Option String) {m : Module Empty}

/-- A module without invocations and misplaced calls is expanded to itself, unless it has no
text. -/
theorem expandModule_of_none
    (hcalls : invocations s.package (.ofTable (moduleTable s m)) m.body = [])
    (hmisplaced : misplacedCalls s.package (.ofTable (moduleTable s m)) m.body = []) :
    expandModule s file m =
      match m.written with
      | .error u => .error (.unwritable u)
      | .ok text => .ok ⟨m, [], text⟩ := by
  unfold expandModule
  simp only [hcalls, hmisplaced, Module.lower_expand file hcalls]
  rfl

/-- **A module without calls of macros is expanded to itself**, unless it has no text. -/
theorem expandModule_of_no_calls (h : ∀ v ∈ m.visits, v.macroName? s = none) :
    expandModule s file m =
      match m.written with
      | .error u => .error (.unwritable u)
      | .ok text => .ok ⟨m, [], text⟩ := by
  refine expandModule_of_none file ?_ ?_
  · rw [invocations_eq]
    exact List.filterMap_eq_nil_iff.2 fun v hv => v.invocation?_eq_none (h v hv)
  · rw [misplacedCalls_eq]
    exact List.filterMap_eq_nil_iff.2 fun v hv => v.misplaced?_eq_none (h v hv)

end

end JumpMacros
