import JumpMacros.Proofs.JumpLayout

/-!
# Jumps outside of loops

`Stmt.strays` lists the places of the plain jumps that are in the body of no loop, where Python
takes them for an error.

**Theorem (`stmt_strays`).** A statement that is laid out has the strays that it had before, whether
it is in a loop or not. A plain jump for a label is made inside of the loop with that label, and a
check that leaves a loop stands in the body of another one: an exit is for a jump to a loop further
out.
-/

namespace JumpMacros

open Node (ofStmts ofExprs)
open Lower (plainJump setFlag check labelOf? check_eq)

section

variable {Hole : Type}

mutual

/-- The places of the plain jumps in a statement that are in the body of no loop, if the statement
itself is or is not in one. A definition has loops of its own. -/
def Stmt.strays (inLoop : Bool) : Stmt Hole → List Span
  | .simple sp .breaks => if inLoop then [] else [sp]
  | .simple sp .continues => if inLoop then [] else [sp]
  | .simple _ _ => []
  | .hole _ _ => []
  | .branch _ _ b o => Stmt.blockStrays inLoop b ++ Stmt.blockStrays inLoop o
  | .loop _ _ b o => Stmt.blockStrays true b ++ Stmt.blockStrays inLoop o
  | .function _ _ b => Stmt.blockStrays false b
  | .klass _ _ b => Stmt.blockStrays false b
  | .withItems _ _ _ b => Stmt.blockStrays inLoop b
  | .attempt _ _ b hs o f =>
    Stmt.blockStrays inLoop b ++ Handler.strays inLoop hs ++ Stmt.blockStrays inLoop o ++
      Stmt.blockStrays inLoop f
  | .select _ _ cs => Case.strays inLoop cs

def Stmt.blockStrays (inLoop : Bool) : List (Stmt Hole) → List Span
  | [] => []
  | s :: rest => s.strays inLoop ++ Stmt.blockStrays inLoop rest

def Handler.strays (inLoop : Bool) : List (Handler Hole) → List Span
  | [] => []
  | .mk _ _ _ b :: hs => Stmt.blockStrays inLoop b ++ Handler.strays inLoop hs

def Case.strays (inLoop : Bool) : List (Case Hole) → List Span
  | [] => []
  | .mk _ _ b :: cs => Stmt.blockStrays inLoop b ++ Case.strays inLoop cs

end

theorem blockStrays_append (inLoop : Bool) (b b' : List (Stmt Hole)) :
    Stmt.blockStrays inLoop (b ++ b') =
      Stmt.blockStrays inLoop b ++ Stmt.blockStrays inLoop b' := by
  induction b with
  | nil => rfl
  | cons s b ih => rw [List.cons_append, Stmt.blockStrays, ih, Stmt.blockStrays, List.append_assoc]

/-- A block of one statement. -/
theorem blockStrays_singleton (inLoop : Bool) (s : Stmt Hole) :
    Stmt.blockStrays inLoop [s] = s.strays inLoop := List.append_nil _

end

theorem strays_simple (inLoop : Bool) (sp : Span) (s : Simple) :
    (Stmt.simple sp s : Stmt Empty).strays inLoop =
      (Stmt.simple sp s : Stmt Placeholder).strays inLoop := by
  cases s <;> rfl

theorem strays_resets (inLoop : Bool) (sp : Span) (y : Option String) :
    Stmt.blockStrays inLoop (resets sp y) = [] := by
  cases y <;> rfl

theorem strays_plainJump (sp : Span) (k : JumpKind) : (plainJump sp k).strays true = [] := by
  cases k <;> rfl

/-- Checks stand in the body of a loop. -/
theorem LoopLayout.strays_checks {fs : List Frame} {label : Option String}
    {b : List (Stmt Placeholder)} {f : Frame} (h : LoopLayout fs label b f) (sp : Span) :
    Stmt.blockStrays (!fs.isEmpty) (f.exits.map (check sp)) = [] := by
  cases hexits : f.exits with
  | nil => rfl
  | cons e es =>
    have hloop : (!fs.isEmpty) = true := by
      obtain ⟨k, name, inner, target, -, -, ht, -⟩ :=
        (h.exit_iff e.1 e.2).1 (hexits ▸ List.mem_cons_self)
      obtain ⟨outer, rfl⟩ := ht.split
      simp
    rw [hloop]
    generalize e :: es = exits
    induction exits with
    | nil => rfl
    | cons e es ih =>
      rw [List.map_cons, Stmt.blockStrays, ih, check_eq, Stmt.strays, blockStrays_singleton,
        strays_plainJump]
      rfl

/-- What a jump lowers to stands in the body of a loop. -/
theorem JumpLaysOut.strays {fs : List Frame} {sp : Span} {k : JumpKind} {l : Expr}
    {out : List (Stmt Empty)} (h : JumpLaysOut fs sp k l out) :
    Stmt.blockStrays (!fs.isEmpty) out = [] := by
  obtain ⟨name, inner, target, -, ht, hcase⟩ := h
  have hloop : (!fs.isEmpty) = true := by
    obtain ⟨outer, rfl⟩ := ht.split
    simp
  rw [hloop]
  rcases hcase with ⟨-, rfl⟩ | ⟨-, y, -, rfl⟩
  · rw [blockStrays_singleton, strays_plainJump]
  · rfl

mutual

/-- A statement that is laid out has no plain jumps outside of loops but the user's. -/
theorem stmt_strays (fs : List Frame) (label : Option String) :
    ∀ (s : Stmt Placeholder) (laid : List LaidLoop) (out : List (Stmt Empty)),
      s.LaysOut fs label laid out → Stmt.blockStrays (!fs.isEmpty) out = s.strays (!fs.isEmpty)
  | .simple sp s, _, _, ⟨_, hout⟩ => by
    rw [hout, blockStrays_singleton, strays_simple]
  | .hole sp (.jump k l), _, _, ⟨_, hjump⟩ => hjump.strays
  | .hole _ (.loopLabel _), _, _, ⟨_, hout⟩ => by
    rw [hout]
    rfl
  | .branch _ _ b o, _, _, ⟨l₁, l₂, b', o', hb, ho, _, hout⟩ => by
    rw [hout, blockStrays_singleton, Stmt.strays, block_strays fs none b l₁ b' hb,
      block_strays fs none o l₂ o' ho]
    rfl
  | .loop sp _ b o, _, _, ⟨f, l₁, l₂, b', o', hb, ho, hf, _, hout⟩ => by
    have hin : Stmt.blockStrays true b' = Stmt.blockStrays true b :=
      block_strays (f :: fs) none b l₁ b' hb
    rw [hout, blockStrays_append, strays_resets, Stmt.blockStrays, hf.strays_checks, Stmt.strays,
      blockStrays_append, strays_resets, hin, block_strays fs none o l₂ o' ho]
    simp [Stmt.strays]
  | .function _ _ b, laid, _, ⟨b', hb, hout⟩ => by
    rw [hout, blockStrays_singleton]
    exact block_strays [] none b laid b' hb
  | .klass _ _ b, laid, _, ⟨b', hb, hout⟩ => by
    rw [hout, blockStrays_singleton]
    exact block_strays [] none b laid b' hb
  | .withItems _ _ _ b, laid, _, ⟨b', hb, hout⟩ => by
    rw [hout, blockStrays_singleton]
    exact block_strays fs none b laid b' hb
  | .attempt _ _ b hs o f, _, _, ⟨l₁, l₂, l₃, l₄, b', hs', o', f', hb, hh, ho, hf, _, hout⟩ => by
    rw [hout, blockStrays_singleton, Stmt.strays, block_strays fs none b l₁ b' hb,
      handlers_strays fs hs l₂ hs' hh, block_strays fs none o l₃ o' ho,
      block_strays fs none f l₄ f' hf]
    rfl
  | .select _ _ cs, laid, _, ⟨cs', hcs, hout⟩ => by
    rw [hout, blockStrays_singleton]
    exact cases_strays fs cs laid cs' hcs

theorem block_strays (fs : List Frame) (label : Option String) :
    ∀ (b : List (Stmt Placeholder)) (laid : List LaidLoop) (out : List (Stmt Empty)),
      Stmt.BlockLaysOut fs label laid out b →
      Stmt.blockStrays (!fs.isEmpty) out = Stmt.blockStrays (!fs.isEmpty) b
  | [], _, _, ⟨_, hout⟩ => by
    rw [hout]
    rfl
  | s :: rest, _, _, ⟨l₁, l₂, first, more, hs, hrest, _, hout⟩ => by
    rw [hout, blockStrays_append, stmt_strays fs label s l₁ first hs,
      block_strays fs _ rest l₂ more hrest]
    rfl

theorem handlers_strays (fs : List Frame) :
    ∀ (hs : List (Handler Placeholder)) (laid : List LaidLoop) (out : List (Handler Empty)),
      Handler.LayOut fs laid out hs →
      Handler.strays (!fs.isEmpty) out = Handler.strays (!fs.isEmpty) hs
  | [], _, _, ⟨_, hout⟩ => by
    rw [hout]
    rfl
  | .mk _ _ _ b :: hs, _, _, ⟨l₁, l₂, b', hs', hb, hh, _, hout⟩ => by
    rw [hout, Handler.strays, block_strays fs none b l₁ b' hb, handlers_strays fs hs l₂ hs' hh]
    rfl

theorem cases_strays (fs : List Frame) :
    ∀ (cs : List (Case Placeholder)) (laid : List LaidLoop) (out : List (Case Empty)),
      Case.LayOut fs laid out cs → Case.strays (!fs.isEmpty) out = Case.strays (!fs.isEmpty) cs
  | [], _, _, ⟨_, hout⟩ => by
    rw [hout]
    rfl
  | .mk _ _ b :: cs, _, _, ⟨l₁, l₂, b', cs', hb, hcs, _, hout⟩ => by
    rw [hout, Case.strays, block_strays fs none b l₁ b' hb, cases_strays fs cs l₂ cs' hcs]
    rfl

end

end JumpMacros
