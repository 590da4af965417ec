import JumpMacros.Lowering

/-!
# Where placeholders stand

A placeholder of an expanded tree is listed here with everything around it: the statement after
it in its block, and the layers of compound statements it lies in, innermost first. Whether a
jump can reach a loop is a question about these layers alone. Nothing in this file knows how
lowering works; `JumpMacros.Proofs.LabelDiagnostics` shows that lowering reports exactly the
`Site.faults` of each site, in source order.
-/

namespace JumpMacros

/-- A jump to a loop with a name. -/
abbrev NamedJump := JumpKind × String

/-- The parts of compound statements that hold blocks. -/
inductive Part where
  | body
  | orelse
  | handler
  | final
  | case
deriving DecidableEq, Repr

/-- A compound statement around a place: the statement directly before it in its block, the
statement itself, and the part of it that the place is in. -/
structure Layer where
  before : Option (Stmt Placeholder)
  stmt : Stmt Placeholder
  part : Part

/-- A placeholder in its surroundings. -/
structure Site where
  span : Span
  hole : Placeholder
  after : Option (Stmt Placeholder)
  around : List Layer

/-- Whether a statement opens a scope of its own. -/
def Stmt.isDefinition {Hole : Type} : Stmt Hole → Bool
  | .function _ _ _ | .klass _ _ _ => true
  | _ => false

/-! ## All placeholders in source order -/

mutual

/-- The placeholders in a statement that stands between two others. -/
def Stmt.sites (around : List Layer) (before after : Option (Stmt Placeholder)) :
    Stmt Placeholder → List Site
  | .simple _ _ => []
  | .hole sp h => [⟨sp, h, after, around⟩]
  | .branch sp t b o =>
    Stmt.blockSites (⟨before, .branch sp t b o, .body⟩ :: around) none b ++
      Stmt.blockSites (⟨before, .branch sp t b o, .orelse⟩ :: around) none o
  | .loop sp h b o =>
    Stmt.blockSites (⟨before, .loop sp h b o, .body⟩ :: around) none b ++
      Stmt.blockSites (⟨before, .loop sp h b o, .orelse⟩ :: around) none o
  | .function sp h b => Stmt.blockSites (⟨before, .function sp h b, .body⟩ :: around) none b
  | .klass sp h b => Stmt.blockSites (⟨before, .klass sp h b, .body⟩ :: around) none b
  | .withItems sp a is b =>
    Stmt.blockSites (⟨before, .withItems sp a is b, .body⟩ :: around) none b
  | .attempt sp star b hs o f =>
    Stmt.blockSites (⟨before, .attempt sp star b hs o f, .body⟩ :: around) none b ++
      Handler.sites (⟨before, .attempt sp star b hs o f, .handler⟩ :: around) hs ++
      Stmt.blockSites (⟨before, .attempt sp star b hs o f, .orelse⟩ :: around) none o ++
      Stmt.blockSites (⟨before, .attempt sp star b hs o f, .final⟩ :: around) none f
  | .select sp e cs => Case.sites (⟨before, .select sp e cs, .case⟩ :: around) cs

/-- The placeholders in the statements of a block that come after a statement. -/
def Stmt.blockSites (around : List Layer) (before : Option (Stmt Placeholder)) :
    List (Stmt Placeholder) → List Site
  | [] => []
  | s :: rest => s.sites around before rest.head? ++ Stmt.blockSites around (some s) rest

def Handler.sites (around : List Layer) : List (Handler Placeholder) → List Site
  | [] => []
  | .mk _ _ _ b :: hs => Stmt.blockSites around none b ++ Handler.sites around hs

def Case.sites (around : List Layer) : List (Case Placeholder) → List Site
  | [] => []
  | .mk _ _ b :: cs => Stmt.blockSites around none b ++ Case.sites around cs

end

/-- The placeholders of a module in source order. -/
def Module.sites (m : Module Placeholder) : List Site := Stmt.blockSites [] none m.body

/-! ## The loops a jump can go to -/

namespace Layer

/-- Whether the place is in the body of a loop, and not in its `else` part. -/
def isLoopBody (l : Layer) : Bool := l.stmt.isLoop && l.part = .body

/-- The name that a statement puts on the one directly after it. -/
def labelFrom : Option (Stmt Placeholder) → Option String
  | some (.hole _ (.loopLabel e)) => Lower.labelOf? e
  | _ => none

/-- The name that the statement directly before puts on the layer's statement. -/
def label? (l : Layer) : Option String := labelFrom l.before

/-- `l` is the body of a loop with the given name around a place, and no definition is among the
layers `inner` between the two. -/
def Encloses (around inner : List Layer) (l : Layer) (name : String) : Prop :=
  (∃ outer, around = inner ++ l :: outer) ∧ (∀ x ∈ inner, x.stmt.isDefinition = false) ∧
    l.isLoopBody = true ∧ l.label? = some name

/-- The names of the loops around a place, innermost first, up to the nearest definition. A loop
without a name is listed as `none`. -/
def loopLabels : List Layer → List (Option String)
  | [] => []
  | l :: ls =>
    if l.stmt.isDefinition then [] else if l.isLoopBody then l.label? :: loopLabels ls
    else loopLabels ls

theorem isLoopBody_of_isDefinition {l : Layer} (h : l.stmt.isDefinition = true) :
    l.isLoopBody = false := by
  obtain ⟨_, s, _⟩ := l
  cases s <;> simp_all [Stmt.isDefinition, isLoopBody, Stmt.isLoop]

theorem Encloses.cons {l x : Layer} {around inner : List Layer} {name : String}
    (hx : x.stmt.isDefinition = false) (h : Encloses around inner l name) :
    Encloses (x :: around) (x :: inner) l name := by
  obtain ⟨⟨outer, rfl⟩, hin, hl⟩ := h
  refine ⟨⟨outer, rfl⟩, fun y hy => ?_, hl⟩
  rcases List.mem_cons.1 hy with rfl | hy
  · exact hx
  · exact hin y hy

/-- A name is among those of the loops around a place exactly if some loop with that name encloses
the place. -/
theorem mem_loopLabels {around : List Layer} {name : String} :
    some name ∈ loopLabels around ↔ ∃ inner l, Encloses around inner l name := by
  induction around with
  | nil => simp [loopLabels, Encloses]
  | cons x ls ih =>
    -- A loop that encloses the place is `x` itself or lies further out, past `x`.
    have split : (∃ inner l, Encloses (x :: ls) inner l name) ↔
        (x.isLoopBody = true ∧ x.label? = some name) ∨
          x.stmt.isDefinition = false ∧ ∃ inner l, Encloses ls inner l name := by
      constructor
      · rintro ⟨inner, l, ⟨outer, ho⟩, hin, hl⟩
        cases inner with
        | nil =>
          obtain ⟨rfl, rfl⟩ := List.cons.inj ho
          exact .inl hl
        | cons y inner =>
          obtain ⟨rfl, rfl⟩ := List.cons.inj ho
          refine .inr ⟨hin x List.mem_cons_self, inner, l, ⟨outer, rfl⟩, ?_, hl⟩
          exact fun z hz => hin z (List.mem_cons_of_mem _ hz)
      · rintro (hl | ⟨hx, inner, l, h⟩)
        · exact ⟨[], x, ⟨ls, rfl⟩, by simp, hl⟩
        · exact ⟨x :: inner, l, h.cons hx⟩
    rw [split, ← ih]
    by_cases hd : x.stmt.isDefinition = true
    · simp [loopLabels, hd, isLoopBody_of_isDefinition hd]
    · by_cases hb : x.isLoopBody = true
      · simp [loopLabels, hd, hb, eq_comm]
      · simp [loopLabels, hd, hb]

end Layer

/-! ## What is wrong with a placeholder -/

/-- What can be wrong with a placeholder: its label is no name, no loop follows the label, or no
loop with that name encloses the jump. -/
inductive LabelFault where
  | invalid (label : Expr)
  | withoutLoop
  | unknown (name : String)

namespace Site

/-- Whether some loop with the name encloses the site. -/
def Reaches (s : Site) (name : String) : Prop := ∃ inner l, Layer.Encloses s.around inner l name

instance (s : Site) (name : String) : Decidable (s.Reaches name) :=
  decidable_of_iff _ Layer.mem_loopLabels

/-- Whether a loop comes directly after the site. -/
def beforeLoop (s : Site) : Bool := (s.after.map Stmt.isLoop).getD false

/-- The faults of a label. -/
def labelFaults (label : Expr) : List LabelFault :=
  if (Lower.labelOf? label).isNone then [.invalid label] else []

/-- The faults of a placeholder where it stands. -/
def faults (s : Site) : List LabelFault :=
  match s.hole with
  | .loopLabel l => labelFaults l ++ if s.beforeLoop then [] else [.withoutLoop]
  | .jump _ l =>
    match Lower.labelOf? l with
    | none => [.invalid l]
    | some name => if s.Reaches name then [] else [.unknown name]

end Site

namespace LabelFault

/-- Why a fault has no wording: its label cannot be written. -/
def unwritable? : LabelFault → Option Unwritable
  | .invalid l =>
    match l.written with
    | .ok _ => none
    | .error u => some u
  | .withoutLoop | .unknown _ => none

/-- The wording of a fault, unless its label cannot be written. -/
def cause? : LabelFault → Option Cause
  | .invalid l =>
    match l.written with
    | .ok t => some (.invalidLabel t)
    | .error _ => none
  | .withoutLoop => some .labelWithoutLoop
  | .unknown n => some (.unknownLabel n)

/-- A fault is reported as a diagnostic at the start of its statement. -/
def diagnostic? (file : Option String) (sp : Span) (f : LabelFault) : Option Diagnostic :=
  f.cause?.map fun c => .located c file sp.start

end LabelFault

/-- The faults of placeholders, each with the statement it is about. -/
def Site.allFaults (ss : List Site) : List (Span × LabelFault) :=
  ss.flatMap fun s => s.faults.map (s.span, ·)

@[simp] theorem Site.allFaults_append (ss ts : List Site) :
    Site.allFaults (ss ++ ts) = Site.allFaults ss ++ Site.allFaults ts := by
  simp [Site.allFaults]

/-- All label faults of a module in source order. -/
def Module.labelFaults (m : Module Placeholder) : List (Span × LabelFault) :=
  Site.allFaults m.sites

end JumpMacros
