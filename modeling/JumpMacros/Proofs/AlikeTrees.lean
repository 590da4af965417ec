import JumpMacros.Proofs.LabelDiagnostics

/-!
# Trees that are alike

`Stmt.AllLike L` compares two blocks statement by statement: they nest in the same way, with the
same heads, patterns and handlers, and a `Likeness` says when extents, simple statements, tests of
an `if` and placeholders count as the same. Some statements can be set apart, so that they may stand
for each other whatever they hold. `Likeness.exact` asks for the same parts everywhere,
`Likeness.relabelled` for labels that correspond under a renaming, and `Likeness.reflagged` for
flags that do.
-/

namespace JumpMacros

/-- When the parts of two trees count as the same, and which statements are set apart. -/
structure Likeness (Hole : Type) where
  span : Span → Span → Prop
  simple : Simple → Simple → Prop
  test : Expr → Expr → Prop
  hole : Hole → Hole → Prop
  apart : Stmt Hole → Stmt Hole → Prop

section

variable {Hole : Type} (L : Likeness Hole)

mutual

/-- Two statements are alike in all their parts. -/
def Stmt.Like : Stmt Hole → Stmt Hole → Prop
  | .simple sp x, t => ∃ sp' x', t = .simple sp' x' ∧ L.span sp sp' ∧ L.simple x x'
  | .hole sp h, t => ∃ sp' h', t = .hole sp' h' ∧ L.span sp sp' ∧ L.hole h h'
  | .branch sp e b o, t => ∃ sp' e' b' o', t = .branch sp' e' b' o' ∧ L.span sp sp' ∧
      L.test e e' ∧ Stmt.AllLike b b' ∧ Stmt.AllLike o o'
  | .loop sp h b o, t => ∃ sp' b' o', t = .loop sp' h b' o' ∧ L.span sp sp' ∧
      Stmt.AllLike b b' ∧ Stmt.AllLike o o'
  | .function sp h b, t => ∃ sp' b', t = .function sp' h b' ∧ L.span sp sp' ∧ Stmt.AllLike b b'
  | .klass sp h b, t => ∃ sp' b', t = .klass sp' h b' ∧ L.span sp sp' ∧ Stmt.AllLike b b'
  | .withItems sp a is b, t => ∃ sp' b', t = .withItems sp' a is b' ∧ L.span sp sp' ∧
      Stmt.AllLike b b'
  | .attempt sp star b hs o f, t => ∃ sp' b' hs' o' f', t = .attempt sp' star b' hs' o' f' ∧
      L.span sp sp' ∧ Stmt.AllLike b b' ∧ Handler.AllLike hs hs' ∧ Stmt.AllLike o o' ∧
      Stmt.AllLike f f'
  | .select sp e cs, t => ∃ sp' cs', t = .select sp' e cs' ∧ L.span sp sp' ∧ Case.AllLike cs cs'
termination_by structural s => s

/-- Two blocks are alike, statement by statement, where none is set apart. -/
def Stmt.AllLike : List (Stmt Hole) → List (Stmt Hole) → Prop
  | [], ts => ts = []
  | s :: ss, ts => ∃ t ts', ts = t :: ts' ∧ (L.apart s t ∨ s.Like t) ∧ Stmt.AllLike ss ts'
termination_by structural ss => ss

def Handler.AllLike : List (Handler Hole) → List (Handler Hole) → Prop
  | [], hs' => hs' = []
  | .mk p t n b :: hs, hs' => ∃ b' rest, hs' = .mk p t n b' :: rest ∧ Stmt.AllLike b b' ∧
      Handler.AllLike hs rest
termination_by structural hs => hs

def Case.AllLike : List (Case Hole) → List (Case Hole) → Prop
  | [], cs' => cs' = []
  | .mk p g b :: cs, cs' => ∃ b' rest, cs' = .mk p g b' :: rest ∧ Stmt.AllLike b b' ∧
      Case.AllLike cs rest
termination_by structural cs => cs

end

variable {L}

theorem Stmt.allLike_cons {s t : Stmt Hole} {ss ts : List (Stmt Hole)}
    (h : L.apart s t ∨ s.Like L t) (hs : Stmt.AllLike L ss ts) :
    Stmt.AllLike L (s :: ss) (t :: ts) :=
  ⟨t, ts, rfl, h, hs⟩

theorem Stmt.AllLike.append {ss ss' ts ts' : List (Stmt Hole)} (h : Stmt.AllLike L ss ss')
    (h' : Stmt.AllLike L ts ts') : Stmt.AllLike L (ss ++ ts) (ss' ++ ts') := by
  induction ss generalizing ss' with
  | nil =>
    obtain rfl := h
    exact h'
  | cons s ss ih =>
    obtain ⟨t, rest, rfl, hs, hrest⟩ := h
    exact Stmt.allLike_cons hs (ih hrest)

end

/-- What every part is the same as. -/
structure Likeness.Refl {Hole : Type} (L : Likeness Hole) : Prop where
  span : ∀ sp, L.span sp sp
  simple : ∀ x, L.simple x x
  test : ∀ e, L.test e e
  hole : ∀ h, L.hole h h

section

variable {Hole : Type} {L : Likeness Hole}

mutual

theorem Stmt.like_refl (h : L.Refl) : ∀ s : Stmt Hole, s.Like L s
  | .simple sp x => ⟨sp, x, rfl, h.span sp, h.simple x⟩
  | .hole sp x => ⟨sp, x, rfl, h.span sp, h.hole x⟩
  | .branch sp e b o =>
    ⟨sp, e, b, o, rfl, h.span sp, h.test e, Stmt.allLike_refl h b, Stmt.allLike_refl h o⟩
  | .loop sp _ b o => ⟨sp, b, o, rfl, h.span sp, Stmt.allLike_refl h b, Stmt.allLike_refl h o⟩
  | .function sp _ b => ⟨sp, b, rfl, h.span sp, Stmt.allLike_refl h b⟩
  | .klass sp _ b => ⟨sp, b, rfl, h.span sp, Stmt.allLike_refl h b⟩
  | .withItems sp _ _ b => ⟨sp, b, rfl, h.span sp, Stmt.allLike_refl h b⟩
  | .attempt sp _ b hs o f => ⟨sp, b, hs, o, f, rfl, h.span sp, Stmt.allLike_refl h b,
      Handler.allLike_refl h hs, Stmt.allLike_refl h o, Stmt.allLike_refl h f⟩
  | .select sp _ cs => ⟨sp, cs, rfl, h.span sp, Case.allLike_refl h cs⟩

theorem Stmt.allLike_refl (h : L.Refl) : ∀ b : List (Stmt Hole), Stmt.AllLike L b b
  | [] => rfl
  | s :: ss => ⟨s, ss, rfl, .inr (Stmt.like_refl h s), Stmt.allLike_refl h ss⟩

theorem Handler.allLike_refl (h : L.Refl) : ∀ hs : List (Handler Hole), Handler.AllLike L hs hs
  | [] => rfl
  | .mk _ _ _ b :: hs => ⟨b, hs, rfl, Stmt.allLike_refl h b, Handler.allLike_refl h hs⟩

theorem Case.allLike_refl (h : L.Refl) : ∀ cs : List (Case Hole), Case.AllLike L cs cs
  | [] => rfl
  | .mk _ _ b :: cs => ⟨b, cs, rfl, Stmt.allLike_refl h b, Case.allLike_refl h cs⟩

end

end

namespace Likeness

/-- The same parts everywhere, apart from the extents. -/
def exact {Hole : Type} (span : Span → Span → Prop) (apart : Stmt Hole → Stmt Hole → Prop) :
    Likeness Hole :=
  ⟨span, fun x x' => x' = x, fun e e' => e' = e, fun h h' => h' = h, apart⟩

theorem exact_refl {Hole : Type} {span : Span → Span → Prop} (h : ∀ sp, span sp sp)
    (apart : Stmt Hole → Stmt Hole → Prop) : (exact span apart).Refl :=
  ⟨h, fun _ => rfl, fun _ => rfl, fun _ => rfl⟩

end Likeness

/-! ## Labels -/

section

variable (labels : Set String) (ren : String → String)

/-- Names of loops that correspond under a renaming of the names `labels`. -/
structure NamesAlike (n n' : Option String) : Prop where
  eq_map : n' = n.map ren
  mem : ∀ x ∈ n, x ∈ labels

/-- Labels that spell corresponding names, each as a name or as a string. A label that spells none
is left as it is. -/
structure LabelsAlike (l l' : Expr) : Prop where
  names : NamesAlike labels ren (Lower.labelOf? l) (Lower.labelOf? l')
  eq_of_none : Lower.labelOf? l = none → l' = l

/-- Placeholders of the same kind, with labels that correspond. -/
def Placeholder.Alike : Placeholder → Placeholder → Prop
  | .jump k l, h => ∃ l', h = .jump k l' ∧ LabelsAlike labels ren l l'
  | .loopLabel l, h => ∃ l', h = .loopLabel l' ∧ LabelsAlike labels ren l l'

end

/-- Trees in which only the labels differ, under a renaming. -/
def Likeness.relabelled (labels : Set String) (ren : String → String) (span : Span → Span → Prop)
    (apart : Stmt Placeholder → Stmt Placeholder → Prop) : Likeness Placeholder :=
  ⟨span, fun x x' => x' = x, fun e e' => e' = e, Placeholder.Alike labels ren, apart⟩

/-! ## Flags -/

/-- An assignment of a truth value to a flag, with the flag renamed. -/
def Simple.reflagged (σ : String → String) : Simple → Simple
  | .assign [.name p x .store] (.const q (.bool v)) =>
    .assign [.name p (σ x) .store] (.const q (.bool v))
  | s => s

/-- A test of a flag, with the flag renamed. -/
def Expr.reflagged (σ : String → String) : Expr → Expr
  | .name p x .load => .name p (σ x) .load
  | e => e

/-- Trees in which only the flags differ, under a renaming. -/
def Likeness.reflagged (σ : String → String) (span : Span → Span → Prop)
    (apart : Stmt Empty → Stmt Empty → Prop) : Likeness Empty :=
  ⟨span, fun x x' => x' = x.reflagged σ, fun e e' => e' = e.reflagged σ, fun h h' => h' = h, apart⟩

end JumpMacros
