import JumpMacros.Proofs.FrameGrowth

/-!
# Labels are diagnosed and resolved exactly

**Theorem (`lower_reports_and_resolves`).** Lowering reports the faults of labels, one diagnostic
for each and in source order, and resolves every jump to the innermost loop of its name. There is
one exception: if the label of a fault has no text, no list of diagnostics comes out but the reason
why it has none.

The two halves are `Lower.block_reports` and `Lower.block_builds`, taken at the start of a module,
where no loop is around and every name of the tree is taken.
-/

namespace JumpMacros

namespace LabelFault

/-- The code of a fault's diagnostic. -/
def code : LabelFault → String
  | .invalid _ => "E_INVALID_LABEL"
  | .withoutLoop => "E_LABEL_POSITION"
  | .unknown _ => "E_UNKNOWN_LABEL"

theorem code_diagnostic? {file : Option String} {sp : Span} {f : LabelFault} {d : Diagnostic}
    (h : f.diagnostic? file sp = some d) : d.cause.code = f.code := by
  obtain ⟨c, hc, rfl⟩ := Option.map_eq_some_iff.1 h
  cases f with
  | invalid l =>
    simp only [cause?] at hc
    split at hc <;> simp_all [Cause.code, code, Diagnostic.located]
    subst hc
    rfl
  | withoutLoop => obtain rfl := Option.some.inj hc; rfl
  | unknown n => obtain rfl := Option.some.inj hc; rfl

/-- A fault without a diagnostic is one whose label has no text. -/
theorem diagnostic?_eq_none (file : Option String) (sp : Span) (f : LabelFault) :
    f.diagnostic? file sp = none ↔ f.unwritable?.isSome = true := by
  cases f with
  | invalid l => cases h : l.written <;> simp [diagnostic?, cause?, unwritable?, h]
  | withoutLoop => simp [diagnostic?, cause?, unwritable?]
  | unknown n => simp [diagnostic?, cause?, unwritable?]

end LabelFault

namespace Module

/-- The reason why the label of some fault has no text, if there is one. -/
def unwritableLabel? (m : Module Placeholder) : Option Unwritable :=
  m.labelFaults.findSome? fun f => f.2.unwritable?

/-- What lowering leaves in its state, by `Lower.block_reports`. -/
theorem lower_reports (s : Settings) (file : Option String) (m : Module Placeholder) :
    (m.lower s file).diagnostics = m.labelFaults.filterMap (fun f => f.2.diagnostic? file f.1) ∧
      (m.lower s file).unwritable = m.unwritableLabel? := by
  have h := Lower.block_reports ⟨file, s.flagPrefix⟩ [] none m.body
    ⟨[], namesIn m.body, [], none⟩ rfl
  refine ⟨h.2.1.trans (List.nil_append _), h.2.2.trans ?_⟩
  simp [LowerState.reported, unwritableLabel?, labelFaults, Module.sites]

/-- What lowering makes of the body, by `Lower.block_builds`. The flags of its loops are all
different, and none is a name of the module. -/
theorem lower_lowersBy (s : Settings) (file : Option String) (m : Module Placeholder) :
    ∃ loops : List Frame, Stmt.BlockLowersBy (IsFlagFor (namesIn m.body) s.flagPrefix) [] none
        loops (m.lower s file).module.body m.body ∧
      (flagsOf loops).Nodup ∧ ∀ x ∈ flagsOf loops, x ∉ namesIn m.body := by
  obtain ⟨-, hadv, loops, hown, hout⟩ :=
    Lower.block_builds ⟨file, s.flagPrefix⟩ (namesIn m.body) none m.body
      ⟨[], namesIn m.body, [], none⟩ ⟨.nil _, by simp [flagsOf], List.Subset.refl _⟩
  refine ⟨loops, hout [] ⟨?_, .nil _⟩, hown.nodup, hown.fresh⟩
  -- No loop is around a module, before or after.
  rw [List.forall₂_nil_left_iff.1 hadv.frames]
  exact .nil

theorem lower_lowersTo (s : Settings) (file : Option String) (m : Module Placeholder) :
    Stmt.BlockLowersTo (IsFlagFor (namesIn m.body) s.flagPrefix) [] none
      (m.lower s file).module.body m.body := by
  obtain ⟨loops, h, -⟩ := m.lower_lowersBy s file
  exact h.lowersTo

/-- If all labels can be written, each fault has its diagnostic. -/
theorem map_diagnostic?_of_writable (file : Option String) {m : Module Placeholder}
    (h : m.unwritableLabel? = none) :
    (m.labelFaults.filterMap fun f => f.2.diagnostic? file f.1).map some =
      m.labelFaults.map fun f => f.2.diagnostic? file f.1 := by
  have hall : ∀ f ∈ m.labelFaults, (f.2.diagnostic? file f.1).isSome = true := by
    intro f hf
    have hw := List.findSome?_eq_none_iff.1 h f hf
    by_contra hn
    rw [Option.not_isSome_iff_eq_none, LabelFault.diagnostic?_eq_none, hw] at hn
    cases hn
  generalize m.labelFaults = fs at hall
  induction fs with
  | nil => rfl
  | cons f fs ih =>
    obtain ⟨d, hd⟩ := Option.isSome_iff_exists.1 (hall f List.mem_cons_self)
    simp only [List.filterMap_cons, hd, List.map_cons, List.cons.injEq, true_and]
    exact ih fun g hg => hall g (List.mem_cons_of_mem _ hg)

/-- If all labels can be written, the diagnostics have the codes of the faults. -/
theorem map_code_of_writable {file : Option String} {m : Module Placeholder}
    (h : m.unwritableLabel? = none) :
    (m.labelFaults.filterMap fun f => f.2.diagnostic? file f.1).map (·.cause.code) =
      m.labelFaults.map fun f => f.2.code := by
  have hmap := map_diagnostic?_of_writable file h
  generalize m.labelFaults.filterMap (fun f => f.2.diagnostic? file f.1) = ds at hmap ⊢
  generalize m.labelFaults = fs at hmap ⊢
  induction fs generalizing ds with
  | nil => cases ds <;> simp_all
  | cons f fs ih =>
    cases ds with
    | nil => simp at hmap
    | cons d ds =>
      obtain ⟨hd, hds⟩ := List.cons.inj hmap
      rw [List.map_cons, List.map_cons, LabelFault.code_diagnostic? hd.symm, ih ds hds]

theorem labelFaults_eq_nil {m : Module Placeholder} :
    m.labelFaults = [] ↔ ∀ site ∈ m.sites, site.faults = [] := by
  simp [labelFaults, Site.allFaults]

/-- Nothing is reported, and no label lacks a text, exactly if no label is at fault. -/
theorem lower_succeeds_iff {s : Settings} {file : Option String} {m : Module Placeholder} :
    (m.lower s file).unwritable = none ∧ (m.lower s file).diagnostics = [] ↔
      ∀ site ∈ m.sites, site.faults = [] := by
  obtain ⟨hd, hu⟩ := m.lower_reports s file
  rw [← labelFaults_eq_nil, hu, hd]
  constructor
  · rintro ⟨hw, hnil⟩
    have hmap := map_diagnostic?_of_writable file hw
    rw [hnil] at hmap
    simpa using hmap.symm
  · intro hnil
    simp [unwritableLabel?, hnil]

end Module

/-- **Exact label diagnostics.** Lowering gives the diagnostics of all label faults in source
order, or the reason why some label at fault has no text; it gives neither exactly if every marker
and every jump is in order. In any case each jump is resolved to the innermost loop of its
name. -/
theorem lower_reports_and_resolves (s : Settings) (file : Option String)
    (m : Module Placeholder) :
    (m.lower s file).unwritable = m.unwritableLabel? ∧
    (m.unwritableLabel? = none →
      (m.lower s file).diagnostics.map some =
        m.labelFaults.map (fun f => f.2.diagnostic? file f.1) ∧
      (m.lower s file).diagnostics.map (·.cause.code) = m.labelFaults.map fun f => f.2.code) ∧
    ((m.lower s file).unwritable = none ∧ (m.lower s file).diagnostics = [] ↔
      ∀ site ∈ m.sites, site.faults = []) ∧
    Stmt.BlockLowersTo (IsFlagFor (namesIn m.body) s.flagPrefix) [] none
      (m.lower s file).module.body m.body := by
  obtain ⟨hd, hu⟩ := m.lower_reports s file
  refine ⟨hu, fun h => ?_, Module.lower_succeeds_iff, m.lower_lowersTo s file⟩
  rw [hd]
  exact ⟨Module.map_diagnostic?_of_writable file h, Module.map_code_of_writable h⟩

/-- A label that is a formatted string with a field that needs a backslash. -/
def bellLabel : Expr :=
  .fstring ⟨3, 6⟩ [.field (.const ⟨3, 9⟩ (.str ⟨[7]⟩ false)) none none]

/-- A loop with such a label. -/
def bellModule : Module Placeholder :=
  ⟨[.hole ⟨3, 0, 3, 14⟩ (.loopLabel bellLabel),
    .loop ⟨4, 0, 5, 8⟩ (.over false (.name ⟨4, 4⟩ "x" .store) (.name ⟨4, 9⟩ "xs" .load))
      [.simple ⟨5, 4, 5, 8⟩ .pass] []]⟩

theorem bellLabel_written : bellLabel.written = .error .backslash := by
  have htext : (Expr.const ⟨3, 9⟩ (.str ⟨[7]⟩ false)).text true .or = "'\\x07'" := by
    decide
  simp [bellLabel, Expr.written, Node.firstUnwritable?, Node.inText, Node.unwritable?,
    Node.writtenChildren, Constant.unwritable?, Node.children, Expr.children, Node.ofExprs,
    Piece.firstUnwritable?, Piece.unwritable?, Expr.longLiteral?, htext]

/-- The label is at fault, but no diagnostic comes out. -/
theorem lower_bellModule :
    bellModule.labelFaults.map (fun f => f.2.code) = ["E_INVALID_LABEL"] ∧
      (bellModule.lower .default none).diagnostics = [] ∧
      (bellModule.lower .default none).unwritable = some .backslash := by
  have hfaults : bellModule.labelFaults = [(⟨3, 0, 3, 14⟩, .invalid bellLabel)] := rfl
  obtain ⟨hd, hu⟩ := bellModule.lower_reports .default none
  rw [hd, hu, Module.unwritableLabel?, hfaults]
  simp [LabelFault.code, LabelFault.diagnostic?, LabelFault.cause?, LabelFault.unwritable?,
    bellLabel_written]

end JumpMacros
