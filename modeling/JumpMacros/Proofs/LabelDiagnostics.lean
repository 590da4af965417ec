import JumpMacros.Proofs.Sites
import Mathlib.Data.List.TakeWhile

/-!
# Lowering reports exactly the faults of labels

**Theorem (`Lower.block_reports`).** Lowering a block adds to the state the faults of the sites of
the block, in source order, and nothing else; and it leaves the names of the loops around as they
were.

The traversal keeps a stack of frames and a pending label, while the faults of a site are about
the layers around it. The two meet in `Layer.loopLabels`: the names on the stack are the names of
the loops around, up to the nearest definition. Only the names matter here, so flags and checks
that are added to the frames on the way do not disturb the argument.
-/

namespace JumpMacros

namespace LowerState

/-- The state after faults have been reported at a place. -/
def reported (file : Option String) (fs : List (Span × LabelFault)) (s : LowerState) :
    LowerState :=
  { s with
    diagnostics := s.diagnostics ++ fs.filterMap fun f => f.2.diagnostic? file f.1
    unwritable := s.unwritable <|> fs.findSome? fun f => f.2.unwritable? }

/-- The names of the loops around. -/
def labels (s : LowerState) : List (Option String) := s.frames.map Frame.label

@[simp] theorem frames_reported (file : Option String) (fs : List (Span × LabelFault))
    (s : LowerState) : (s.reported file fs).frames = s.frames := rfl

@[simp] theorem reported_nil (file : Option String) (s : LowerState) :
    s.reported file [] = s := by
  simp [reported]

end LowerState

namespace Lower

variable {ctx : LowerContext} {α β : Type}

/-! ## Running the parts -/

theorem run_pure (a : α) (s : LowerState) : (pure a : Lower α).run s = (a, s) := rfl

theorem run_bind (m : Lower α) (f : α → Lower β) (s : LowerState) :
    (m >>= f).run s = (f (m.run s).1).run (m.run s).2 := rfl

theorem report_run (sp : Span) (f : LabelFault) (c : Cause) (hc : f.cause? = some c)
    (hu : f.unwritable? = none) (s : LowerState) :
    (report ctx sp c).run s = ((), s.reported ctx.file [(sp, f)]) := by
  simp [report, LowerState.reported, LabelFault.diagnostic?, hc, hu]
  rfl

/-- `labelName` answers with the name that the label spells and reports a label without one. -/
theorem labelName_run (sp : Span) (l : Expr) (s : LowerState) :
    (labelName ctx sp l).run s =
      (labelOf? l, s.reported ctx.file ((Site.labelFaults l).map (sp, ·))) := by
  unfold labelName Site.labelFaults
  cases h : labelOf? l with
  | some n =>
    rw [if_neg (by simp), List.map_nil, LowerState.reported_nil]
    rfl
  | none =>
    cases hw : l.written with
    | ok t =>
      have hr : (report ctx sp (.invalidLabel t)).run s =
          ((), s.reported ctx.file [(sp, .invalid l)]) :=
        report_run sp (.invalid l) (.invalidLabel t) (by simp [LabelFault.cause?, hw])
          (by simp [LabelFault.unwritable?, hw]) s
      simp only [run_bind, hr, run_pure]
      rfl
    | error u =>
      simp [LowerState.reported, LabelFault.diagnostic?, LabelFault.cause?,
        LabelFault.unwritable?, hw]
      rfl

theorem insideLoop_run (label : Option String) (m : Lower α) (s : LowerState) :
    (insideLoop label m).run s =
      (let r := m.run { s with frames := Frame.ofLabel label :: s.frames }
       ((r.1, r.2.frames.headD (Frame.ofLabel label)),
        { r.2 with frames := r.2.frames.drop 1 })) := rfl

theorem withFrames_run (fs : List Frame) (m : Lower α) (s : LowerState) :
    (withFrames fs m).run s =
      (let r := m.run { s with frames := fs }
       (r.1, { r.2 with frames := s.frames })) := rfl

/-! ## Jumps -/

theorem jump_run_invalid (sp : Span) (k : JumpKind) {l : Expr} (hl : labelOf? l = none)
    (s : LowerState) :
    (jump ctx sp k l).run s =
      ([plainJump sp k], s.reported ctx.file [(sp, .invalid l)]) := by
  unfold jump
  rw [run_bind, labelName_run, hl, Site.labelFaults, hl]
  rfl

/-- The frames split at the innermost one with a name, if there is one. -/
theorem frames_split (name : String) (fs : List Frame) :
    (∀ f ∈ fs, f.label ≠ some name) ∨ ∃ inner target outer, fs = inner ++ target :: outer ∧
      (∀ f ∈ inner, f.label ≠ some name) ∧ target.label = some name := by
  induction fs with
  | nil => simp
  | cons f fs ih =>
    by_cases hf : f.label = some name
    · exact .inr ⟨[], f, fs, rfl, by simp, hf⟩
    · rcases ih with h | ⟨inner, target, outer, rfl, hin, ht⟩
      · exact .inl (by simpa [hf] using h)
      · exact .inr ⟨f :: inner, target, outer, rfl, by simpa [hf] using hin, ht⟩

/-- What is done for a jump to a name, by the frames at the innermost one with that name. -/
theorem jump_run (sp : Span) (k : JumpKind) {l : Expr} {name : String}
    (hl : labelOf? l = some name) (s : LowerState) :
    (jump ctx sp k l).run s =
      match s.frames.dropWhile fun f => f.label != some name with
      | [] => ([plainJump sp k], s.reported ctx.file [(sp, .unknown name)])
      | target :: outer =>
        if (s.frames.takeWhile fun f => f.label != some name).isEmpty then ([plainJump sp k], s)
        else
          let r := flagFor ctx k name target s.taken
          ([setFlag sp r.1 true, .simple sp .breaks],
            { s with
              frames := addExits r.1 k (s.frames.takeWhile fun f => f.label != some name) ++
                r.2.1 :: outer
              taken := r.2.2 }) := by
  unfold jump
  rw [run_bind, labelName_run, hl, Site.labelFaults, hl]
  simp only [Option.isNone_some, Bool.false_eq_true, if_false, List.map_nil,
    LowerState.reported_nil]
  show StateT.run (match s.frames.dropWhile (fun f => f.label != some name) with
    | [] => _
    | _ :: _ => _) s = _
  split
  · exact congrArg (Prod.mk _) (congrArg Prod.snd (report_run sp (.unknown name) _ rfl rfl s))
  · split <;> rfl

theorem jump_run_unknown (sp : Span) (k : JumpKind) {l : Expr} {name : String}
    (hl : labelOf? l = some name) {s : LowerState} (hs : ∀ f ∈ s.frames, f.label ≠ some name) :
    (jump ctx sp k l).run s =
      ([plainJump sp k], s.reported ctx.file [(sp, .unknown name)]) := by
  have hd : s.frames.dropWhile (fun f => f.label != some name) = [] := by
    rw [List.dropWhile_eq_nil_iff]
    simpa using hs
  rw [jump_run sp k hl, hd]

theorem jump_run_innermost (sp : Span) (k : JumpKind) {l : Expr} {name : String}
    (hl : labelOf? l = some name) {s : LowerState} {target : Frame} {outer : List Frame}
    (hs : s.frames = target :: outer) (ht : target.label = some name) :
    (jump ctx sp k l).run s = ([plainJump sp k], s) := by
  rw [jump_run sp k hl, hs]
  simp [ht]

theorem jump_run_outer (sp : Span) (k : JumpKind) {l : Expr} {name : String}
    (hl : labelOf? l = some name) {s : LowerState} {f target : Frame} {inner outer : List Frame}
    (hs : s.frames = f :: inner ++ target :: outer) (hin : ∀ g ∈ f :: inner, g.label ≠ some name)
    (ht : target.label = some name) :
    (jump ctx sp k l).run s =
      (let r := flagFor ctx k name target s.taken
       ([setFlag sp r.1 true, .simple sp .breaks],
        { s with frames := addExits r.1 k (f :: inner) ++ r.2.1 :: outer, taken := r.2.2 })) := by
  have hp : ∀ g ∈ f :: inner, (g.label != some name) = true := by simpa using hin
  have hd : s.frames.dropWhile (fun g => g.label != some name) = target :: outer := by
    rw [hs, List.dropWhile_append_of_pos hp]
    simp [ht]
  have htake : s.frames.takeWhile (fun g => g.label != some name) = f :: inner := by
    rw [hs, List.takeWhile_append_of_pos hp]
    simp [ht]
  rw [jump_run sp k hl, hd, htake]
  rfl

/-! ## Parts that report -/

/-- Inside loops with the given names, a part of the traversal reports the given faults and leaves
the names as they are. -/
def Reports (ctx : LowerContext) (labels : List (Option String)) (part : Lower α)
    (fs : List (Span × LabelFault)) : Prop :=
  ∀ s : LowerState, s.labels = labels → (part.run s).2.labels = labels ∧
    (part.run s).2.diagnostics = (s.reported ctx.file fs).diagnostics ∧
    (part.run s).2.unwritable = (s.reported ctx.file fs).unwritable

theorem Reports.pure {labels : List (Option String)} (a : α) :
    Reports ctx labels (Pure.pure a) [] := by
  intro s hs
  rw [run_pure, LowerState.reported_nil]
  exact ⟨hs, rfl, rfl⟩

theorem Reports.bind {labels : List (Option String)} {m : Lower α} {f : α → Lower β}
    {fs gs : List (Span × LabelFault)} (hm : Reports ctx labels m fs)
    (hf : ∀ a, Reports ctx labels (f a) gs) : Reports ctx labels (m >>= f) (fs ++ gs) := by
  intro s hs
  obtain ⟨h₁, h₂, h₃⟩ := hm s hs
  obtain ⟨k₁, k₂, k₃⟩ := hf (m.run s).1 (m.run s).2 h₁
  rw [run_bind]
  refine ⟨k₁, k₂.trans ?_, k₃.trans ?_⟩
  · simp [LowerState.reported, h₂]
  · simp only [LowerState.reported, h₃, List.findSome?_append]
    cases s.unwritable <;> simp

/-- A last step that only assembles the result reports nothing. -/
theorem Reports.map {labels : List (Option String)} {m : Lower α} {f : α → β}
    {fs : List (Span × LabelFault)} (hm : Reports ctx labels m fs) :
    Reports ctx labels (m >>= fun a => Pure.pure (f a)) fs := by
  simpa using hm.bind fun a => Reports.pure (f a)

/-- Reading a label reports what is wrong with it; what follows gets the name it spells. -/
theorem Reports.labelName {labels : List (Option String)} (sp : Span) (l : Expr)
    {f : Option String → Lower α} {fs : List (Span × LabelFault)}
    (hf : Reports ctx labels (f (labelOf? l)) fs) :
    Reports ctx labels (Lower.labelName ctx sp l >>= f)
      ((Site.labelFaults l).map (sp, ·) ++ fs) := by
  have hl : Reports ctx labels (Lower.labelName ctx sp l) ((Site.labelFaults l).map (sp, ·)) := by
    intro s hs
    rw [labelName_run]
    exact ⟨hs, rfl, rfl⟩
  intro s hs
  have := (hl.bind fun _ => hf) s hs
  rwa [run_bind, labelName_run] at this ⊢

theorem reports_report {labels : List (Option String)} (sp : Span) (f : LabelFault) (c : Cause)
    (hc : f.cause? = some c) (hu : f.unwritable? = none) :
    Reports ctx labels (report ctx sp c) [(sp, f)] := by
  intro s hs
  rw [report_run sp f c hc hu]
  exact ⟨hs, rfl, rfl⟩

/-- Inside of one more loop. -/
theorem Reports.insideLoop {labels : List (Option String)} {label : Option String} {m : Lower α}
    {fs : List (Span × LabelFault)} (hm : Reports ctx (label :: labels) m fs) :
    Reports ctx labels (Lower.insideLoop label m) fs := by
  intro s hs
  obtain ⟨h₁, h₂, h₃⟩ := hm { s with frames := Frame.ofLabel label :: s.frames }
    (by simpa [LowerState.labels, Frame.ofLabel] using hs)
  refine ⟨?_, h₂, h₃⟩
  rw [insideLoop_run]
  simpa [LowerState.labels] using congrArg (List.drop 1) h₁

/-- In a definition, where no loop is around. -/
theorem Reports.withFrames {labels : List (Option String)} {m : Lower α}
    {fs : List (Span × LabelFault)} (hm : Reports ctx [] m fs) :
    Reports ctx labels (Lower.withFrames [] m) fs := by
  intro s hs
  obtain ⟨-, h₂, h₃⟩ := hm { s with frames := [] } rfl
  exact ⟨hs, h₂, h₃⟩

/-- The checks that a jump puts on frames leave their labels alone. -/
@[simp] theorem map_label_addExits (flag : String) (k : JumpKind) (fs : List Frame) :
    (addExits flag k fs).map Frame.label = fs.map Frame.label := by
  have label_addExit (f : Frame) (e : Exit) : (f.addExit e).label = f.label := by
    unfold Frame.addExit
    split <;> rfl
  induction fs with
  | nil => rfl
  | cons f fs ih =>
    cases fs with
    | nil => simp [addExits, label_addExit]
    | cons g fs => simp [addExits, label_addExit, ih]

theorem label_flagFor (k : JumpKind) (name : String) (f : Frame) (taken : List String) :
    (flagFor ctx k name f taken).2.1.label = f.label := by
  unfold flagFor
  split
  · rfl
  · cases k <;> rfl

/-- The faults of a jump are those of its site, by the names of the loops around. -/
theorem reports_jump {around : List Layer} (sp : Span) (k : JumpKind) (l : Expr)
    (after : Option (Stmt Placeholder)) :
    Reports ctx (Layer.loopLabels around) (jump ctx sp k l)
      ((Site.faults ⟨sp, .jump k l, after, around⟩).map (sp, ·)) := by
  intro s hs
  cases hl : labelOf? l with
  | none =>
    rw [jump_run_invalid sp k hl]
    simp only [Site.faults, hl]
    exact ⟨hs, rfl, rfl⟩
  | some name =>
    have hreach : Site.Reaches ⟨sp, .jump k l, after, around⟩ name ↔ some name ∈ s.labels := by
      rw [hs, Layer.mem_loopLabels]
      rfl
    simp only [Site.faults, hl]
    rcases frames_split name s.frames with hno | ⟨inner, target, outer, hf, hin, ht⟩
    · have hnot : ¬ Site.Reaches ⟨sp, .jump k l, after, around⟩ name := by
        rw [hreach]
        simpa [LowerState.labels] using hno
      rw [jump_run_unknown sp k hl hno, if_neg hnot]
      exact ⟨hs, rfl, rfl⟩
    · have hyes : Site.Reaches ⟨sp, .jump k l, after, around⟩ name := by
        rw [hreach]
        simp [LowerState.labels, hf, ht]
      rw [if_pos hyes, List.map_nil]
      cases inner with
      | nil =>
        rw [jump_run_innermost sp k hl hf ht, LowerState.reported_nil]
        exact ⟨hs, rfl, rfl⟩
      | cons f inner =>
        rw [jump_run_outer sp k hl hf hin ht, LowerState.reported_nil]
        refine ⟨?_, rfl, rfl⟩
        rw [← hs]
        simp [LowerState.labels, hf, label_flagFor]

/-! ## The traversal -/

theorem labelFrom_eq_none {s : Stmt Placeholder} (h : loopLabel? s = none) :
    Layer.labelFrom (some s) = none := by
  unfold loopLabel? at h
  unfold Layer.labelFrom
  split at h
  · simp at h
  · split
    · simp_all
    · rfl

/-- A marker reports what is wrong with its label, and then that no loop follows. -/
theorem reports_marker {around : List Layer} (sp : Span) (l : Expr)
    {rest : List (Stmt Placeholder)} {part : Option String → Lower α}
    {fs : List (Span × LabelFault)}
    (hp : Reports ctx (Layer.loopLabels around) (part (labelOf? l)) fs) :
    Reports ctx (Layer.loopLabels around)
      (do
        let name ← labelName ctx sp l
        if !((rest.head?.map Stmt.isLoop).getD false) then report ctx sp .labelWithoutLoop
        part name)
      ((Site.faults ⟨sp, .loopLabel l, rest.head?, around⟩).map (sp, ·) ++ fs) := by
  simp only [Site.faults, Site.beforeLoop, List.map_append, List.append_assoc]
  refine Reports.labelName sp l ?_
  by_cases h : (rest.head?.map Stmt.isLoop).getD false = true
  · simpa [h] using hp
  · simpa [h] using (reports_report sp .withoutLoop .labelWithoutLoop rfl rfl).bind fun _ => hp

mutual

/-- Lowering a statement that is no marker reports the faults of its sites. -/
theorem stmt_reports (ctx : LowerContext) (around : List Layer)
    (before after : Option (Stmt Placeholder)) :
    ∀ s : Stmt Placeholder, loopLabel? s = none →
      Reports ctx (Layer.loopLabels around) (stmt ctx (Layer.labelFrom before) s)
        (Site.allFaults (s.sites around before after))
  | .simple sp s, _ => Reports.pure _
  | .hole sp (.jump k l), _ => by
    simpa [stmt, Stmt.sites, Site.allFaults] using reports_jump sp k l after
  | .hole _ (.loopLabel _), h => by simp [loopLabel?] at h
  | .branch sp t b o, _ => by
    have hb := block_reports ctx (⟨before, .branch sp t b o, .body⟩ :: around) none b
    have ho := block_reports ctx (⟨before, .branch sp t b o, .orelse⟩ :: around) none o
    simp only [stmt, Stmt.sites, Site.allFaults_append]
    exact hb.bind fun _ => ho.map
  | .loop sp h b o, _ => by
    have hb := block_reports ctx (⟨before, .loop sp h b o, .body⟩ :: around) none b
    have ho := block_reports ctx (⟨before, .loop sp h b o, .orelse⟩ :: around) none o
    simp only [stmt, Stmt.sites, Site.allFaults_append]
    exact hb.insideLoop.bind fun _ => ho.map
  | .function sp h b, _ => by
    have hb := block_reports ctx (⟨before, .function sp h b, .body⟩ :: around) none b
    exact hb.withFrames.map
  | .klass sp h b, _ => by
    have hb := block_reports ctx (⟨before, .klass sp h b, .body⟩ :: around) none b
    exact hb.withFrames.map
  | .withItems sp a is b, _ => by
    have hb := block_reports ctx (⟨before, .withItems sp a is b, .body⟩ :: around) none b
    exact hb.map
  | .attempt sp star b hs o f, _ => by
    have hb := block_reports ctx (⟨before, .attempt sp star b hs o f, .body⟩ :: around) none b
    have hh := handlers_reports ctx (⟨before, .attempt sp star b hs o f, .handler⟩ :: around) hs
    have ho := block_reports ctx (⟨before, .attempt sp star b hs o f, .orelse⟩ :: around) none o
    have hf := block_reports ctx (⟨before, .attempt sp star b hs o f, .final⟩ :: around) none f
    simp only [stmt, Stmt.sites, Site.allFaults_append, List.append_assoc]
    exact hb.bind fun _ => hh.bind fun _ => ho.bind fun _ => hf.map
  | .select sp e cs, _ => by
    have hc := cases_reports ctx (⟨before, .select sp e cs, .case⟩ :: around) cs
    exact hc.map

/-- **Lowering a block reports exactly the faults of its sites, in source order.** -/
theorem block_reports (ctx : LowerContext) (around : List Layer)
    (before : Option (Stmt Placeholder)) :
    ∀ b : List (Stmt Placeholder),
      Reports ctx (Layer.loopLabels around) (block ctx (Layer.labelFrom before) b)
        (Site.allFaults (Stmt.blockSites around before b))
  | [] => Reports.pure _
  | s :: rest => by
    have hrest := block_reports ctx around (some s) rest
    unfold block
    rw [Stmt.blockSites, Site.allFaults_append]
    split
    · rename_i sp l hs
      obtain rfl : s = .hole sp (.loopLabel l) := by
        unfold loopLabel? at hs
        split at hs <;> simp_all
      simpa [Stmt.sites, Site.allFaults] using reports_marker sp l hrest
    · rename_i hs
      rw [labelFrom_eq_none hs] at hrest
      exact (stmt_reports ctx around before rest.head? s hs).bind fun _ => hrest.map

theorem handlers_reports (ctx : LowerContext) (around : List Layer) :
    ∀ hs : List (Handler Placeholder),
      Reports ctx (Layer.loopLabels around) (handlers ctx hs)
        (Site.allFaults (Handler.sites around hs))
  | [] => Reports.pure _
  | .mk p t n b :: hs => by
    have hb := block_reports ctx around none b
    have hh := handlers_reports ctx around hs
    simp only [handlers, Handler.sites, Site.allFaults_append]
    exact hb.bind fun _ => hh.map

theorem cases_reports (ctx : LowerContext) (around : List Layer) :
    ∀ cs : List (Case Placeholder),
      Reports ctx (Layer.loopLabels around) (cases ctx cs)
        (Site.allFaults (Case.sites around cs))
  | [] => Reports.pure _
  | .mk p g b :: cs => by
    have hb := block_reports ctx around none b
    have hc := cases_reports ctx around cs
    simp only [cases, Case.sites, Site.allFaults_append]
    exact hb.bind fun _ => hc.map

end

end Lower

end JumpMacros
