import JumpMacros.Proofs.LabelResolution

/-!
# Flags are allocated on demand

**Theorem (`Lower.block_marks`).** While a block is lowered, a loop around it gets a flag for a kind
of jump exactly if some jump of that kind in the block goes to the loop from inside of another loop.

What counts as inside of another loop changes on the way out: a jump that leaves a block without
crossing a loop has crossed the innermost loop around by the time it reaches the next one. So
`Marks` speaks of two lists of jumps, those that have crossed a loop already, for the innermost
frame, and all of them, for the frames further out.
-/

namespace JumpMacros

/-! ## Jumps across loops -/

mutual

/-- The jumps in a statement that leave it and come from the body of a loop in it, in source
order. -/
def Stmt.crossings (label : Option String) : Stmt Placeholder → List NamedJump
  | .simple _ _ => []
  | .hole _ _ => []
  | .branch _ _ b o => Stmt.blockCrossings none b ++ Stmt.blockCrossings none o
  | .loop _ _ b o => leaving label (Stmt.blockJumps none b) ++ Stmt.blockCrossings none o
  | .function _ _ _ => []
  | .klass _ _ _ => []
  | .withItems _ _ _ b => Stmt.blockCrossings none b
  | .attempt _ _ b hs o f =>
    Stmt.blockCrossings none b ++ Handler.crossings hs ++ Stmt.blockCrossings none o ++
      Stmt.blockCrossings none f
  | .select _ _ cs => Case.crossings cs

/-- The jumps that leave a block, whose first statement has a label, from the body of a loop in
it. -/
def Stmt.blockCrossings (label : Option String) : List (Stmt Placeholder) → List NamedJump
  | [] => []
  | s :: rest => s.crossings label ++ Stmt.blockCrossings (Layer.labelFrom (some s)) rest

def Handler.crossings : List (Handler Placeholder) → List NamedJump
  | [] => []
  | .mk _ _ _ b :: hs => Stmt.blockCrossings none b ++ Handler.crossings hs

def Case.crossings : List (Case Placeholder) → List NamedJump
  | [] => []
  | .mk _ _ b :: cs => Stmt.blockCrossings none b ++ Case.crossings cs

end

namespace Lower

/-! ## Which frames get flags -/

/-- Between two states frames have got flags for the jumps `cs`, which have crossed a loop already,
if they go to the innermost frame, and for the jumps `js` if they go further out. -/
def Marks : List NamedJump → List NamedJump → List Frame → List Frame → Prop
  | cs, js, f :: fs, g :: gs =>
    (∀ k, (g.flag k).isSome = true ↔
      (f.flag k).isSome = true ∨ ∃ name, f.label = some name ∧ (k, name) ∈ cs) ∧
    Marks (leaving f.label js) (leaving f.label js) fs gs
  | _, _, _, _ => True

/-- Jumps that go to none of the loops mark none of them. -/
theorem Marks.same {cs js : List NamedJump} {fs : List Frame} (hcs : cs ⊆ js)
    (h : ∀ f ∈ fs, ∀ j ∈ js, f.label ≠ some j.2) : Marks cs js fs fs := by
  induction fs generalizing cs js with
  | nil => trivial
  | cons f fs ih =>
    refine ⟨fun k => ?_, ih (List.Subset.refl _) fun g hg j hj => ?_⟩
    · refine (or_iff_left ?_).symm
      rintro ⟨name, hname, hmem⟩
      exact h f List.mem_cons_self _ (hcs hmem) hname
    · exact h g (List.mem_cons_of_mem _ hg) j (mem_leaving.1 hj).1

theorem Marks.refl (fs : List Frame) : Marks [] [] fs fs :=
  .same (List.Subset.refl _) (by simp)

theorem Marks.trans {cs cs' js js' : List NamedJump} {fs gs hs : List Frame}
    (hlen : fs.length = hs.length) (hlabels : gs.map Frame.label = fs.map Frame.label)
    (h : Marks cs js fs gs) (h' : Marks cs' js' gs hs) : Marks (cs ++ cs') (js ++ js') fs hs := by
  induction fs generalizing gs hs cs cs' js js' with
  | nil => trivial
  | cons f fs ih =>
    cases hs with
    | nil => trivial
    | cons l hs =>
      cases gs with
      | nil => simp at hlabels
      | cons g gs =>
        obtain ⟨hlabel, hlabels⟩ := List.cons.inj hlabels
        obtain ⟨hnow, hrest⟩ := h
        obtain ⟨hnow', hrest'⟩ := h'
        rw [hlabel] at hnow' hrest'
        refine ⟨fun k => ?_, ?_⟩
        · rw [hnow' k, hnow k]
          simp only [List.mem_append, and_or_left, exists_or, or_assoc]
        · rw [leaving_append]
          exact ih (by simpa using hlen) hlabels hrest hrest'

/-- A jump across loops marks the loop that it goes to and no other. -/
theorem marks_addExits {k : JumpKind} {name x : String} {target target' : Frame}
    {outer : List Frame} (ht : target.label = some name)
    (hflag : ∀ k', (target'.flag k').isSome = true ↔ (target.flag k').isSome = true ∨ k' = k) :
    ∀ inner : List Frame, (∀ f ∈ inner, f.label ≠ some name) →
      Marks [(k, name)] [(k, name)] (inner ++ target :: outer)
        (addExits x k inner ++ target' :: outer)
  | [], _ => by
    have hnone : leaving target.label [(k, name)] = [] := by simp [leaving, ht]
    simp only [List.nil_append, addExits, Marks, hnone]
    refine ⟨fun k' => ?_, Marks.refl _⟩
    simp [hflag k', ht]
  | f :: inner, hin => by
    have hall : leaving f.label [(k, name)] = [(k, name)] := by
      simp [leaving, hin f List.mem_cons_self]
    have hrest : Marks [(k, name)] [(k, name)] (inner ++ target :: outer)
        (addExits x k inner ++ target' :: outer) :=
      marks_addExits ht hflag inner fun g hg => hin g (List.mem_cons_of_mem _ hg)
    have hno : ∀ k', ¬∃ name', f.label = some name' ∧ (k', name') ∈ [(k, name)] := by
      rintro k' ⟨name', hname, hmem⟩
      obtain ⟨-, rfl⟩ := Prod.mk.inj (List.mem_singleton.1 hmem)
      exact hin f List.mem_cons_self hname
    cases inner with
    | nil =>
      simp only [List.cons_append, List.nil_append, addExits, Marks, hall] at hrest ⊢
      exact ⟨fun k' => by rw [Frame.addExit_flag, or_iff_left (hno k')], hrest⟩
    | cons g inner =>
      simp only [List.cons_append, addExits, Marks, hall] at hrest ⊢
      exact ⟨fun k' => by rw [Frame.addExit_flag, or_iff_left (hno k')], hrest⟩

/-! ## Parts that mark -/

/-- A part of the traversal that lowers statements with the jumps `js`, of which `cs` cross a loop
in the statements: it keeps the names of the loops around and gives them flags for the jumps. -/
def Marking {α : Type} (cs js : List NamedJump) (part : Lower α) : Prop :=
  ∀ s, (part.run s).2.frames.map Frame.label = s.frames.map Frame.label ∧
    Marks cs js s.frames (part.run s).2.frames

variable {α β : Type} {ctx : LowerContext}

/-- A part that leaves the frames alone. -/
theorem Marking.of_frames {part : Lower α} (h : ∀ s, (part.run s).2.frames = s.frames) :
    Marking [] [] part := by
  intro s
  rw [h s]
  exact ⟨rfl, Marks.refl _⟩

theorem Marking.pure (a : α) : Marking [] [] (Pure.pure a) := .of_frames fun _ => rfl

theorem Marking.bind {cs cs' js js' : List NamedJump} {m : Lower α} {f : α → Lower β}
    (hm : Marking cs js m) (hf : ∀ a, Marking cs' js' (f a)) :
    Marking (cs ++ cs') (js ++ js') (m >>= f) := by
  intro s
  obtain ⟨hlabels, hmarks⟩ := hm s
  obtain ⟨hlabels', hmarks'⟩ := hf (m.run s).1 (m.run s).2
  rw [run_bind]
  have hall := hlabels'.trans hlabels
  exact ⟨hall, hmarks.trans (by simpa using (congrArg List.length hall).symm) hlabels hmarks'⟩

/-- A last step that only assembles the result. -/
theorem Marking.map {cs js : List NamedJump} {m : Lower α} {g : α → β} (hm : Marking cs js m) :
    Marking cs js (m >>= fun a => Pure.pure (g a)) := by
  simpa using hm.bind fun a => Marking.pure (g a)

/-- Reading a label leaves the frames alone; what follows gets the name it spells. -/
theorem Marking.labelName {cs js : List NamedJump} (sp : Span) (l : Expr)
    {f : Option String → Lower α} (hf : Marking cs js (f (labelOf? l))) :
    Marking cs js (Lower.labelName ctx sp l >>= f) := by
  intro s
  rw [run_bind, labelName_run]
  exact hf (s.reported ctx.file ((Site.labelFaults l).map (sp, ·)))

/-- Inside of one more loop, all jumps that leave it have crossed a loop. -/
theorem Marking.insideLoop {cs js : List NamedJump} {label : Option String} {m : Lower α}
    (hm : Marking cs js m) :
    Marking (leaving label js) (leaving label js) (Lower.insideLoop label m) := by
  intro s
  obtain ⟨hlabels, hmarks⟩ := hm { s with frames := Frame.ofLabel label :: s.frames }
  rw [insideLoop_run]
  generalize m.run { s with frames := Frame.ofLabel label :: s.frames } = r at hlabels hmarks ⊢
  obtain ⟨a, frames, taken, ds, u⟩ := r
  cases frames with
  | nil => simp at hlabels
  | cons g gs => exact ⟨(List.cons.inj hlabels).2, hmarks.2⟩

/-- The frame of a loop has a flag exactly for the jumps that go to the loop from inside of another
one. -/
theorem Marking.flag_insideLoop {cs js : List NamedJump} {label : Option String} {m : Lower α}
    (hm : Marking cs js m) (s : LowerState) (k : JumpKind) :
    (((Lower.insideLoop label m).run s).1.2.flag k).isSome = true ↔
      ∃ name, label = some name ∧ (k, name) ∈ cs := by
  obtain ⟨hlabels, hmarks⟩ := hm { s with frames := Frame.ofLabel label :: s.frames }
  rw [insideLoop_run]
  generalize m.run { s with frames := Frame.ofLabel label :: s.frames } = r at hlabels hmarks ⊢
  obtain ⟨a, frames, taken, ds, u⟩ := r
  cases frames with
  | nil => simp at hlabels
  | cons g gs =>
    refine (hmarks.1 k).trans (or_iff_right ?_)
    cases k <;> simp [Frame.ofLabel, Frame.flag]

/-- In a definition, where no loop is around. -/
theorem Marking.withFrames (m : Lower α) : Marking [] [] (Lower.withFrames [] m) :=
  .of_frames fun s => by rw [withFrames_run]

/-- A jump to the innermost loop, or to none, marks nothing. -/
theorem marking_jump (sp : Span) (k : JumpKind) (l : Expr) :
    Marking [] ((labelOf? l).toList.map (k, ·)) (jump ctx sp k l) := by
  cases hl : labelOf? l with
  | none => exact .of_frames fun s => by rw [jump_run_invalid sp k hl, LowerState.frames_reported]
  | some name =>
    intro s
    rcases frames_split name s.frames with hno | ⟨inner, target, outer, hf, hin, ht⟩
    · rw [jump_run_unknown sp k hl hno]
      refine ⟨rfl, .same (List.nil_subset _) fun f hmem j hj => ?_⟩
      obtain rfl : j = (k, name) := by simpa using hj
      exact hno f hmem
    · cases inner with
      | nil =>
        rw [jump_run_innermost sp k hl hf ht, hf]
        have hnone : leaving target.label [(k, name)] = [] := by simp [leaving, ht]
        refine ⟨rfl, ⟨fun k' => by simp, ?_⟩⟩
        show Marks (leaving target.label [(k, name)]) (leaving target.label [(k, name)]) outer outer
        rw [hnone]
        exact Marks.refl _
      | cons f inner =>
        rw [jump_run_outer sp k hl hf hin ht, hf]
        obtain ⟨hlabel, -, hflag, hsame⟩ := flagFor_spec ctx k name target s.taken
        have hmark : ∀ k', ((flagFor ctx k name target s.taken).2.1.flag k').isSome = true ↔
            (target.flag k').isSome = true ∨ k' = k := by
          intro k'
          by_cases hk : k' = k
          · subst hk
            simp [hflag]
          · rw [or_iff_left hk]
            rcases hsame with hsame | ⟨-, -, -, hset, -⟩
            · rw [hsame]
            · rw [hset, setFlag_flag_of_ne _ _ hk]
        have hin' : ∀ g ∈ inner, g.label ≠ some name :=
          fun g hg => hin g (List.mem_cons_of_mem _ hg)
        have hall : leaving f.label [(k, name)] = [(k, name)] := by
          simp [leaving, hin f List.mem_cons_self]
        -- The first frame on the way has nothing inside of it, so it is left as it is.
        have hfirst : ∀ e : Exit, ∀ k', ((f.addExit e).flag k').isSome = true ↔
            (f.flag k').isSome = true ∨ ∃ name', f.label = some name' ∧
              (k', name') ∈ ([] : List NamedJump) := by
          intro e k'
          rw [Frame.addExit_flag]
          simp
        have hrest : Marks [(k, name)] [(k, name)] (inner ++ target :: outer)
            (addExits (flagFor ctx k name target s.taken).1 k inner ++
              (flagFor ctx k name target s.taken).2.1 :: outer) :=
          marks_addExits ht hmark inner hin'
        refine ⟨by simp [label_flagFor], ?_⟩
        cases inner with
        | nil =>
          simp only [List.cons_append, List.nil_append, addExits] at hrest ⊢
          exact ⟨hfirst _, hall.symm ▸ hrest⟩
        | cons g inner =>
          simp only [List.cons_append, addExits] at hrest ⊢
          exact ⟨hfirst _, hall.symm ▸ hrest⟩

/-! ## The traversal -/

/-- A marker only reports. -/
theorem marking_marker (sp : Span) (l : Expr) {rest : List (Stmt Placeholder)}
    {cs js : List NamedJump} {part : Option String → Lower α}
    (hp : Marking cs js (part (labelOf? l))) :
    Marking cs js
      (do
        let name ← labelName ctx sp l
        if !((rest.head?.map Stmt.isLoop).getD false) then report ctx sp .labelWithoutLoop
        part name) := by
  refine Marking.labelName sp l ?_
  have hreport : Marking [] [] (report ctx sp .labelWithoutLoop) := .of_frames fun _ => rfl
  by_cases h : (rest.head?.map Stmt.isLoop).getD false = true
  · simpa [h] using hp
  · simpa [h] using hreport.bind fun _ => hp

mutual

/-- Lowering a statement that is no marker gives flags to the loops around it. -/
theorem stmt_marks (ctx : LowerContext) (label : Option String) :
    ∀ s : Stmt Placeholder, Marking (s.crossings label) (s.jumps label) (stmt ctx label s)
  | .simple _ _ => .pure _
  | .hole sp (.jump k l) => marking_jump sp k l
  | .hole _ (.loopLabel _) => .pure _
  | .branch _ _ b o => (block_marks ctx none b).bind fun _ => (block_marks ctx none o).map
  | .loop _ _ b o =>
    (block_marks ctx none b).insideLoop.bind fun _ => (block_marks ctx none o).map
  | .function _ _ b => (Marking.withFrames (block ctx none b)).map
  | .klass _ _ b => (Marking.withFrames (block ctx none b)).map
  | .withItems _ _ _ b => (block_marks ctx none b).map
  | .attempt _ _ b hs o f => by
    simp only [Stmt.crossings, Stmt.jumps, List.append_assoc]
    exact (block_marks ctx none b).bind fun _ => (handlers_marks ctx hs).bind fun _ =>
      (block_marks ctx none o).bind fun _ => (block_marks ctx none f).map
  | .select _ _ cs => (cases_marks ctx cs).map

/-- **Lowering a block gives the loops around it flags for the jumps that cross a loop**, and for
no others. -/
theorem block_marks (ctx : LowerContext) (label : Option String) :
    ∀ b : List (Stmt Placeholder),
      Marking (Stmt.blockCrossings label b) (Stmt.blockJumps label b) (block ctx label b)
  | [] => .pure _
  | s :: rest => by
    unfold block
    split
    · rename_i sp l hs
      obtain rfl : s = .hole sp (.loopLabel l) := by
        unfold loopLabel? at hs
        split at hs <;> simp_all
      exact marking_marker sp l (block_marks ctx (labelOf? l) rest)
    · rename_i hs
      rw [Stmt.blockCrossings, Stmt.blockJumps, labelFrom_eq_none hs]
      exact (stmt_marks ctx label s).bind fun _ => (block_marks ctx none rest).map

theorem handlers_marks (ctx : LowerContext) :
    ∀ hs : List (Handler Placeholder),
      Marking (Handler.crossings hs) (Handler.jumps hs) (handlers ctx hs)
  | [] => .pure _
  | .mk _ _ _ b :: hs => (block_marks ctx none b).bind fun _ => (handlers_marks ctx hs).map

theorem cases_marks (ctx : LowerContext) :
    ∀ cs : List (Case Placeholder), Marking (Case.crossings cs) (Case.jumps cs) (cases ctx cs)
  | [] => .pure _
  | .mk _ _ b :: cs => (block_marks ctx none b).bind fun _ => (cases_marks ctx cs).map

end

end Lower

end JumpMacros
