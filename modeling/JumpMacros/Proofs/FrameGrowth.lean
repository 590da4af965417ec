import JumpMacros.Proofs.LoweredTree

/-!
# Frames while a tree is lowered

**Theorem (`Lower.block_builds`).** Lowering a block gives statements that it lowers to, for
whatever the frames around become later. No two loops in the block have a flag in common, nor has
one of them a flag of a loop around.

The traversal allocates flags and collects checks as it meets jumps, so while a statement is
lowered its frames are not final. The statements therefore speak about all frames that can still
come out, those that the frames so far can grow into. All flags are new names, so a flag that is
allocated later is none of those that are there already.
-/

namespace JumpMacros

/-! ## How frames grow -/

namespace Lower

/-- What a frame can become once the names `taken` are taken: its flags stay, and a flag that it
had not is a new name. -/
structure GrowsTo (taken : List String) (f g : Frame) : Prop where
  label_eq : g.label = f.label
  flag : ∀ k, g.flag k = f.flag k ∨ f.flag k = none ∧ ∀ x, g.flag k = some x → x ∉ taken

/-- The same for the frames of all loops around. -/
abbrev Extends (taken : List String) : List Frame → List Frame → Prop :=
  List.Forall₂ (GrowsTo taken)

theorem GrowsTo.refl (taken : List String) (f : Frame) : GrowsTo taken f f :=
  ⟨rfl, fun _ => .inl rfl⟩

theorem GrowsTo.trans {taken taken' : List String} {f g h : Frame} (hsub : taken ⊆ taken')
    (hfg : GrowsTo taken f g) (hgh : GrowsTo taken' g h) : GrowsTo taken f h := by
  refine ⟨hgh.label_eq.trans hfg.label_eq, fun k => ?_⟩
  rcases hgh.flag k with hk | ⟨hnone, hnew⟩
  · rw [hk]
    exact hfg.flag k
  · rcases hfg.flag k with hk | ⟨hk, -⟩
    · exact .inr ⟨hk ▸ hnone, fun x hx hmem => hnew x hx (hsub hmem)⟩
    · exact .inr ⟨hk, fun x hx hmem => hnew x hx (hsub hmem)⟩

theorem Extends.refl (taken : List String) (fs : List Frame) : Extends taken fs fs := by
  induction fs with
  | nil => exact .nil
  | cons f fs ih => exact .cons (.refl taken f) ih

theorem Extends.trans {taken taken' : List String} (hsub : taken ⊆ taken') {fs gs hs : List Frame}
    (hfg : Extends taken fs gs) (hgh : Extends taken' gs hs) : Extends taken fs hs := by
  induction hfg generalizing hs with
  | nil =>
    cases hgh
    exact .nil
  | cons hf _ ih =>
    cases hgh with
    | cons hg hgs => exact .cons (hf.trans hsub hg) (ih hgs)

theorem Extends.labels {taken : List String} {fs gs : List Frame} (h : Extends taken fs gs) :
    gs.map Frame.label = fs.map Frame.label := by
  induction h with
  | nil => rfl
  | cons hf _ ih => rw [List.map_cons, List.map_cons, hf.label_eq, ih]

theorem Extends.namesHead {taken : List String} {fs gs : List Frame} (h : Extends taken fs gs)
    (name : String) : namesHead gs name = namesHead fs name := by
  cases h with
  | nil => rfl
  | cons hf _ => simp [JumpMacros.namesHead, hf.label_eq]

/-- A flag that is allocated stays. -/
theorem Extends.flagOf? {taken : List String} {fs gs : List Frame} (h : Extends taken fs gs)
    {j : NamedJump} {x : String} (hx : flagOf? fs j = some x) : flagOf? gs j = some x := by
  induction h with
  | nil => exact hx
  | @cons f g fs gs hf _ ih =>
    simp only [JumpMacros.flagOf?, hf.label_eq] at hx ⊢
    split at hx
    · rename_i hl
      rw [if_pos hl]
      rcases hf.flag j.1 with hk | ⟨hk, -⟩
      · rw [hk, hx]
      · rw [hk] at hx
        cases hx
    · rename_i hl
      rw [if_neg hl]
      exact ih hx

/-- A flag of the grown frames was there before or is a new name. -/
theorem Extends.mem_flagsOf {taken : List String} {fs gs : List Frame} (h : Extends taken fs gs)
    {x : String} (hx : x ∈ flagsOf gs) : x ∈ flagsOf fs ∨ x ∉ taken := by
  induction h with
  | nil => exact .inl hx
  | cons hf _ ih =>
    rcases List.mem_append.1 hx with hx | hx
    · obtain ⟨k, hk⟩ := Frame.mem_flags.1 hx
      rcases hf.flag k with hsame | ⟨-, hnew⟩
      · exact .inl (List.mem_append_left _ (Frame.mem_flags.2 ⟨k, hsame ▸ hk⟩))
      · exact .inr (hnew x hk)
    · exact (ih hx).imp (List.mem_append_right _) id

/-- Between two states jumps have put their checks on the frames of the loops that they leave,
outwards from the innermost. A check names the flag that its target has in the end. -/
def Carries (taken : List String) : List NamedJump → List Frame → List Frame → Prop
  | js, f :: fs, g :: gs =>
    (∀ fin, Extends taken gs fin →
      g.exits = ((leaving f.label js).filterMap (exitOf? fin)).foldl addCheck f.exits) ∧
    Carries taken (leaving f.label js) fs gs
  | _, _, _ => True

theorem Carries.refl (taken : List String) (fs : List Frame) : Carries taken [] fs fs := by
  induction fs with
  | nil => trivial
  | cons f fs ih => exact ⟨fun _ _ => rfl, ih⟩

theorem Carries.trans {taken taken' : List String} (hsub : taken ⊆ taken')
    {js js' : List NamedJump} {fs gs hs : List Frame} {before : List String}
    (hext : Extends before fs gs) (hext' : Extends taken gs hs) (h : Carries taken js fs gs)
    (h' : Carries taken' js' gs hs) : Carries taken' (js ++ js') fs hs := by
  induction hext generalizing js js' hs with
  | nil => trivial
  | @cons f g fs gs hf _ ih =>
    cases hext' with
    | @cons _ k _ hs hg hgs =>
      obtain ⟨hnow, hrest⟩ := h
      obtain ⟨hnow', hrest'⟩ := h'
      rw [hf.label_eq] at hnow' hrest'
      refine ⟨fun fin hfin => ?_, ?_⟩
      · rw [leaving_append, List.filterMap_append, List.foldl_append, hnow' fin hfin,
          hnow fin (Extends.trans hsub hgs hfin)]
      · rw [leaving_append]
        exact ih hgs hrest hrest'

/-! ## Parts that build -/

section

variable (users : List String) (flagPrefix : String)

/-- The states that occur while a tree with the names `users` is lowered. -/
structure Valid (s : LowerState) : Prop where
  flags : FlagsOk (IsFlagFor users flagPrefix) s.frames
  taken : ∀ x ∈ flagsOf s.frames, x ∈ s.taken
  users : users ⊆ s.taken

/-- What happens to the state while statements with the given jumps are lowered. -/
structure Advances (js : List NamedJump) (s t : LowerState) : Prop where
  taken : s.taken ⊆ t.taken
  frames : Extends s.taken s.frames t.frames
  exits : Carries t.taken js s.frames t.frames

/-- The frames `fin` can come out in the end. -/
structure Sees (s : LowerState) (fin : List Frame) : Prop where
  frames : Extends s.taken s.frames fin
  flags : FlagsOk (IsFlagFor users flagPrefix) fin

end

theorem Advances.refl (s : LowerState) : Advances [] s s :=
  ⟨List.Subset.refl _, Extends.refl _ _, Carries.refl _ _⟩

theorem Advances.trans {js js' : List NamedJump} {s t u : LowerState} (h : Advances js s t)
    (h' : Advances js' t u) : Advances (js ++ js') s u :=
  ⟨List.Subset.trans h.taken h'.taken, Extends.trans h.taken h.frames h'.frames,
    Carries.trans h'.taken h.frames h'.frames h.exits h'.exits⟩

/-- What can come out later could come out before. -/
theorem Sees.of_advances {users : List String} {flagPrefix : String} {js : List NamedJump}
    {s t : LowerState} {fin : List Frame} (h : Advances js s t)
    (hfin : Sees users flagPrefix t fin) : Sees users flagPrefix s fin :=
  ⟨Extends.trans h.taken h.frames hfin.frames, hfin.flags⟩

/-- The flags of the loops that are lowered between two states are new names then, each for one
loop and one kind of jump. -/
structure Owns (loops : List Frame) (s t : LowerState) : Prop where
  nodup : (flagsOf loops).Nodup
  fresh : ∀ x ∈ flagsOf loops, x ∉ s.taken
  taken : ∀ x ∈ flagsOf loops, x ∈ t.taken
  apart : ∀ x ∈ flagsOf loops, x ∉ flagsOf t.frames

theorem Owns.nil (s t : LowerState) : Owns [] s t :=
  ⟨.nil, by simp [flagsOf], by simp [flagsOf], by simp [flagsOf]⟩

theorem Owns.append {js : List NamedJump} {loops loops' : List Frame} {s t u : LowerState}
    (hst : s.taken ⊆ t.taken) (hadv : Advances js t u) (h : Owns loops s t)
    (h' : Owns loops' t u) : Owns (loops ++ loops') s u := by
  have hmem {x : String} :
      x ∈ flagsOf (loops ++ loops') ↔ x ∈ flagsOf loops ∨ x ∈ flagsOf loops' := by
    simp [flagsOf]
  refine ⟨?_, fun x hx => ?_, fun x hx => ?_, fun x hx hframes => ?_⟩
  · rw [flagsOf, List.flatMap_append, List.nodup_append']
    exact ⟨h.nodup, h'.nodup, fun x hx hx' => h'.fresh x hx' (h.taken x hx)⟩
  · rcases hmem.1 hx with hx | hx
    · exact h.fresh x hx
    · exact fun hs => h'.fresh x hx (hst hs)
  · rcases hmem.1 hx with hx | hx
    · exact hadv.taken (h.taken x hx)
    · exact h'.taken x hx
  · rcases hmem.1 hx with hx | hx
    · rcases Extends.mem_flagsOf hadv.frames hframes with hold | hnew
      · exact h.apart x hx hold
      · exact hnew (h.taken x hx)
    · exact h'.apart x hx hframes

/-- A part of the traversal that lowers statements with the jumps `js`: for all frames that can
come out in the end, its result has the property `P`, with the frames of the loops that it
lowers. -/
def Builds {α : Type} (users : List String) (flagPrefix : String) (js : List NamedJump)
    (part : Lower α) (P : List Frame → List Frame → α → Prop) : Prop :=
  ∀ s, Valid users flagPrefix s → Valid users flagPrefix (part.run s).2 ∧
    Advances js s (part.run s).2 ∧ ∃ loops, Owns loops s (part.run s).2 ∧
      ∀ fin, Sees users flagPrefix (part.run s).2 fin → P fin loops (part.run s).1

variable {users : List String} {flagPrefix : String} {α β : Type}

theorem Builds.pure {P : List Frame → List Frame → α → Prop} (a : α) (h : ∀ fin, P fin [] a) :
    Builds users flagPrefix [] (Pure.pure a) P :=
  fun s hs => ⟨hs, Advances.refl s, [], Owns.nil s s, fun fin _ => h fin⟩

theorem Builds.imp {js : List NamedJump} {m : Lower α} {P Q : List Frame → List Frame → α → Prop}
    (hm : Builds users flagPrefix js m P) (h : ∀ fin loops a, P fin loops a → Q fin loops a) :
    Builds users flagPrefix js m Q := by
  intro s hs
  obtain ⟨hv, hadv, loops, hown, hP⟩ := hm s hs
  exact ⟨hv, hadv, loops, hown, fun fin hfin => h fin loops _ (hP fin hfin)⟩

theorem Builds.bind {js js' : List NamedJump} {m : Lower α} {f : α → Lower β}
    {P : List Frame → List Frame → α → Prop} {Q : List Frame → List Frame → β → Prop}
    (hm : Builds users flagPrefix js m P)
    (hf : ∀ a, Builds users flagPrefix js' (f a) fun fin l₂ b =>
      ∀ l₁, P fin l₁ a → Q fin (l₁ ++ l₂) b) :
    Builds users flagPrefix (js ++ js') (m >>= f) Q := by
  intro s hs
  obtain ⟨hv, hadv, l₁, hown, hP⟩ := hm s hs
  obtain ⟨hv', hadv', l₂, hown', hQ⟩ := hf (m.run s).1 (m.run s).2 hv
  rw [run_bind]
  exact ⟨hv', hadv.trans hadv', l₁ ++ l₂, hown.append hadv.taken hadv' hown',
    fun fin hfin => hQ fin hfin l₁ (hP fin (hfin.of_advances hadv'))⟩

/-- A last step that only assembles the result. -/
theorem Builds.map {js : List NamedJump} {m : Lower α} {g : α → β}
    {P : List Frame → List Frame → α → Prop} {Q : List Frame → List Frame → β → Prop}
    (hm : Builds users flagPrefix js m P) (hg : ∀ fin loops a, P fin loops a → Q fin loops (g a)) :
    Builds users flagPrefix js (m >>= fun a => Pure.pure (g a)) Q := by
  simpa using hm.bind fun a => Builds.pure (g a) fun fin l₁ ha => by simpa using hg fin l₁ a ha

/-- A part that only reports leaves frames and names alone. -/
theorem Builds.reporting {part : Lower α} {a : α} {file : Option String}
    (h : ∀ s, ∃ fs, part.run s = (a, s.reported file fs)) {P : List Frame → List Frame → α → Prop}
    (hP : ∀ fin, P fin [] a) : Builds users flagPrefix [] part P := by
  intro s hs
  obtain ⟨fs, hrun⟩ := h s
  rw [hrun]
  refine ⟨⟨hs.flags, hs.taken, hs.users⟩, ⟨List.Subset.refl _, ?_, ?_⟩, [], Owns.nil _ _,
    fun fin _ => hP fin⟩
  · exact Extends.refl _ _
  · exact Carries.refl _ _

/-- Reading a label only reports; what follows gets the name it spells. -/
theorem Builds.labelName {ctx : LowerContext} {js : List NamedJump} (sp : Span) (l : Expr)
    {f : Option String → Lower α} {P : List Frame → List Frame → α → Prop}
    (hf : Builds users flagPrefix js (f (labelOf? l)) P) :
    Builds users flagPrefix js (Lower.labelName ctx sp l >>= f) P := by
  intro s hs
  rw [run_bind, labelName_run]
  obtain ⟨hv, hadv, loops, hown, hP⟩ := hf (s.reported ctx.file ((Site.labelFaults l).map (sp, ·)))
    ⟨hs.flags, hs.taken, hs.users⟩
  exact ⟨hv, ⟨hadv.taken, hadv.frames, hadv.exits⟩, loops,
    ⟨hown.nodup, hown.fresh, hown.taken, hown.apart⟩, hP⟩

/-- The flags of a loop's own frame, which was empty at first, and those of the loops in it. -/
theorem Owns.loop {loops gs : List Frame} {label : Option String} {g : Frame} {s t : LowerState}
    (hv : Valid users flagPrefix t) (ht : t.frames = g :: gs)
    (hg : GrowsTo s.taken (Frame.ofLabel label) g) (h : Owns loops s t) :
    Owns (g :: loops) s { t with frames := gs } := by
  have hflags := hv.flags.nodup
  rw [ht, flagsOf_cons, List.nodup_append'] at hflags
  have hown {x : String} (hx : x ∈ g.flags) : x ∈ t.taken :=
    hv.taken x (ht ▸ List.mem_append_left _ hx)
  have hapart {x : String} (hx : x ∈ flagsOf loops) : x ∉ g.flags ∧ x ∉ flagsOf gs := by
    have := h.apart x hx
    rwa [ht, flagsOf_cons, List.mem_append, not_or] at this
  have hfresh {x : String} (hx : x ∈ g.flags) : x ∉ s.taken := by
    obtain ⟨k, hk⟩ := Frame.mem_flags.1 hx
    rcases hg.flag k with hsame | ⟨-, hnew⟩
    · rw [hk] at hsame
      cases k <;> cases hsame
    · exact hnew x hk
  refine ⟨?_, fun x hx => ?_, fun x hx => ?_, fun x hx => ?_⟩
  · rw [flagsOf_cons, List.nodup_append']
    exact ⟨hflags.1, h.nodup, fun x hx hx' => (hapart hx').1 hx⟩
  all_goals rcases List.mem_append.1 hx with hx | hx
  · exact hfresh hx
  · exact h.fresh x hx
  · exact hown hx
  · exact h.taken x hx
  · exact hflags.2.2 hx
  · exact (hapart hx).2

/-- Inside of one more loop: its frame comes out final. -/
theorem Builds.insideLoop {js : List NamedJump} {label : Option String} {m : Lower α}
    {P : List Frame → List Frame → α → Prop} (hm : Builds users flagPrefix js m P) :
    Builds users flagPrefix (leaving label js) (Lower.insideLoop label m) fun fin loops r =>
      ∃ l, loops = r.2 :: l ∧ P (r.2 :: fin) l r.1 ∧
        FrameOk (IsFlagFor users flagPrefix) js label r.2 fin := by
  intro s hs
  have hempty : FlagsOk (IsFlagFor users flagPrefix) [Frame.ofLabel label] := by
    refine ⟨.nil, fun f hf k x hx => ?_⟩
    obtain rfl := List.mem_singleton.1 hf
    cases k <;> cases hx
  have hv : Valid users flagPrefix { s with frames := Frame.ofLabel label :: s.frames } :=
    ⟨flagsOk_cons.2 ⟨hempty, hs.flags, by simp [Frame.flags, Frame.ofLabel]⟩, hs.taken, hs.users⟩
  obtain ⟨hv', hadv, loops, hown, hP⟩ := hm _ hv
  rw [insideLoop_run]
  generalize m.run { s with frames := Frame.ofLabel label :: s.frames } = r at hv' hadv hown hP ⊢
  obtain ⟨a, frames, taken, ds, u⟩ := r
  obtain ⟨htaken, hframes, hexits⟩ := hadv
  cases hframes with
  | @cons _ g _ gs hg hgs =>
    obtain ⟨hnow, hrest⟩ := hexits
    obtain ⟨hgok, hgsok, hdisj⟩ := flagsOk_cons.1 hv'.flags
    have hown' := Owns.loop hv' rfl hg hown
    refine ⟨⟨hgsok, ?_, hv'.users⟩, ⟨htaken, hgs, hrest⟩, g :: loops,
      ⟨hown'.nodup, hown'.fresh, hown'.taken, hown'.apart⟩, fun fin hfin => ?_⟩
    · exact fun x hx => hv'.taken x (List.mem_append_right _ hx)
    · -- A flag of the frames to come is there already, or is newer than those of this loop.
      have hok : FlagsOk (IsFlagFor users flagPrefix) (g :: fin) := by
        refine flagsOk_cons.2 ⟨hgok, hfin.flags, fun x hx hxfin => ?_⟩
        rcases Extends.mem_flagsOf hfin.frames hxfin with hold | hnew
        · exact hdisj x hx hold
        · exact hnew (hv'.taken x (List.mem_append_left _ hx))
      exact ⟨loops, rfl, hP (g :: fin) ⟨.cons (.refl _ g) hfin.frames, hok⟩, hg.label_eq, hok,
        hnow fin hfin.frames⟩

/-- In a definition, where no loop is around. -/
theorem Builds.withFrames {js : List NamedJump} {m : Lower α}
    {P : List Frame → List Frame → α → Prop} (hm : Builds users flagPrefix js m P) :
    Builds users flagPrefix [] (Lower.withFrames [] m) fun _ loops a => P [] loops a := by
  intro s hs
  obtain ⟨hv, hadv, loops, hown, hP⟩ :=
    hm { s with frames := [] } ⟨.nil _, by simp [flagsOf], hs.users⟩
  rw [withFrames_run]
  generalize m.run { s with frames := [] } = r at hv hadv hown hP ⊢
  obtain ⟨a, frames, taken, ds, u⟩ := r
  obtain ⟨htaken, hframes, -⟩ := hadv
  cases hframes
  refine ⟨⟨hs.flags, fun x hx => htaken (hs.taken x hx), hv.users⟩, ⟨htaken, ?_, ?_⟩, loops, ?_, ?_⟩
  · exact Extends.refl _ _
  · exact Carries.refl _ _
  · exact ⟨hown.nodup, hown.fresh, hown.taken, fun x hx hs' => hown.fresh x hx (hs.taken x hs')⟩
  · exact fun _ _ => hP [] ⟨.nil, .nil _⟩

/-! ## A jump across loops -/

/-- `flagFor` gives the flag that the frame has, or a new name. -/
theorem flagFor_spec (ctx : LowerContext) (k : JumpKind) (name : String) (f : Frame)
    (taken : List String) :
    let r := flagFor ctx k name f taken
    r.2.1.label = f.label ∧ r.2.1.exits = f.exits ∧ r.2.1.flag k = some r.1 ∧
      (r.2 = (f, taken) ∨ f.flag k = none ∧ r.1 ∉ taken ∧ r.2.2 = r.1 :: taken ∧
        r.2.1 = f.setFlag r.1 k ∧ IsFlagName ctx.flagPrefix k name r.1) := by
  unfold flagFor
  cases hf : f.flag k with
  | some x => exact ⟨rfl, rfl, hf, .inl rfl⟩
  | none =>
    refine ⟨?_, ?_, ?_, .inr ⟨rfl, freshFlag_not_mem _ _, rfl, rfl, isFlagName_freshFlag _ _ _ _⟩⟩
    all_goals cases k <;> rfl

theorem setFlag_flag_self (f : Frame) (x : String) (k : JumpKind) :
    (f.setFlag x k).flag k = some x := by
  cases k <;> rfl

theorem setFlag_flag_of_ne (f : Frame) (x : String) {k k' : JumpKind} (h : k' ≠ k) :
    (f.setFlag x k).flag k' = f.flag k' := by
  cases k <;> cases k' <;> first | rfl | exact absurd rfl h

/-- The checks of a jump leave labels and flags alone. -/
theorem extends_addExits (taken : List String) (x : String) (k : JumpKind) (fs : List Frame) :
    Extends taken fs (addExits x k fs) := by
  have one (f : Frame) (e : Exit) : GrowsTo taken f (f.addExit e) :=
    ⟨f.addExit_label e, fun k => .inl (f.addExit_flag e k)⟩
  induction fs with
  | nil => exact .nil
  | cons f fs ih =>
    cases fs with
    | nil => exact .cons (one f _) .nil
    | cons g fs => exact .cons (one f _) ih

/-- A frame without its checks. -/
def bare (f : Frame) : Frame := { f with exits := [] }

theorem map_bare_addExits (x : String) (k : JumpKind) (fs : List Frame) :
    (addExits x k fs).map bare = fs.map bare := by
  have one (f : Frame) (e : Exit) : bare (f.addExit e) = bare f := by
    unfold Frame.addExit
    split <;> rfl
  induction fs with
  | nil => rfl
  | cons f fs ih =>
    cases fs with
    | nil => simp [addExits, one]
    | cons g fs => simp only [addExits, List.map_cons, one, ih]

theorem flagsOf_map_bare (fs : List Frame) : flagsOf (fs.map bare) = flagsOf fs := by
  induction fs with
  | nil => rfl
  | cons f fs ih => rw [List.map_cons, flagsOf_cons, flagsOf_cons, ih]; rfl

/-- Whether flags are in order does not depend on the checks. -/
theorem flagsOk_map_bare {Allowed : JumpKind → String → String → Prop} {fs : List Frame} :
    FlagsOk Allowed (fs.map bare) ↔ FlagsOk Allowed fs := by
  constructor
  · rintro ⟨hn, ha⟩
    refine ⟨flagsOf_map_bare fs ▸ hn, fun f hf k x hx => ?_⟩
    exact ha (bare f) (List.mem_map_of_mem hf) k x (by cases k <;> exact hx)
  · rintro ⟨hn, ha⟩
    refine ⟨(flagsOf_map_bare fs).symm ▸ hn, fun f hf k x hx => ?_⟩
    obtain ⟨g, hg, rfl⟩ := List.mem_map.1 hf
    exact ha g hg k x (by cases k <;> exact hx)

/-- The flag of a jump is that of the first frame with its name. -/
theorem flagOf?_addExits {k : JumpKind} {name x : String} {target : Frame}
    {inner outer : List Frame} (ht : target.label = some name) (hx : target.flag k = some x)
    (hin : ∀ f ∈ inner, f.label ≠ some name) :
    flagOf? (addExits x k inner ++ target :: outer) (k, name) = some x := by
  have hno : ∀ g ∈ addExits x k inner, g.label ≠ some name := by
    intro g hg hl
    have hmem := List.mem_map_of_mem (f := Frame.label) hg
    rw [map_label_addExits, hl] at hmem
    obtain ⟨f, hf, hl'⟩ := List.mem_map.1 hmem
    exact hin f hf hl'
  generalize addExits x k inner = gs at hno
  induction gs with
  | nil => simp [flagOf?, ht, hx]
  | cons g gs ih =>
    rw [List.cons_append, flagOf?, if_neg (hno g List.mem_cons_self)]
    exact ih fun g' hg' => hno g' (List.mem_cons_of_mem _ hg')

/-- The checks of a jump are those that its way out asks for. -/
theorem carries_addExits {taken : List String} {k : JumpKind} {name x : String}
    {target target' : Frame} {outer : List Frame} (ht : target.label = some name)
    (ht' : target'.label = some name) (hexits : target'.exits = target.exits)
    (hx : target'.flag k = some x) :
    ∀ inner : List Frame, (∀ f ∈ inner, f.label ≠ some name) →
      Carries taken [(k, name)] (inner ++ target :: outer) (addExits x k inner ++ target' :: outer)
  | [], _ => by
    have hnone : leaving target.label [(k, name)] = [] := by simp [leaving, ht]
    simp only [List.nil_append, addExits, Carries, hnone]
    exact ⟨fun _ _ => hexits, Carries.refl _ _⟩
  | f :: inner, hin => by
    have hall : leaving f.label [(k, name)] = [(k, name)] := by
      simp [leaving, hin f List.mem_cons_self]
    have hrest : Carries taken [(k, name)] (inner ++ target :: outer)
        (addExits x k inner ++ target' :: outer) :=
      carries_addExits ht ht' hexits hx inner fun g hg => hin g (List.mem_cons_of_mem _ hg)
    have hflag : flagOf? (addExits x k inner ++ target' :: outer) (k, name) = some x :=
      flagOf?_addExits ht' hx fun g hg => hin g (List.mem_cons_of_mem _ hg)
    have hexit (fin : List Frame)
        (hfin : Extends taken (addExits x k inner ++ target' :: outer) fin) :
        exitOf? fin (k, name) = some (x, if inner = [] then k else .breaks) := by
      rw [exitOf?, Extends.flagOf? hfin hflag, Extends.namesHead hfin]
      cases inner with
      | nil => simp [namesHead, addExits, ht']
      | cons g inner =>
        have hg := hin g (by simp)
        cases inner <;> simp [namesHead, addExits, Frame.addExit_label, hg]
    cases inner with
    | nil =>
      simp only [List.cons_append, List.nil_append, addExits, Carries, hall] at hrest ⊢
      exact ⟨fun fin hfin => by simp [hexit fin hfin, Frame.addExit_exits], hrest⟩
    | cons g inner =>
      simp only [List.cons_append, addExits, Carries, hall] at hrest ⊢
      exact ⟨fun fin hfin => by simp [hexit fin hfin, Frame.addExit_exits], hrest⟩

/-- A jump that no loop around has the name of asks for nothing. -/
theorem carries_unresolved {taken : List String} {k : JumpKind} {name : String}
    (fs : List Frame) (hfs : ∀ f ∈ fs, f.label ≠ some name) :
    Carries taken [(k, name)] fs fs := by
  induction fs with
  | nil => trivial
  | cons f fs ih =>
    have hall : leaving f.label [(k, name)] = [(k, name)] := by
      simp [leaving, hfs f List.mem_cons_self]
    have hfs' : ∀ g ∈ fs, g.label ≠ some name := fun g hg => hfs g (List.mem_cons_of_mem _ hg)
    rw [Carries, hall]
    refine ⟨fun fin hfin => ?_, ih hfs'⟩
    have hno : some name ∉ fin.map Frame.label := by
      rw [Extends.labels hfin]
      simpa using hfs'
    have hflag : ∀ gs : List Frame, some name ∉ gs.map Frame.label →
        flagOf? gs (k, name) = none := by
      intro gs hgs
      induction gs with
      | nil => rfl
      | cons g gs ih =>
        simp only [List.map_cons, List.mem_cons, not_or] at hgs
        rw [flagOf?, if_neg (Ne.symm hgs.1), ih hgs.2]
    simp [exitOf?, hflag fin hno]

theorem flags_setFlag_perm {f : Frame} {k : JumpKind} (h : f.flag k = none) (x : String) :
    (f.setFlag x k).flags.Perm (x :: f.flags) := by
  cases k with
  | breaks =>
    have hb : f.breakFlag = none := h
    simp [Frame.flags, Frame.setFlag, hb]
  | continues =>
    have hc : f.continueFlag = none := h
    simp [Frame.flags, Frame.setFlag, hc]

/-- A new flag for a frame keeps the flags in order. -/
theorem flagsOk_setFlag {s : LowerState} {k : JumpKind} {name x : String}
    {inner outer : List Frame} {target : Frame} (hs : Valid users flagPrefix s)
    (hframes : s.frames = inner ++ target :: outer) (ht : target.label = some name)
    (hnone : target.flag k = none) (hx : x ∉ s.taken) (hname : IsFlagName flagPrefix k name x) :
    FlagsOk (IsFlagFor users flagPrefix) (inner ++ target.setFlag x k :: outer) ∧
      ∀ y ∈ flagsOf (inner ++ target.setFlag x k :: outer), y ∈ x :: s.taken := by
  have hperm : (flagsOf (inner ++ target.setFlag x k :: outer)).Perm (x :: flagsOf s.frames) := by
    rw [hframes]
    simp only [flagsOf, List.flatMap_append, List.flatMap_cons]
    refine (List.Perm.append_left _ ((flags_setFlag_perm hnone x).append_right _)).trans ?_
    exact List.perm_middle
  have hnew : x ∉ flagsOf s.frames := fun h => hx (hs.taken x h)
  refine ⟨⟨hperm.nodup_iff.2 (List.nodup_cons.2 ⟨hnew, hs.flags.nodup⟩), ?_⟩, fun y hy => ?_⟩
  · intro f hf k' y hy
    have hold : ∀ g ∈ inner ++ target :: outer, ∀ k y, g.flag k = some y →
        ∃ name, g.label = some name ∧ IsFlagFor users flagPrefix k name y := by
      rw [← hframes]
      exact hs.flags.allowed
    rcases List.mem_append.1 hf with hf | hf
    · exact hold f (List.mem_append_left _ hf) k' y hy
    · rcases List.mem_cons.1 hf with rfl | hf
      · have hlabel : (target.setFlag x k).label = target.label := by cases k <;> rfl
        rw [hlabel]
        by_cases hk : k' = k
        · subst hk
          rw [setFlag_flag_self] at hy
          obtain rfl := Option.some.inj hy
          exact ⟨name, ht, fun hu => hx (hs.users hu), hname⟩
        · rw [setFlag_flag_of_ne _ _ hk] at hy
          exact hold target (by simp) k' y hy
      · exact hold f (by simp [hf]) k' y hy
  · rcases List.mem_cons.1 (hperm.mem_iff.1 hy) with rfl | hy
    · exact List.mem_cons_self
    · exact List.mem_cons_of_mem _ (hs.taken y hy)

/-- The flag for a jump: the target has it, or gets a new name. -/
theorem flagFor_valid {ctx : LowerContext} {k : JumpKind} {name : String} {s : LowerState}
    {inner outer : List Frame} {target : Frame} (hs : Valid users ctx.flagPrefix s)
    (hframes : s.frames = inner ++ target :: outer) (ht : target.label = some name) :
    let r := flagFor ctx k name target s.taken
    GrowsTo s.taken target r.2.1 ∧ s.taken ⊆ r.2.2 ∧
      FlagsOk (IsFlagFor users ctx.flagPrefix) (inner ++ r.2.1 :: outer) ∧
      ∀ y ∈ flagsOf (inner ++ r.2.1 :: outer), y ∈ r.2.2 := by
  intro r
  obtain ⟨-, -, hflag, hsame | ⟨hnone, hfresh, htaken, htarget, hname⟩⟩ :=
    flagFor_spec ctx k name target s.taken
  · have hr : r.2 = (target, s.taken) := hsame
    rw [hr, ← hframes]
    exact ⟨.refl _ _, List.Subset.refl _, hs.flags, hs.taken⟩
  · have ht1 : r.2.1 = target.setFlag r.1 k := htarget
    have ht2 : r.2.2 = r.1 :: s.taken := htaken
    rw [ht1, ht2]
    refine ⟨⟨by cases k <;> rfl, fun k' => ?_⟩, List.subset_cons_self _ _,
      flagsOk_setFlag hs hframes ht hnone hfresh hname⟩
    by_cases hk : k' = k
    · subst hk
      refine .inr ⟨hnone, fun x hx => ?_⟩
      rw [setFlag_flag_self] at hx
      obtain rfl := Option.some.inj hx
      exact hfresh
    · exact .inl (setFlag_flag_of_ne _ _ hk)

/-- A jump is resolved to the innermost loop of its name. -/
theorem builds_jump {ctx : LowerContext} (sp : Span) (k : JumpKind) (l : Expr) :
    Builds users ctx.flagPrefix ((labelOf? l).toList.map (k, ·)) (jump ctx sp k l)
      fun fin loops out => loops = [] ∧ JumpLowersTo fin sp k l out := by
  unfold JumpLowersTo
  cases hl : labelOf? l with
  | none =>
    exact Builds.reporting (fun s => ⟨_, jump_run_invalid sp k hl s⟩) fun _ => ⟨rfl, rfl⟩
  | some name =>
    intro s hs
    rcases frames_split name s.frames with hno | ⟨inner, target, outer, hf, hin, ht⟩
    · rw [jump_run_unknown sp k hl hno]
      refine ⟨⟨hs.flags, hs.taken, hs.users⟩, ⟨List.Subset.refl _, ?_, ?_⟩, [], Owns.nil _ _,
        fun fin hfin => ⟨rfl, ?_⟩⟩
      · exact Extends.refl _ _
      · exact carries_unresolved s.frames hno
      · have hlabels := Extends.labels hfin.frames
        rw [LowerState.frames_reported] at hlabels
        have : some name ∉ fin.map Frame.label := by
          rw [hlabels]
          simpa using hno
        simp [this]
    · cases inner with
      | nil =>
        rw [jump_run_innermost sp k hl hf ht]
        have hcaught : leaving target.label [(k, name)] = [] := by simp [leaving, ht]
        refine ⟨hs, ⟨List.Subset.refl _, Extends.refl _ _, ?_⟩, [], Owns.nil _ _,
          fun fin hfin => ⟨rfl, ?_⟩⟩
        · show Carries s.taken [(k, name)] s.frames s.frames
          rw [hf, List.nil_append, Carries, hcaught]
          exact ⟨fun _ _ => rfl, Carries.refl _ _⟩
        · have hhead : namesHead fin name = true := by
            rw [Extends.namesHead hfin.frames, hf]
            simp [namesHead, ht]
          simp [hhead]
      | cons f inner =>
        rw [jump_run_outer sp k hl hf hin ht]
        obtain ⟨hlabel, hexits, hflag, -⟩ := flagFor_spec ctx k name target s.taken
        obtain ⟨hgrows, hsub, hok, htaken⟩ := flagFor_valid (k := k) hs hf ht
        generalize flagFor ctx k name target s.taken = r at *
        obtain ⟨x, target', taken⟩ := r
        have hbare : (addExits x k (f :: inner) ++ target' :: outer).map bare =
            (f :: inner ++ target' :: outer).map bare := by
          rw [List.map_append, List.map_append, map_bare_addExits]
        refine ⟨⟨?_, ?_, fun y hy => hsub (hs.users hy)⟩, ⟨hsub, ?_, ?_⟩, [], Owns.nil _ _,
          fun fin hfin => ⟨rfl, ?_⟩⟩
        · exact flagsOk_map_bare.1 (hbare ▸ flagsOk_map_bare.2 hok)
        · intro y hy
          rw [← flagsOf_map_bare, hbare, flagsOf_map_bare] at hy
          exact htaken y hy
        · rw [hf]
          exact List.rel_append (extends_addExits _ x k _) (.cons hgrows (Extends.refl _ _))
        · rw [hf]
          exact carries_addExits ht (hlabel.trans ht) hexits hflag _ hin
        · have hfl := Extends.flagOf? hfin.frames (flagOf?_addExits (hlabel.trans ht) hflag hin)
          have hhead : namesHead fin name = false := by
            rw [Extends.namesHead hfin.frames]
            cases inner <;>
              simp [namesHead, addExits, Frame.addExit_label, hin f List.mem_cons_self]
          have hmem : some name ∈ fin.map Frame.label := by
            have hname : target'.label = some name := hlabel.trans ht
            rw [Extends.labels hfin.frames]
            simp [hname]
          simp [hhead, hmem, hfl]

/-! ## The traversal -/

/-- A marker only reports. -/
theorem builds_marker {ctx : LowerContext} (sp : Span) (l : Expr) {rest : List (Stmt Placeholder)}
    {js : List NamedJump} {part : Option String → Lower α}
    {P : List Frame → List Frame → α → Prop}
    (hp : Builds users ctx.flagPrefix js (part (labelOf? l)) P) :
    Builds users ctx.flagPrefix js
      (do
        let name ← labelName ctx sp l
        if !((rest.head?.map Stmt.isLoop).getD false) then report ctx sp .labelWithoutLoop
        part name) P := by
  refine Builds.labelName sp l ?_
  by_cases h : (rest.head?.map Stmt.isLoop).getD false = true
  · simpa [h] using hp
  · have hreport : Builds users ctx.flagPrefix [] (report ctx sp .labelWithoutLoop)
        fun _ loops _ => loops = [] :=
      Builds.reporting (fun s => ⟨_, report_run sp .withoutLoop _ rfl rfl s⟩) fun _ => rfl
    simpa [h] using hreport.bind fun _ => hp.imp fun _ _ _ hP _ hnil => by simpa [hnil] using hP

mutual

/-- Lowering a statement that is no marker gives what it lowers to. -/
theorem stmt_builds (ctx : LowerContext) (users : List String) (label : Option String) :
    ∀ s : Stmt Placeholder, Builds users ctx.flagPrefix (s.jumps label) (stmt ctx label s)
      fun fin loops out => s.LowersBy (IsFlagFor users ctx.flagPrefix) fin label loops out
  | .simple _ _ => Builds.pure _ fun _ => ⟨rfl, rfl⟩
  | .hole sp (.jump k l) => builds_jump sp k l
  | .hole _ (.loopLabel _) => Builds.pure _ fun _ => ⟨rfl, rfl⟩
  | .branch _ _ b o => by
    refine (block_builds ctx users none b).bind fun b' => ?_
    exact (block_builds ctx users none o).map fun _ l₂ o' ho l₁ hb =>
      ⟨l₁, l₂, b', o', hb, ho, rfl, rfl⟩
  | .loop _ _ b o => by
    refine (block_builds ctx users none b).insideLoop.bind fun r => ?_
    refine (block_builds ctx users none o).map fun _ l₂ o' ho _ ⟨l₁, hloops, hb, hf⟩ => ?_
    exact ⟨r.2, l₁, l₂, r.1, o', hb, ho, hf, by rw [hloops], rfl⟩
  | .function _ _ b =>
    (block_builds ctx users none b).withFrames.map fun _ _ b' hb => ⟨b', hb, rfl⟩
  | .klass _ _ b =>
    (block_builds ctx users none b).withFrames.map fun _ _ b' hb => ⟨b', hb, rfl⟩
  | .withItems _ _ _ b => (block_builds ctx users none b).map fun _ _ b' hb => ⟨b', hb, rfl⟩
  | .attempt _ _ b hs o f => by
    rw [Stmt.jumps, List.append_assoc, List.append_assoc]
    refine (block_builds ctx users none b).bind fun b' => ?_
    refine (handlers_builds ctx users hs).bind fun hs' => ?_
    refine (block_builds ctx users none o).bind fun o' => ?_
    exact (block_builds ctx users none f).map fun _ l₄ f' hf l₃ ho l₂ hh l₁ hb =>
      ⟨l₁, l₂, l₃, l₄, b', hs', o', f', hb, hh, ho, hf, rfl, rfl⟩
  | .select _ _ cs => (cases_builds ctx users cs).map fun _ _ cs' hc => ⟨cs', hc, rfl⟩

/-- **Lowering a block gives statements that it lowers to**, for whatever the frames around become
later. -/
theorem block_builds (ctx : LowerContext) (users : List String) (label : Option String) :
    ∀ b : List (Stmt Placeholder),
      Builds users ctx.flagPrefix (Stmt.blockJumps label b) (block ctx label b)
        fun fin loops out =>
          Stmt.BlockLowersBy (IsFlagFor users ctx.flagPrefix) fin label loops out b
  | [] => Builds.pure _ fun _ => ⟨rfl, rfl⟩
  | s :: rest => by
    unfold block
    split
    · rename_i sp l hs
      obtain rfl : s = .hole sp (.loopLabel l) := by
        unfold loopLabel? at hs
        split at hs <;> simp_all
      exact builds_marker sp l ((block_builds ctx users (labelOf? l) rest).imp
        fun fin loops out hout => ⟨[], loops, [], out, ⟨rfl, rfl⟩, hout, rfl, rfl⟩)
    · rename_i hs
      rw [Stmt.blockJumps, labelFrom_eq_none hs]
      refine (stmt_builds ctx users label s).bind fun first => ?_
      refine (block_builds ctx users none rest).map fun _ l₂ more hmore l₁ hfirst => ?_
      exact ⟨l₁, l₂, first, more, hfirst, (labelFrom_eq_none hs).symm ▸ hmore, rfl, rfl⟩

theorem handlers_builds (ctx : LowerContext) (users : List String) :
    ∀ hs : List (Handler Placeholder),
      Builds users ctx.flagPrefix (Handler.jumps hs) (handlers ctx hs)
        fun fin loops out => Handler.LowerBy (IsFlagFor users ctx.flagPrefix) fin loops out hs
  | [] => Builds.pure _ fun _ => ⟨rfl, rfl⟩
  | .mk _ _ _ b :: hs => by
    refine (block_builds ctx users none b).bind fun b' => ?_
    exact (handlers_builds ctx users hs).map fun _ l₂ hs' hh l₁ hb =>
      ⟨l₁, l₂, b', hs', hb, hh, rfl, rfl⟩

theorem cases_builds (ctx : LowerContext) (users : List String) :
    ∀ cs : List (Case Placeholder),
      Builds users ctx.flagPrefix (Case.jumps cs) (cases ctx cs)
        fun fin loops out => Case.LowerBy (IsFlagFor users ctx.flagPrefix) fin loops out cs
  | [] => Builds.pure _ fun _ => ⟨rfl, rfl⟩
  | .mk _ _ b :: cs => by
    refine (block_builds ctx users none b).bind fun b' => ?_
    exact (cases_builds ctx users cs).map fun _ l₂ cs' hc l₁ hb =>
      ⟨l₁, l₂, b', cs', hb, hc, rfl, rfl⟩

end

end Lower

end JumpMacros
