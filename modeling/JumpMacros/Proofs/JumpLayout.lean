import JumpMacros.Proofs.FlagDemand

/-!
# The layout of lowered jumps

**Theorem (`Lower.block_laysOut`).** If all labels are in order, lowering lays a block out as
`Stmt.BlockLaysOut` says: each jump is plain or sets a flag and breaks; each loop is preceded by the
reset of its flag for `break`, begins with the reset of its flag for `continue`, and is followed by
one check for each flag that a jump out of its body sets, with what the check does.

`Stmt.LowersTo` describes the same statements, but it says of flags only that the jumps across loops
have one, and of checks only how they are collected. Here it is said which flags and checks there
are. A loop is laid out by its frame and its body, `laid` lists both for all loops in source order.
-/

namespace JumpMacros

open Lower (plainJump setFlag check labelOf?)

/-! ## The loop that a jump goes to -/

/-- `target` is the innermost of the loops `fs` with a name, and the loops `inner` are inside of
it. -/
structure Targets (fs inner : List Frame) (target : Frame) (name : String) : Prop where
  split : ∃ outer, fs = inner ++ target :: outer
  inner : ∀ f ∈ inner, f.label ≠ some name
  label_eq : target.label = some name

theorem Targets.flagOf? {fs inner : List Frame} {target : Frame} {name : String}
    (h : Targets fs inner target name) (k : JumpKind) :
    flagOf? fs (k, name) = target.flag k := by
  obtain ⟨⟨outer, rfl⟩, hin, ht⟩ := h
  induction inner with
  | nil => simp [JumpMacros.flagOf?, ht]
  | cons f inner ih =>
    rw [List.cons_append, JumpMacros.flagOf?, if_neg (hin f List.mem_cons_self)]
    exact ih fun g hg => hin g (List.mem_cons_of_mem _ hg)

theorem Targets.namesHead {fs inner : List Frame} {target : Frame} {name : String}
    (h : Targets fs inner target name) : namesHead fs name = true ↔ inner = [] := by
  obtain ⟨⟨outer, rfl⟩, hin, ht⟩ := h
  cases inner with
  | nil => simp [JumpMacros.namesHead, ht]
  | cons f inner => simp [JumpMacros.namesHead, hin f List.mem_cons_self]

/-- A name among those of the loops has an innermost loop. -/
theorem exists_targets {fs : List Frame} {name : String} (h : some name ∈ fs.map Frame.label) :
    ∃ inner target, Targets fs inner target name := by
  rcases Lower.frames_split name fs with hno | ⟨inner, target, outer, hf, hin, ht⟩
  · obtain ⟨f, hf, hl⟩ := List.mem_map.1 h
    exact absurd hl (hno f hf)
  · exact ⟨inner, target, ⟨outer, hf⟩, hin, ht⟩

theorem mem_labels_of_flagOf? {fs : List Frame} {j : NamedJump} {x : String}
    (h : flagOf? fs j = some x) : some j.2 ∈ fs.map Frame.label := by
  induction fs with
  | nil => cases h
  | cons f fs ih =>
    unfold flagOf? at h
    split at h
    · rename_i hl
      exact hl ▸ List.mem_cons_self
    · exact List.mem_cons_of_mem _ (ih h)

/-- A jump has a flag if the loop that it goes to has one for it. -/
theorem flagOf?_eq_some {fs : List Frame} {k : JumpKind} {name x : String} :
    flagOf? fs (k, name) = some x ↔
      ∃ inner target, Targets fs inner target name ∧ target.flag k = some x := by
  constructor
  · intro h
    obtain ⟨inner, target, ht⟩ := exists_targets (mem_labels_of_flagOf? h)
    exact ⟨inner, target, ht, ht.flagOf? k ▸ h⟩
  · rintro ⟨inner, target, ht, hx⟩
    rw [ht.flagOf?, hx]

/-- The flag of a jump tells the jump. -/
theorem eq_of_flagOf? {fs : List Frame} (h : (flagsOf fs).Nodup) {j j' : NamedJump} {x : String}
    (hj : flagOf? fs j = some x) (hj' : flagOf? fs j' = some x) : j = j' := by
  induction fs with
  | nil => cases hj
  | cons f fs ih =>
    rw [flagsOf_cons, List.nodup_append'] at h
    obtain ⟨hown, hrest, hdisj⟩ := h
    have hinner {j : NamedJump} (hl : f.label = some j.2) (hj : flagOf? (f :: fs) j = some x) :
        f.flag j.1 = some x := by
      rwa [flagOf?, if_pos hl] at hj
    have houter {j : NamedJump} (hl : ¬f.label = some j.2) (hj : flagOf? (f :: fs) j = some x) :
        flagOf? fs j = some x := by
      rwa [flagOf?, if_neg hl] at hj
    have hapart {i j : NamedJump} (hi : f.flag i.1 = some x) (hj : flagOf? fs j = some x) : False :=
      hdisj (Frame.mem_flags.2 ⟨_, hi⟩) (mem_flagsOf_of_flagOf? hj)
    by_cases hl : f.label = some j.2 <;> by_cases hl' : f.label = some j'.2
    · have hkind : j.1 = j'.1 := Frame.flag_injective hown (hinner hl' hj') (hinner hl hj)
      exact Prod.ext hkind (Option.some.inj (hl.symm.trans hl'))
    · exact (hapart (hinner hl hj) (houter hl' hj')).elim
    · exact (hapart (hinner hl' hj') (houter hl hj)).elim
    · exact ih hrest (houter hl hj) (houter hl' hj')

/-! ## Checks -/

theorem nodup_foldl_addCheck {es acc : List Exit} (h : acc.Nodup) :
    (es.foldl addCheck acc).Nodup := by
  induction es generalizing acc with
  | nil => exact h
  | cons e es ih =>
    refine ih ?_
    unfold addCheck
    split
    · exact h
    · rename_i hc
      exact List.nodup_append'.2 ⟨h, List.nodup_singleton e, by simpa using hc⟩

theorem mem_foldl_addCheck_iff {e : Exit} {es acc : List Exit} :
    e ∈ es.foldl addCheck acc ↔ e ∈ acc ∨ e ∈ es := by
  refine ⟨mem_foldl_addCheck, fun h => ?_⟩
  induction es generalizing acc with
  | nil => simpa using h
  | cons e' es ih =>
    have hstep : e ∈ acc ∨ e = e' → e ∈ addCheck acc e' := by
      intro h
      unfold addCheck
      split
      · rename_i hc
        rcases h with h | rfl
        · exact h
        · simpa using hc
      · simpa using h
    refine ih ?_
    rcases h with h | h
    · exact .inl (hstep (.inl h))
    · rcases List.mem_cons.1 h with h | h
      · exact .inl (hstep (.inr h))
      · exact .inr h

/-! ## Loops -/

/-- The flags and checks of a loop with its label and body, inside of the loops `fs`. It has a flag
for a kind of jump if such a jump comes to it from inside of another loop. It has one check for each
flag that is set by a jump which leaves its body. A check does what was asked for if the target is
the next loop around, and leaves that one too otherwise. -/
structure LoopLayout (fs : List Frame) (label : Option String) (body : List (Stmt Placeholder))
    (f : Frame) : Prop where
  label_eq : f.label = label
  flag_iff : ∀ k, (f.flag k).isSome = true ↔
    ∃ name, label = some name ∧ (k, name) ∈ Stmt.blockCrossings none body
  once : (f.exits.map Prod.fst).Nodup
  exit_iff : ∀ x a, (x, a) ∈ f.exits ↔ ∃ k name inner target,
    (k, name) ∈ Stmt.blockJumps none body ∧ label ≠ some name ∧ Targets fs inner target name ∧
      target.flag k = some x ∧ a = if inner = [] then k else .breaks

theorem exitOf?_eq_some {fs : List Frame} {k : JumpKind} {name x : String} {a : JumpKind} :
    exitOf? fs (k, name) = some (x, a) ↔ ∃ inner target, Targets fs inner target name ∧
      target.flag k = some x ∧ a = if inner = [] then k else .breaks := by
  unfold exitOf?
  rw [Option.map_eq_some_iff]
  constructor
  · rintro ⟨y, hy, he⟩
    obtain ⟨inner, target, ht, hx⟩ := flagOf?_eq_some.1 hy
    obtain ⟨rfl, rfl⟩ := Prod.mk.inj he
    exact ⟨inner, target, ht, hx, by simp only [ht.namesHead]⟩
  · rintro ⟨inner, target, ht, hx, rfl⟩
    exact ⟨x, flagOf?_eq_some.2 ⟨inner, target, ht, hx⟩, by simp only [ht.namesHead]⟩

/-- What is collected for a loop are its checks, one for each flag. -/
theorem FrameOk.layout {Allowed : JumpKind → String → String → Prop} {fs : List Frame}
    {label : Option String} {body : List (Stmt Placeholder)} {f : Frame}
    (h : FrameOk Allowed (Stmt.blockJumps none body) label f fs)
    (hflag : ∀ k, (f.flag k).isSome = true ↔
      ∃ name, label = some name ∧ (k, name) ∈ Stmt.blockCrossings none body) :
    LoopLayout fs label body f := by
  have hmem (x : String) (a : JumpKind) : (x, a) ∈ f.exits ↔
      ∃ k name, (k, name) ∈ leaving label (Stmt.blockJumps none body) ∧
        exitOf? fs (k, name) = some (x, a) := by
    rw [h.exits, mem_foldl_addCheck_iff, List.mem_filterMap]
    simp
  refine ⟨h.label_eq, hflag, ?_, fun x a => ?_⟩
  · -- Checks of one flag are for one jump, and so they are the same.
    refine List.Nodup.map_on ?_ (h.exits ▸ nodup_foldl_addCheck List.nodup_nil)
    rintro ⟨x, a⟩ hx ⟨y, b⟩ hy (rfl : x = y)
    obtain ⟨k, name, -, he⟩ := (hmem x a).1 hx
    obtain ⟨k', name', -, he'⟩ := (hmem x b).1 hy
    obtain ⟨inner, target, ht, hk, -⟩ := exitOf?_eq_some.1 he
    obtain ⟨inner', target', ht', hk', -⟩ := exitOf?_eq_some.1 he'
    have hsame := eq_of_flagOf? (flagsOk_cons.1 h.flags).2.1.nodup
      (flagOf?_eq_some.2 ⟨inner, target, ht, hk⟩) (flagOf?_eq_some.2 ⟨inner', target', ht', hk'⟩)
    rw [hsame] at he
    exact Option.some.inj (he.symm.trans he')
  · rw [hmem]
    simp only [mem_leaving, exitOf?_eq_some]
    constructor
    · rintro ⟨k, name, ⟨hj, hl⟩, inner, target, ht, hx, ha⟩
      exact ⟨k, name, inner, target, hj, hl, ht, hx, ha⟩
    · rintro ⟨k, name, inner, target, hj, hl, ht, hx, ha⟩
      exact ⟨k, name, ⟨hj, hl⟩, inner, target, ht, hx, ha⟩

/-! ## The lowered tree -/

/-- A loop as it is laid out: its frame, and its body before lowering. -/
abbrev LaidLoop := Frame × List (Stmt Placeholder)

/-- A jump to the innermost loop is plain. A jump across loops sets the flag that its target has
for it, and breaks. -/
def JumpLaysOut (fs : List Frame) (sp : Span) (k : JumpKind) (l : Expr)
    (out : List (Stmt Empty)) : Prop :=
  ∃ name inner target, labelOf? l = some name ∧ Targets fs inner target name ∧
    (inner = [] ∧ out = [plainJump sp k] ∨
      inner ≠ [] ∧ ∃ x, target.flag k = some x ∧ out = [setFlag sp x true, .simple sp .breaks])

/-- The resets of flags, if there are any. -/
def resets (sp : Span) (flag : Option String) : List (Stmt Empty) :=
  flag.toList.map fun x => setFlag sp x false

theorem assemble_eq (sp : Span) (h : LoopHead) (b o : List (Stmt Empty)) (f : Frame) :
    Lower.assemble sp h b o f = resets sp (f.flag .breaks) ++
      .loop sp h (resets sp (f.flag .continues) ++ b) o :: f.exits.map (check sp) := by
  obtain ⟨label, fb, fc, exits⟩ := f
  cases fb <;> cases fc <;> rfl

mutual

/-- The statements `out` lay out a statement with a label, inside of the loops `fs`; the loops in it
are laid out as `laid`. -/
def Stmt.LaysOut (fs : List Frame) (label : Option String) (laid : List LaidLoop)
    (out : List (Stmt Empty)) : Stmt Placeholder → Prop
  | .simple sp s => laid = [] ∧ out = [.simple sp s]
  | .hole sp (.jump k l) => laid = [] ∧ JumpLaysOut fs sp k l out
  | .hole _ (.loopLabel _) => laid = [] ∧ out = []
  | .branch sp t b o => ∃ l₁ l₂ b' o', Stmt.BlockLaysOut fs none l₁ b' b ∧
      Stmt.BlockLaysOut fs none l₂ o' o ∧ laid = l₁ ++ l₂ ∧ out = [.branch sp t b' o']
  | .loop sp h b o => ∃ f l₁ l₂ b' o', Stmt.BlockLaysOut (f :: fs) none l₁ b' b ∧
      Stmt.BlockLaysOut fs none l₂ o' o ∧ LoopLayout fs label b f ∧
      laid = (f, b) :: l₁ ++ l₂ ∧
      out = resets sp (f.flag .breaks) ++
        .loop sp h (resets sp (f.flag .continues) ++ b') o' :: f.exits.map (check sp)
  | .function sp h b => ∃ b', Stmt.BlockLaysOut [] none laid b' b ∧ out = [.function sp h b']
  | .klass sp h b => ∃ b', Stmt.BlockLaysOut [] none laid b' b ∧ out = [.klass sp h b']
  | .withItems sp a is b => ∃ b', Stmt.BlockLaysOut fs none laid b' b ∧
      out = [.withItems sp a is b']
  | .attempt sp star b hs o f => ∃ l₁ l₂ l₃ l₄ b' hs' o' f', Stmt.BlockLaysOut fs none l₁ b' b ∧
      Handler.LayOut fs l₂ hs' hs ∧ Stmt.BlockLaysOut fs none l₃ o' o ∧
      Stmt.BlockLaysOut fs none l₄ f' f ∧ laid = l₁ ++ (l₂ ++ (l₃ ++ l₄)) ∧
      out = [.attempt sp star b' hs' o' f']
  | .select sp e cs => ∃ cs', Case.LayOut fs laid cs' cs ∧ out = [.select sp e cs']

/-- The statements `out` lay out a block whose first statement has a label. -/
def Stmt.BlockLaysOut (fs : List Frame) (label : Option String) (laid : List LaidLoop)
    (out : List (Stmt Empty)) : List (Stmt Placeholder) → Prop
  | [] => laid = [] ∧ out = []
  | s :: rest => ∃ l₁ l₂ first more, s.LaysOut fs label l₁ first ∧
      Stmt.BlockLaysOut fs (Layer.labelFrom (some s)) l₂ more rest ∧ laid = l₁ ++ l₂ ∧
      out = first ++ more

def Handler.LayOut (fs : List Frame) (laid : List LaidLoop) (out : List (Handler Empty)) :
    List (Handler Placeholder) → Prop
  | [] => laid = [] ∧ out = []
  | .mk p t n b :: hs => ∃ l₁ l₂ b' hs', Stmt.BlockLaysOut fs none l₁ b' b ∧
      Handler.LayOut fs l₂ hs' hs ∧ laid = l₁ ++ l₂ ∧ out = .mk p t n b' :: hs'

def Case.LayOut (fs : List Frame) (laid : List LaidLoop) (out : List (Case Empty)) :
    List (Case Placeholder) → Prop
  | [] => laid = [] ∧ out = []
  | .mk p g b :: cs => ∃ l₁ l₂ b' cs', Stmt.BlockLaysOut fs none l₁ b' b ∧
      Case.LayOut fs l₂ cs' cs ∧ laid = l₁ ++ l₂ ∧ out = .mk p g b' :: cs'

end

/-! ## The traversal -/

namespace Lower

variable {users : List String} {flagPrefix : String} {α : Type}

/-- A part builds what its result has in common for all states. -/
theorem Builds.and {js : List NamedJump} {m : Lower α} {P : List Frame → List Frame → α → Prop}
    {Q : α → Prop} (hm : Builds users flagPrefix js m P) (hQ : ∀ s, Q (m.run s).1) :
    Builds users flagPrefix js m fun fin loops a => P fin loops a ∧ Q a := by
  intro s hs
  obtain ⟨hv, hadv, loops, hown, hP⟩ := hm s hs
  exact ⟨hv, hadv, loops, hown, fun fin hfin => ⟨hP fin hfin, hQ s⟩⟩

/-- The names of the loops around a site are those of some frames. -/
def Around (around : List Layer) (fs : List Frame) : Prop :=
  fs.map Frame.label = Layer.loopLabels around

/-- No site is at fault. -/
def Faultless (sites : List Site) : Prop := ∀ site ∈ sites, site.faults = []

theorem faultless_append {ss ts : List Site} :
    Faultless (ss ++ ts) ↔ Faultless ss ∧ Faultless ts := by
  simp [Faultless, or_imp, forall_and]

/-- Statements with the sites `sites` are laid out for frames `fin`, if no site is at fault. -/
def LaidOut {β : Type} (around : List Layer) (sites : List Site)
    (P : List Frame → List LaidLoop → β → Prop) (fin loops : List Frame) (out : β) : Prop :=
  Around around fin → Faultless sites → ∃ laid : List LaidLoop, laid.map Prod.fst = loops ∧
    P fin laid out

/-- A jump that is in order is laid out. -/
theorem jumpLaysOut_of_lowersTo {around : List Layer} {fin : List Frame} {sp : Span} {k : JumpKind}
    {l : Expr} {after : Option (Stmt Placeholder)} {out : List (Stmt Empty)}
    (hfin : Around around fin) (hfaults : (Site.mk sp (.jump k l) after around).faults = [])
    (h : JumpLowersTo fin sp k l out) : JumpLaysOut fin sp k l out := by
  unfold JumpLowersTo at h
  cases hl : labelOf? l with
  | none => simp [Site.faults, hl] at hfaults
  | some name =>
    have hreach : some name ∈ Layer.loopLabels around := by
      by_contra hno
      have hnot : ¬ Site.Reaches ⟨sp, .jump k l, after, around⟩ name :=
        fun hr => hno (Layer.mem_loopLabels.2 hr)
      simp [Site.faults, hl, hnot] at hfaults
    have hmem : some name ∈ fin.map Frame.label := hfin ▸ hreach
    obtain ⟨inner, target, ht⟩ := exists_targets hmem
    rw [hl] at h
    refine ⟨name, inner, target, hl, ht, ?_⟩
    have hplain : (!(fin.map Frame.label).contains (some name) || namesHead fin name) = true ↔
        inner = [] := by
      simp [hmem, ht.namesHead]
    dsimp only at h
    split at h
    · exact .inl ⟨hplain.1 ‹_›, h⟩
    · obtain ⟨x, hx, hout⟩ := h
      exact .inr ⟨fun hnil => ‹¬_› (hplain.2 hnil), x, ht.flagOf? k ▸ hx, hout⟩

mutual

/-- Lowering a statement that is no marker lays it out. -/
theorem stmt_laysOut (ctx : LowerContext) (users : List String) (around : List Layer)
    (before after : Option (Stmt Placeholder)) :
    ∀ s : Stmt Placeholder, loopLabel? s = none →
      Builds users ctx.flagPrefix (s.jumps (Layer.labelFrom before))
        (stmt ctx (Layer.labelFrom before) s)
        (LaidOut around (s.sites around before after) fun fin laid out =>
          s.LaysOut fin (Layer.labelFrom before) laid out)
  | .simple _ _, _ => Builds.pure _ fun _ _ _ => ⟨[], rfl, rfl, rfl⟩
  | .hole sp (.jump k l), _ =>
    (builds_jump sp k l).imp fun _ _ _ ⟨hloops, hout⟩ hfin hfaults =>
      ⟨[], hloops.symm, rfl, jumpLaysOut_of_lowersTo hfin
        (hfaults ⟨sp, .jump k l, after, around⟩ (List.mem_singleton_self _)) hout⟩
  | .hole _ (.loopLabel _), h => by simp [loopLabel?] at h
  | .branch sp t b o, _ => by
    refine (block_laysOut ctx users (⟨before, .branch sp t b o, .body⟩ :: around) none b).bind
      fun b' => ?_
    refine (block_laysOut ctx users (⟨before, .branch sp t b o, .orelse⟩ :: around) none o).map
      fun _ _ o' iho _ ihb hfin hfaults => ?_
    obtain ⟨hfb, hfo⟩ := faultless_append.1 hfaults
    obtain ⟨l₁, rfl, hb⟩ := ihb hfin hfb
    obtain ⟨l₂, rfl, ho⟩ := iho hfin hfo
    exact ⟨l₁ ++ l₂, List.map_append, l₁, l₂, b', o', hb, ho, rfl, rfl⟩
  | .loop sp h b o, _ => by
    let flagged (r : List (Stmt Empty) × Frame) : Prop := ∀ k, (r.2.flag k).isSome = true ↔
      ∃ name, Layer.labelFrom before = some name ∧ (k, name) ∈ Stmt.blockCrossings none b
    have hbody := block_laysOut ctx users (⟨before, .loop sp h b o, .body⟩ :: around) none b
    have hin := hbody.insideLoop.and (Q := flagged)
      fun s => (block_marks ctx none b).flag_insideLoop s
    refine hin.bind fun r => ?_
    refine (block_laysOut ctx users (⟨before, .loop sp h b o, .orelse⟩ :: around) none o).map
      fun fin _ o' iho _ ⟨⟨_, hloops, ihb, hok⟩, hflag⟩ hfin hfaults => ?_
    obtain ⟨hfb, hfo⟩ := faultless_append.1 hfaults
    have hin : Around (⟨before, .loop sp h b o, .body⟩ :: around) (r.2 :: fin) :=
      congrArg₂ List.cons hok.label_eq hfin
    obtain ⟨l₁, rfl, hb⟩ := ihb hin hfb
    obtain ⟨l₂, rfl, ho⟩ := iho hfin hfo
    exact ⟨(r.2, b) :: l₁ ++ l₂, by rw [hloops]; simp, r.2, l₁, l₂, r.1, o', hb, ho,
      hok.layout hflag, rfl, assemble_eq sp h r.1 o' r.2⟩
  | .function sp h b, _ =>
    (block_laysOut ctx users (⟨before, .function sp h b, .body⟩ :: around) none b).withFrames.map
      fun _ _ b' hb _ hfaults =>
        let ⟨laid, hlaid, hb⟩ := hb rfl hfaults
        ⟨laid, hlaid, b', hb, rfl⟩
  | .klass sp h b, _ =>
    (block_laysOut ctx users (⟨before, .klass sp h b, .body⟩ :: around) none b).withFrames.map
      fun _ _ b' hb _ hfaults =>
        let ⟨laid, hlaid, hb⟩ := hb rfl hfaults
        ⟨laid, hlaid, b', hb, rfl⟩
  | .withItems sp a is b, _ =>
    (block_laysOut ctx users (⟨before, .withItems sp a is b, .body⟩ :: around) none b).map
      fun _ _ b' hb hfin hfaults =>
        let ⟨laid, hlaid, hb⟩ := hb hfin hfaults
        ⟨laid, hlaid, b', hb, rfl⟩
  | .attempt sp star b hs o f, _ => by
    rw [Stmt.jumps, List.append_assoc, List.append_assoc]
    let s : Stmt Placeholder := .attempt sp star b hs o f
    refine (block_laysOut ctx users (⟨before, s, .body⟩ :: around) none b).bind fun b' => ?_
    refine (handlers_layOut ctx users (⟨before, s, .handler⟩ :: around) hs).bind fun hs' => ?_
    refine (block_laysOut ctx users (⟨before, s, .orelse⟩ :: around) none o).bind fun o' => ?_
    refine (block_laysOut ctx users (⟨before, s, .final⟩ :: around) none f).map
      fun _ _ f' ihf _ iho _ ihh _ ihb hfin hfaults => ?_
    obtain ⟨hfaults, hff⟩ := faultless_append.1 hfaults
    obtain ⟨hfaults, hfo⟩ := faultless_append.1 hfaults
    obtain ⟨hfb, hfh⟩ := faultless_append.1 hfaults
    obtain ⟨l₁, rfl, hb⟩ := ihb hfin hfb
    obtain ⟨l₂, rfl, hh⟩ := ihh hfin hfh
    obtain ⟨l₃, rfl, ho⟩ := iho hfin hfo
    obtain ⟨l₄, rfl, hf⟩ := ihf hfin hff
    exact ⟨l₁ ++ (l₂ ++ (l₃ ++ l₄)), by simp, l₁, l₂, l₃, l₄, b', hs', o', f', hb, hh, ho, hf,
      rfl, rfl⟩
  | .select sp e cs, _ =>
    (cases_layOut ctx users (⟨before, .select sp e cs, .case⟩ :: around) cs).map
      fun _ _ cs' hcs hfin hfaults =>
        let ⟨laid, hlaid, hcs⟩ := hcs hfin hfaults
        ⟨laid, hlaid, cs', hcs, rfl⟩

/-- **Lowering a block lays it out**, if no site in it is at fault. -/
theorem block_laysOut (ctx : LowerContext) (users : List String) (around : List Layer)
    (before : Option (Stmt Placeholder)) :
    ∀ b : List (Stmt Placeholder),
      Builds users ctx.flagPrefix (Stmt.blockJumps (Layer.labelFrom before) b)
        (block ctx (Layer.labelFrom before) b)
        (LaidOut around (Stmt.blockSites around before b) fun fin laid out =>
          Stmt.BlockLaysOut fin (Layer.labelFrom before) laid out b)
  | [] => Builds.pure _ fun _ _ _ => ⟨[], rfl, rfl, rfl⟩
  | s :: rest => by
    have hrest := block_laysOut ctx users around (some s) rest
    unfold block
    split
    · rename_i sp l hs
      obtain rfl : s = .hole sp (.loopLabel l) := by
        unfold loopLabel? at hs
        split at hs <;> simp_all
      refine builds_marker sp l (hrest.imp fun fin loops out hout hfin hfaults => ?_)
      obtain ⟨laid, hlaid, hout⟩ := hout hfin (faultless_append.1 hfaults).2
      exact ⟨laid, hlaid, [], laid, [], out, ⟨rfl, rfl⟩, hout, rfl, rfl⟩
    · rename_i hs
      rw [Stmt.blockJumps]
      have hlabel : Layer.labelFrom (some s) = none := labelFrom_eq_none hs
      refine (stmt_laysOut ctx users around before rest.head? s hs).bind fun first => ?_
      rw [hlabel] at hrest ⊢
      refine hrest.map fun _ _ more ihmore _ ihfirst hfin hfaults => ?_
      obtain ⟨hfs, hfr⟩ := faultless_append.1 hfaults
      obtain ⟨l₁, rfl, hfirst⟩ := ihfirst hfin hfs
      obtain ⟨l₂, rfl, hmore⟩ := ihmore hfin hfr
      exact ⟨l₁ ++ l₂, List.map_append, l₁, l₂, first, more, hfirst, hlabel ▸ hmore, rfl, rfl⟩

theorem handlers_layOut (ctx : LowerContext) (users : List String) (around : List Layer) :
    ∀ hs : List (Handler Placeholder),
      Builds users ctx.flagPrefix (Handler.jumps hs) (handlers ctx hs)
        (LaidOut around (Handler.sites around hs) fun fin laid out =>
          Handler.LayOut fin laid out hs)
  | [] => Builds.pure _ fun _ _ _ => ⟨[], rfl, rfl, rfl⟩
  | .mk _ _ _ b :: hs => by
    refine (block_laysOut ctx users around none b).bind fun b' => ?_
    refine (handlers_layOut ctx users around hs).map fun _ _ hs' ihh _ ihb hfin hfaults => ?_
    obtain ⟨hfb, hfh⟩ := faultless_append.1 hfaults
    obtain ⟨l₁, rfl, hb⟩ := ihb hfin hfb
    obtain ⟨l₂, rfl, hh⟩ := ihh hfin hfh
    exact ⟨l₁ ++ l₂, List.map_append, l₁, l₂, b', hs', hb, hh, rfl, rfl⟩

theorem cases_layOut (ctx : LowerContext) (users : List String) (around : List Layer) :
    ∀ cs : List (Case Placeholder),
      Builds users ctx.flagPrefix (Case.jumps cs) (cases ctx cs)
        (LaidOut around (Case.sites around cs) fun fin laid out => Case.LayOut fin laid out cs)
  | [] => Builds.pure _ fun _ _ _ => ⟨[], rfl, rfl, rfl⟩
  | .mk _ _ b :: cs => by
    refine (block_laysOut ctx users around none b).bind fun b' => ?_
    refine (cases_layOut ctx users around cs).map fun _ _ cs' ihcs _ ihb hfin hfaults => ?_
    obtain ⟨hfb, hfc⟩ := faultless_append.1 hfaults
    obtain ⟨l₁, rfl, hb⟩ := ihb hfin hfb
    obtain ⟨l₂, rfl, hcs⟩ := ihcs hfin hfc
    exact ⟨l₁ ++ l₂, List.map_append, l₁, l₂, b', cs', hb, hcs, rfl, rfl⟩

end

end Lower

end JumpMacros
