import JumpMacros.Proofs.FlagSteps

/-!
# Lowering keeps the meaning of marks

**Theorem (`block_keeps`).** A tree in the tracked reading and what it lowers to in the plain
reading simulate each other: they show the same events and leave the same store, and a flag is
found to be true exactly where a mark is found.

A loop has a mark of its own while it runs. The rounds are related with the mark in front
(`Rounds`), the flag for `continue` is reset before each of them, and what a round ends with is told
apart by whether the loop is the target (`Ended`).
-/

namespace JumpMacros

open Host Run Coupling Lower

namespace FlagMeaning

variable {H : Host} {users : List String} {flagPrefix : String}
variable {L : Link MarkProbe FlagProbe} {fs : List Frame} {js js' : List NamedJump}

/-! ## Loops -/

/-- Before a round: the flag for `break` holds the mark, while the one for `continue` is reset
first. -/
structure AtHead (f : Frame) (m : Mark) (φ : Flags) : Prop where
  label_eq : m.label = f.label
  breaks : ∀ x, f.breakFlag = some x → φ x = some m.breaks
  unmarked : ∀ k, f.flag k = none → m.raised k = false

/-- What the rounds of a loop keep, for marks of the outer loops that have grown from `ms₀`. -/
def Rounds (f : Frame) (fs : List Frame) (ms₀ ms : List Mark) (φ : Flags) : Prop :=
  ∃ m ms', ms = m :: ms' ∧ AtHead f m φ ∧ Matches fs ms' φ ∧ Marks.Grow ms₀ ms'

/-- How the endings of the two loops go together: a jump that leaves the left loop has broken the
right one. -/
inductive Ended (carried : List NamedJump) (ms : List Mark) : H.Signal → H.Signal → Prop
  | normal : Ended carried ms .normal .normal
  | returns (v : H.Value) : Ended carried ms (.returns v) (.returns v)
  | raises (e : H.Error) : Ended carried ms (.raises e) (.raises e)
  | jumps {j : NamedJump} (hj : j ∈ carried) (hr : Mark.isRaised ms.tail j = true) :
    Ended carried ms (.jumps j) .normal

theorem atHead_of_matches {f : Frame} {m : Mark} {φ : Flags} (h : MatchesOne f m φ) :
    AtHead f m φ :=
  ⟨h.label_eq, fun x hx => h.flag .breaks x hx, h.unmarked⟩

/-- What the two loops make of the endings of their bodies. -/
theorem step_of_post {f : Frame} {ms₀ ms ms' : List Mark} {φ : Flags} {m : Mark}
    {sig sig' : H.Signal} {label' : Option String} (hgrow : Marks.Grow ms₀ ms)
    (h : (coupling H (f :: fs) js).Post (m :: ms) sig ms' sig' φ) :
    StepRel (Rounds f fs ms₀)
      (fun sig ms sig' φ => Rounds f fs ms₀ ms φ ∧ Ended (leaving f.label js) ms sig sig')
      (afterRound f.label sig) ms' (afterRound label' sig') φ := by
  obtain ⟨hI, hle, hag⟩ := h
  cases hle with
  | @cons _ m' _ ms' hm hms =>
    cases hI with
    | cons hone hrest =>
      have hround : Rounds f fs ms₀ (m' :: ms') φ :=
        ⟨m', ms', rfl, atHead_of_matches hone, hrest, hgrow.trans hms⟩
      cases hag with
      | normal => exact .again hround
      | continues => exact .again hround
      | breaks => exact .last ⟨hround, .normal⟩
      | returns v => exact .last ⟨hround, .returns v⟩
      | raises e => exact .last ⟨hround, .raises e⟩
      | @jumps j sig' hjump =>
        obtain ⟨hj, hjump⟩ := hjump
        by_cases hl : f.label = some j.2
        · -- The jump goes to this loop.
          have hhead : namesHead (f :: fs) j.2 = true := by simp [namesHead, hl]
          rw [if_pos hhead] at hjump
          subst hjump
          obtain ⟨k, name⟩ := j
          simp only [afterRound, if_pos hl]
          cases k with
          | breaks => exact .last ⟨hround, .normal⟩
          | continues => exact .again hround
        · have hhead : namesHead (f :: fs) j.2 = false := by simp [namesHead, hl]
          rw [hhead] at hjump
          obtain ⟨rfl, hr⟩ := hjump
          obtain ⟨k, name⟩ := j
          simp only [afterRound, if_neg hl]
          refine .last ⟨hround, .jumps (mem_leaving.2 ⟨hj, hl⟩) ?_⟩
          rwa [Mark.isRaised, if_neg (hone.label_eq ▸ hl)] at hr

theorem sim_mayStop {P Q X Y : Type} {L : Link P Q} {p : P} {q : Q} (h : L.same p q)
    {R : Unit → X → Unit → Y → Prop} {x : X} {y : Y} (hR : R () x () y) :
    Sim (H := H) L (mayStop p) (mayStop q) x y R := by
  have := Sim.mayStop (H := H) h (Sim.pure (a := ()) (b := ()) hR)
  rwa [bind_pure, bind_pure] at this

/-- Before a round both sides look at the mark for `break`. -/
theorem sim_round {f : Frame} {m : Mark} {ms : List Mark} {φ : Flags} (sp : Span)
    (hok : FlagsOk (IsFlagFor users flagPrefix) (f :: fs)) (h : AtHead f m φ) :
    Sim (H := H) (link users flagPrefix) (Tracked.round sp f.label) (Plain.round sp f.breakFlag)
      (m :: ms) φ fun _ ms' _ φ' =>
        ∃ m', ms' = m' :: ms ∧ φ' = φ ∧ AtHead f m' φ ∧ m'.continues = false := by
  have hnone (hl : f.label = none) (k : JumpKind) : f.flag k = none := by
    cases hk : f.flag k with
    | none => rfl
    | some x =>
      obtain ⟨name, hname, -⟩ := hok.allowed f List.mem_cons_self k x hk
      cases hl.symm.trans hname
  have hclear : AtHead f { m with continues := false } φ := by
    refine ⟨h.label_eq, h.breaks, fun k hk => ?_⟩
    cases k with
    | breaks => exact h.unmarked .breaks hk
    | continues => rfl
  cases hl : f.label with
  | none =>
    have hb : f.breakFlag = none := hnone hl .breaks
    rw [hb]
    exact Sim.pure ⟨m, rfl, rfl, h, h.unmarked .continues (hnone hl .continues)⟩
  | some name =>
    refine Sim.congr (fun s => adjust_bind _ _ s _) (fun _ => rfl) ?_
    refine Sim.congr (fun s => inspect_bind _ _ s _) (fun _ => rfl) ?_
    have hend : ∃ m', Mark.startRound (m :: ms) = m' :: ms ∧ φ = φ ∧ AtHead f m' φ ∧
        m'.continues = false := ⟨_, rfl, rfl, hclear, rfl⟩
    have hleft : Mark.leftMark (Mark.startRound (m :: ms)) = m.breaks := rfl
    rw [hleft]
    cases hb : f.breakFlag with
    | none =>
      have hm : m.breaks = false := h.unmarked .breaks hb
      rw [hm]
      exact Sim.pure hend
    | some x =>
      refine Sim.congr (fun _ => rfl) (fun s => inspect_bind _ _ s _) ?_
      rw [h.breaks x hb]
      cases hm : m.breaks with
      | false => exact Sim.pure hend
      | true =>
        obtain ⟨name', hname', hx⟩ := hok.allowed f List.mem_cons_self .breaks x hb
        obtain rfl := Option.some.inj (hl.symm.trans hname')
        have hsame :
            (link users flagPrefix).same ⟨sp, (.breaks, name), true, false, false⟩ ⟨sp, x⟩ :=
          ⟨rfl, hx⟩
        exact sim_mayStop hsame hend

theorem toList_flagCandidate (base : String) (i : Nat) :
    ∃ rest, (flagCandidate base i).toList = base.toList ++ rest := by
  cases i with
  | zero => exact ⟨[], (List.append_nil _).symm⟩
  | succ i => exact ⟨_, by simp only [flagCandidate, String.toList_append, List.append_assoc]; rfl⟩

theorem isBreakFlag_breaks {name x : String} (h : IsFlagName flagPrefix .breaks name x) :
    Plain.isBreakFlag flagPrefix x = true := by
  obtain ⟨i, rfl⟩ := h
  obtain ⟨rest, hrest⟩ := toList_flagCandidate (flagBase flagPrefix "break" name) i
  rw [Plain.isBreakFlag, List.isPrefixOf_iff_prefix]
  refine ⟨name.toList ++ rest, ?_⟩
  refine Eq.trans ?_ hrest.symm
  simp only [flagBase, String.toList_append, List.append_assoc]
  rfl

theorem isBreakFlag_continues {name x : String} (h : IsFlagName flagPrefix .continues name x) :
    Plain.isBreakFlag flagPrefix x = false := by
  obtain ⟨i, rfl⟩ := h
  obtain ⟨rest, hrest⟩ := toList_flagCandidate (flagBase flagPrefix "continue" name) i
  rw [Bool.eq_false_iff, Plain.isBreakFlag, Ne, List.isPrefixOf_iff_prefix]
  rintro ⟨t, ht⟩
  have heq := ht.trans hrest
  simp only [flagBase, String.toList_append, List.append_assoc] at heq
  have := List.append_cancel_left heq
  cases this

/-- A body with the reset of the flag for `continue` that comes first in it. -/
def withReset (sp : Span) (f : Frame) (b : List (Stmt Empty)) : List (Stmt Empty) :=
  match f.continueFlag with
  | some x => setFlag sp x false :: b
  | none => b

/-- After the reset of the flag for `continue`, all flags of the loop hold its marks. -/
theorem sim_body {f : Frame} {m : Mark} {ms : List Mark} {φ : Flags} {sp : Span}
    {body : H.Exec (List Mark) MarkProbe H.Signal} {b' : List (Stmt Empty)}
    (hok : FlagsOk (IsFlagFor users flagPrefix) (f :: fs))
    (hb : (coupling H (f :: fs) js).Keeps L body ((plain H users flagPrefix).block () none b'))
    (h : AtHead f m φ) (hc : m.continues = false) (hms : Matches fs ms φ) :
    Sim L body ((plain H users flagPrefix).block () none (withReset sp f b')) (m :: ms) φ
      ((coupling H (f :: fs) js).Post (m :: ms)) := by
  unfold withReset
  cases hf : f.continueFlag with
  | none =>
    refine hb _ _ (.cons ⟨h.label_eq, fun k x hx => ?_, h.unmarked⟩ hms)
    cases k with
    | breaks => exact h.breaks x hx
    | continues => cases hf.symm.trans hx
  | some x =>
    obtain ⟨name, -, hx⟩ := hok.allowed f List.mem_cons_self .continues x hf
    obtain ⟨hone, -, hdisj⟩ := flagsOk_cons.1 hok
    have hnodup : f.flags.Nodup := by simpa [flagsOf] using hone.nodup
    have hmem : x ∈ f.flags := Frame.mem_flags.2 ⟨.continues, hf⟩
    have hlabel : Plain.label users flagPrefix (setFlag sp x false) = none := by
      simp [Plain.label, setFlag, flagWrite?_setFlag hx.1, isBreakFlag_continues hx.2]
    refine Sim.congr (fun _ => rfl) (fun s => andNext_setFlag hx.1 sp false none _ s φ) ?_
    show Sim L body ((plain H users flagPrefix).block () (Plain.label users flagPrefix
      (setFlag sp x false)) b') _ _ _
    rw [hlabel]
    refine hb _ _ (.cons ⟨h.label_eq, fun k y hy => ?_, h.unmarked⟩ (hms.update (hdisj x hmem) _))
    by_cases hy' : y = x
    · subst hy'
      obtain rfl := Frame.flag_injective (k := .continues) hnodup hf hy
      rw [Function.update_self]
      exact congrArg some hc.symm
    · rw [Function.update_of_ne hy']
      cases k with
      | breaks => exact h.breaks y hy
      | continues => exact absurd (Option.some.inj (hy.symm.trans hf)) hy'

/-- The flags after the reset of the flag for `break` before a loop. -/
def resetBreak (f : Frame) (φ : Flags) : Flags :=
  match f.breakFlag with
  | some x => Function.update φ x (some false)
  | none => φ

/-- A lowered loop: its flag for `break` is reset, and the checks follow it. -/
theorem block_assemble {f : Frame} (hok : FlagsOk (IsFlagFor users flagPrefix) (f :: fs))
    (sp : Span) (h : LoopHead) (b o : List (Stmt Empty)) (s : H.Store) (φ : Flags) :
    (plain H users flagPrefix).block () none (assemble sp h b o f) (s, φ) =
      andNext ((plain H users flagPrefix).stmt () f.breakFlag (.loop sp h (withReset sp f b) o))
        ((plain H users flagPrefix).block () none (f.exits.map (check sp)))
        (s, resetBreak f φ) := by
  unfold assemble resetBreak
  cases hf : f.breakFlag with
  | none => rfl
  | some x =>
    obtain ⟨name, -, hx⟩ := hok.allowed f List.mem_cons_self .breaks x hf
    have hlabel : Plain.label users flagPrefix (setFlag sp x false) = some x := by
      simp [Plain.label, setFlag, flagWrite?_setFlag hx.1, isBreakFlag_breaks hx.2]
    refine (andNext_setFlag hx.1 sp false none _ s φ).trans ?_
    show andNext ((plain H users flagPrefix).stmt () (Plain.label users flagPrefix
      (setFlag sp x false)) _) _ _ = _
    rw [hlabel]
    rfl

theorem atHead_reset {f : Frame} (φ : Flags) :
    AtHead f (Mark.ofLabel f.label) (resetBreak f φ) := by
  refine ⟨rfl, fun x hx => ?_, fun k _ => by cases k <;> rfl⟩
  rw [resetBreak, hx]
  exact Function.update_self _ _ _

theorem matches_reset {f : Frame} (hok : FlagsOk (IsFlagFor users flagPrefix) (f :: fs))
    {ms : List Mark} {φ : Flags} (h : Matches fs ms φ) : Matches fs ms (resetBreak f φ) := by
  unfold resetBreak
  cases hf : f.breakFlag with
  | none => exact h
  | some x =>
    exact h.update ((flagsOk_cons.1 hok).2.2 x (Frame.mem_flags.2 ⟨.breaks, hf⟩)) _

/-- After a loop that has not left by `return` or an error come its checks. -/
theorem sim_afterLoop {label : Option String} {pending : List NamedJump} {sp : Span} {f : Frame}
    {ms ms' : List Mark} {φ : Flags} {sig sig' : H.Signal}
    (hframe : FrameOk (IsFlagFor users flagPrefix) js' label f fs) (hsub : leaving label js' ⊆ js)
    (hround : Rounds f fs ms ms' φ) (hend : Ended (leaving label js') ms' sig sig') :
    Sim (link users flagPrefix) (Tracked.afterLoop pending sp (leaving label js') sig)
      (andNext (pure sig') ((plain H users flagPrefix).block () none (f.exits.map (check sp))))
      ms'.tail φ ((coupling H fs js).Post ms) := by
  obtain ⟨m, ms', rfl, -, hI, hgrow⟩ := hround
  have hfs := (flagsOk_cons.1 hframe.flags).2.1
  refine Sim.imp (R := (coupling H fs js).Post ms') ?_ fun _ _ _ _ => Post.trans hgrow
  rw [hframe.exits]
  cases hend with
  | normal =>
    rw [andNext_pure_normal]
    exact sim_checks hfs hI hsub (.inl rfl)
  | jumps hj hr =>
    rw [andNext_pure_normal]
    exact sim_checks hfs hI hsub (.inr ⟨_, hj, rfl, hr⟩)
  | returns v =>
    refine Sim.congr (fun _ => rfl) (fun s => congrFun (pure_bind (Signal.returns v) _) (s, φ)) ?_
    exact sim_pure hI (.returns v)
  | raises e =>
    refine Sim.congr (fun _ => rfl) (fun s => congrFun (pure_bind (Signal.raises e) _) (s, φ)) ?_
    exact sim_pure hI (.raises e)

/-- **A loop keeps the meaning of marks** if its body and its `else` part do. -/
theorem keeps_loop {label : Option String} {pending : List NamedJump} {sp : Span} {h : LoopHead}
    {b o : List (Stmt Placeholder)} {b' o' : List (Stmt Empty)} {f : Frame}
    (hframe : FrameOk (IsFlagFor users flagPrefix) (Stmt.blockJumps none b) label f fs)
    (hsub : leaving label (Stmt.blockJumps none b) ⊆ js)
    (hb : (coupling H (f :: fs) (Stmt.blockJumps none b)).Keeps (link users flagPrefix)
      ((tracked H).block (leaving label pending) none b)
      ((plain H users flagPrefix).block () none b'))
    (ho : (coupling H fs js).Keeps (link users flagPrefix) ((tracked H).block pending none o)
      ((plain H users flagPrefix).block () none o')) :
    (coupling H fs js).Keeps (link users flagPrefix)
      ((tracked H).stmt pending label (.loop sp h b o))
      ((plain H users flagPrefix).block () none (assemble sp h b' o' f)) := by
  intro ms φ hI
  have hok := hframe.flags
  have hI' := matches_reset hok hI
  obtain rfl := hframe.label_eq
  refine Sim.congr (fun _ => rfl) (fun s => block_assemble hok sp h b' o' s φ) ?_
  show Sim _ _ (andNext (orRaise _ _) _) _ _ _
  rw [andNext_orRaise]
  refine sim_orRaise_act hI' fun c => ?_
  simp only [andNext_bind]
  refine Sim.congr (fun s => adjust_bind _ _ s ms) (fun s => adjust_bind _ _ s _) ?_
  have hstart : Rounds f fs ms (Mark.ofLabel f.label :: ms) (resetBreak f φ) :=
    ⟨_, ms, rfl, atHead_reset φ, hI', Marks.Grow.refl ms⟩
  refine (sim_rounds (I := Rounds f fs ms)
    (E := fun sig ms' sig' φ' => Rounds f fs ms ms' φ' ∧
      Ended (leaving f.label (Stmt.blockJumps none b)) ms' sig sig')
    (fun _ _ e hround => ⟨hround, .raises e⟩) ?_ hstart).bind fun ending ms' ending' φ' hend => ?_
  · rintro _ φ' ⟨m, ms', rfl, hhead, hms, hgrow⟩
    refine (sim_round sp hok hhead).bind ?_
    rintro _ _ _ _ ⟨m', rfl, rfl, hhead', hc⟩
    exact (sim_body hok hb hhead' hc hms).imp fun _ _ _ _ => step_of_post hgrow
  · refine Sim.congr (fun s => adjust_bind _ _ s ms') (fun s => adjust_bind _ _ s φ') ?_
    cases hend with
    | last hE => exact sim_afterLoop hframe hsub hE.1 hE.2
    | again hround =>
      show Sim _ (andNext _ _) (andNext (andNext _ (pure .normal)) _) _ _ _
      rw [andNext_normal]
      obtain ⟨m, ms', rfl, -, hms, hgrow⟩ := hround
      refine Sim.imp (R := (coupling H fs js).Post ms') ?_ fun _ _ _ _ => Post.trans hgrow
      refine ho.andNext (fun ms φ hI => ?_) ms' φ' hms
      rw [hframe.exits]
      exact sim_checks (flagsOk_cons.1 hok).2.1 hI hsub (.inl rfl)

/-! ## Names of the user are no flags -/

theorem flagWrite?_user {sp : Span} {s : Simple}
    (h : Node.NamedIn users [(Node.stmt (.simple sp s) : Node Placeholder)]) :
    Plain.flagWrite? users s = none := by
  unfold Plain.flagWrite?
  split
  · rename_i x _ _ v
    have hx : x ∈ users :=
      (Node.every_cons.1 (Node.every_singleton.1 h).2).1 x (by simp [Node.ownNames])
    simp [hx]
  · rfl

theorem flagRead?_user {e : Expr} {ns : List (Node Placeholder)}
    (h : Node.NamedIn users (.expr e :: ns)) :
    Plain.flagRead? users e = none := by
  unfold Plain.flagRead?
  split
  · rename_i x _
    have hx : x ∈ users := (Node.every_cons.1 h).1 x (by simp [Node.ownNames])
    simp [hx]
  · rfl

/-- What stands for a statement does not end with the reset of a flag. -/
theorem lastLabel_lowersTo {label : Option String} {s : Stmt Placeholder}
    {out : List (Stmt Empty)} (hname : Node.NamedIn users [.stmt s])
    (h : s.LowersTo (IsFlagFor users flagPrefix) fs label out) :
    lastLabel users flagPrefix none out = none := by
  have checks (sp : Span) (es : List Exit) :
      lastLabel users flagPrefix none (es.map (check sp)) = none := by
    induction es with
    | nil => rfl
    | cons e es ih => exact ih
  cases s with
  | simple sp s =>
    obtain rfl := h
    simp [lastLabel, Plain.label, flagWrite?_user hname]
  | hole sp hole =>
    cases hole with
    | loopLabel l =>
      obtain rfl := h
      rfl
    | jump k l =>
      have h : JumpLowersTo fs sp k l out := h
      unfold JumpLowersTo at h
      split at h
      · subst h
        cases k <;> rfl
      · split at h
        · subst h
          cases k <;> rfl
        · obtain ⟨x, -, rfl⟩ := h
          rfl
  | branch sp t b o => obtain ⟨_, _, -, -, rfl⟩ := h; rfl
  | loop sp hd b o =>
    obtain ⟨f, b', o', -, -, -, rfl⟩ := h
    unfold assemble
    cases f.breakFlag with
    | none => exact checks sp f.exits
    | some x => exact checks sp f.exits
  | function sp hd b => obtain ⟨_, -, rfl⟩ := h; rfl
  | klass sp hd b => obtain ⟨_, -, rfl⟩ := h; rfl
  | withItems sp a is b => obtain ⟨_, -, rfl⟩ := h; rfl
  | attempt sp star b hs o f => obtain ⟨_, _, _, _, -, -, -, -, rfl⟩ := h; rfl
  | select sp e cs => obtain ⟨_, -, rfl⟩ := h; rfl

/-- A statement that is lowered to one statement. -/
theorem keeps_single {m : H.Exec (List Mark) MarkProbe H.Signal} {s : Stmt Empty}
    (h : (coupling H fs js).Keeps L m ((plain H users flagPrefix).stmt () none s)) :
    (coupling H fs js).Keeps L m ((plain H users flagPrefix).block () none [s]) := by
  show (coupling H fs js).Keeps L m (andNext ((plain H users flagPrefix).stmt () none s)
    (pure .normal))
  rwa [andNext_normal]

/-! ## The traversal -/

section

variable (H : Host) (users : List String) (flagPrefix : String)

mutual

/-- A statement means the same before and after it is lowered. -/
theorem stmt_keeps (around : List Layer) (before after : Option (Stmt Placeholder))
    (fs : List Frame) (pending : List NamedJump)
    (hfs : fs.map Frame.label = Layer.loopLabels around)
    (hok : FlagsOk (IsFlagFor users flagPrefix) fs) :
    ∀ (s : Stmt Placeholder) (out : List (Stmt Empty)), Node.NamedIn users [.stmt s] →
      (∀ site ∈ s.sites around before after, site.faults = []) →
      s.LowersTo (IsFlagFor users flagPrefix) fs (Layer.labelFrom before) out →
      (coupling H fs (s.jumps (Layer.labelFrom before))).Keeps (link users flagPrefix)
        ((tracked H).stmt pending (Layer.labelFrom before) s)
        ((plain H users flagPrefix).block () none out)
  | .simple sp s, out, hname, _, hlow => by
    obtain rfl := hlow
    refine keeps_single ?_
    show (coupling H fs []).Keeps _ (Host.simple s) (Plain.simple users s)
    simp only [Plain.simple, flagWrite?_user hname]
    exact keeps_simple s
  | .hole sp (.jump k l), out, _, hsite, hlow => by
    have hfault := hsite _ List.mem_cons_self
    simp only [Site.faults] at hfault
    cases hl : labelOf? l with
    | none => simp [hl] at hfault
    | some name =>
      simp only [hl] at hfault
      have hreach : Site.Reaches ⟨sp, .jump k l, after, around⟩ name := by
        by_contra hno
        simp [hno] at hfault
      have hmem : some name ∈ fs.map Frame.label := by
        rw [hfs]
        exact Layer.mem_loopLabels.2 hreach
      exact keeps_jump hok hl hmem hlow (by simp [Stmt.jumps, hl])
  | .hole sp (.loopLabel l), out, _, _, hlow => by
    obtain rfl := hlow
    exact keeps_pure fun _ => .normal
  | .branch sp t b o, out, hname, hsite, hlow => by
    obtain ⟨b', o', hb, ho, rfl⟩ := hlow
    obtain ⟨htb, hno⟩ := Node.every_append.1 (Node.every_singleton.1 hname).2
    obtain ⟨-, -, hnb⟩ := Node.every_cons.1 htb
    simp only [Stmt.sites, List.mem_append] at hsite
    have hb' := block_keeps (⟨before, .branch sp t b o, .body⟩ :: around) none fs pending hfs hok
      b b' hnb (fun site hm => hsite site (.inl hm)) hb
    have ho' := block_keeps (⟨before, .branch sp t b o, .orelse⟩ :: around) none fs pending hfs hok
      o o' hno (fun site hm => hsite site (.inr hm)) ho
    refine keeps_single ?_
    show Keeps _ _ _ (choose (Plain.test users sp t) _ _)
    simp only [Plain.test, flagRead?_user htb]
    exact (keeps_subset (List.subset_append_left _ _) hb').choose
      (keeps_subset (List.subset_append_right _ _) ho')
  | .loop sp h b o, out, hname, hsite, hlow => by
    obtain ⟨f, b', o', hb, ho, hframe, rfl⟩ := hlow
    obtain ⟨hhb, hno⟩ := Node.every_append.1 (Node.every_singleton.1 hname).2
    obtain ⟨-, hnb⟩ := Node.every_append.1 hhb
    simp only [Stmt.sites, List.mem_append] at hsite
    have hfs' : (f :: fs).map Frame.label =
        Layer.loopLabels (⟨before, .loop sp h b o, .body⟩ :: around) := by
      rw [List.map_cons, hframe.label_eq, hfs]
      rfl
    have hb' := block_keeps (⟨before, .loop sp h b o, .body⟩ :: around) none (f :: fs)
      (leaving (Layer.labelFrom before) pending) hfs' hframe.flags b b' hnb
      (fun site hm => hsite site (.inl hm)) hb
    have ho' := block_keeps (⟨before, .loop sp h b o, .orelse⟩ :: around) none fs pending hfs hok
      o o' hno (fun site hm => hsite site (.inr hm)) ho
    exact keeps_loop hframe (List.subset_append_left _ _) hb'
      (keeps_subset (List.subset_append_right _ _) ho')
  | .function sp h b, out, hname, hsite, hlow => by
    obtain ⟨b', hb, rfl⟩ := hlow
    obtain ⟨-, hnb⟩ := Node.every_append.1 (Node.every_singleton.1 hname).2
    have hb' := block_keeps (⟨before, .function sp h b, .body⟩ :: around) none [] [] rfl (.nil _)
      b b' hnb hsite hb
    refine keeps_single (Keeps.defining h ?_)
    exact (hb' [] (fun _ => none) .nil).imp fun _ _ _ _ => closed_of_post
  | .klass sp h b, out, hname, hsite, hlow => by
    obtain ⟨b', hb, rfl⟩ := hlow
    obtain ⟨-, hnb⟩ := Node.every_append.1 (Node.every_singleton.1 hname).2
    have hb' := block_keeps (⟨before, .klass sp h b, .body⟩ :: around) none [] [] rfl (.nil _)
      b b' hnb hsite hb
    refine keeps_single (Keeps.inClass h ?_)
    exact (hb' [] (fun _ => none) .nil).imp fun _ _ _ _ => closed_of_post
  | .withItems sp a is b, out, hname, hsite, hlow => by
    obtain ⟨b', hb, rfl⟩ := hlow
    obtain ⟨-, hnb⟩ := Node.every_append.1 (Node.every_singleton.1 hname).2
    have hb' := block_keeps (⟨before, .withItems sp a is b, .body⟩ :: around) none fs pending hfs
      hok b b' hnb hsite hb
    exact keeps_single (hb'.underManagers a is)
  | .attempt sp star b hs o f, out, hname, hsite, hlow => by
    obtain ⟨b', hs', o', f', hb, hh, ho, hf, rfl⟩ := hlow
    obtain ⟨hbho, hnf⟩ := Node.every_append.1 (Node.every_singleton.1 hname).2
    obtain ⟨hbh, hno⟩ := Node.every_append.1 hbho
    obtain ⟨hnb, hnh⟩ := Node.every_append.1 hbh
    simp only [Stmt.sites, List.mem_append] at hsite
    have hb' := block_keeps (⟨before, .attempt sp star b hs o f, .body⟩ :: around) none fs pending
      hfs hok b b' hnb (fun site hm => hsite site (.inl (.inl (.inl hm)))) hb
    have hh' := handlers_keep (⟨before, .attempt sp star b hs o f, .handler⟩ :: around) fs pending
      hfs hok hs hs' hnh (fun site hm => hsite site (.inl (.inl (.inr hm)))) hh
    have ho' := block_keeps (⟨before, .attempt sp star b hs o f, .orelse⟩ :: around) none fs
      pending hfs hok o o' hno (fun site hm => hsite site (.inl (.inr hm))) ho
    have hf' (pending) := block_keeps (⟨before, .attempt sp star b hs o f, .final⟩ :: around) none
      fs pending hfs hok f f' hnf (fun site hm => hsite site (.inr hm)) hf
    have hbho : Stmt.blockJumps none b ++ Handler.jumps hs ++ Stmt.blockJumps none o ⊆
        Stmt.jumps (Layer.labelFrom before) (.attempt sp star b hs o f) :=
      List.subset_append_left _ _
    have hbh := List.Subset.trans (List.subset_append_left _ (Stmt.blockJumps none o)) hbho
    refine keeps_single (Keeps.withFinal (Keeps.withHandlers star ?_ (hh'.imp ?_) ?_) ?_)
    · exact keeps_subset (List.Subset.trans (List.subset_append_left _ _) hbh) hb'
    · intro c c' hc
      have hsub := List.Subset.trans (List.subset_append_right _ _) hbh
      exact ⟨hc.type, hc.name, keeps_subset hsub hc.run⟩
    · exact keeps_subset (List.Subset.trans (List.subset_append_right _ _) hbho) ho'
    · exact fun _ _ _ _ => keeps_subset (List.subset_append_right _ _) (hf' _)
  | .select sp e cs, out, hname, hsite, hlow => by
    obtain ⟨cs', hc, rfl⟩ := hlow
    obtain ⟨-, -, hnc⟩ := Node.every_cons.1 (Node.every_singleton.1 hname).2
    have hc' := cases_keep (⟨before, .select sp e cs, .case⟩ :: around) fs pending hfs hok cs cs'
      hnc hsite hc
    exact keeps_single (Keeps.orRaise_act fun v => Keeps.select v hc')

/-- **A block means the same before and after it is lowered.** -/
theorem block_keeps (around : List Layer) (before : Option (Stmt Placeholder)) (fs : List Frame)
    (pending : List NamedJump) (hfs : fs.map Frame.label = Layer.loopLabels around)
    (hok : FlagsOk (IsFlagFor users flagPrefix) fs) :
    ∀ (b : List (Stmt Placeholder)) (out : List (Stmt Empty)),
      Node.NamedIn users (Node.ofStmts b) →
      (∀ site ∈ Stmt.blockSites around before b, site.faults = []) →
      Stmt.BlockLowersTo (IsFlagFor users flagPrefix) fs (Layer.labelFrom before) out b →
      (coupling H fs (Stmt.blockJumps (Layer.labelFrom before) b)).Keeps (link users flagPrefix)
        ((tracked H).block pending (Layer.labelFrom before) b)
        ((plain H users flagPrefix).block () none out)
  | [], out, _, _, hlow => by
    obtain rfl := hlow
    exact keeps_pure fun _ => .normal
  | s :: rest, out, hname, hsite, hlow => by
    obtain ⟨first, more, hfirst, hmore, rfl⟩ := hlow
    obtain ⟨hs, hrest⟩ := Node.every_ofStmts_cons.1 hname
    simp only [Stmt.blockSites, List.mem_append] at hsite
    have hs' := stmt_keeps around before rest.head? fs pending hfs hok s first hs
      (fun site hm => hsite site (.inl hm)) hfirst
    have hrest' := block_keeps around (some s) fs pending hfs hok rest more hrest
      (fun site hm => hsite site (.inr hm)) hmore
    rw [block_append, lastLabel_lowersTo hs hfirst]
    exact (keeps_subset (List.subset_append_left _ _) hs').andNext
      (keeps_subset (List.subset_append_right _ _) hrest')

theorem handlers_keep (around : List Layer) (fs : List Frame) (pending : List NamedJump)
    (hfs : fs.map Frame.label = Layer.loopLabels around)
    (hok : FlagsOk (IsFlagFor users flagPrefix) fs) :
    ∀ (hs : List (Handler Placeholder)) (out : List (Handler Empty)),
      Node.NamedIn users (hs.map .handler) →
      (∀ site ∈ Handler.sites around hs, site.faults = []) →
      Handler.LowerTo (IsFlagFor users flagPrefix) fs out hs →
      List.Forall₂ (CatchRel (coupling H fs (Handler.jumps hs)) (link users flagPrefix))
        ((tracked H).handlers pending hs) ((plain H users flagPrefix).handlers () out)
  | [], out, _, _, hlow => by
    obtain rfl := hlow
    exact .nil
  | .mk p t n b :: hs, out, hname, hsite, hlow => by
    obtain ⟨b', hs', hb, hh, rfl⟩ := hlow
    obtain ⟨-, hnb, hnh⟩ := Node.every_cons.1 hname
    simp only [Handler.sites, List.mem_append] at hsite
    have hb' := block_keeps around none fs pending hfs hok b b' (Node.every_append.1 hnb).2
      (fun site hm => hsite site (.inl hm)) hb
    have hh' := handlers_keep around fs pending hfs hok hs hs' hnh
      (fun site hm => hsite site (.inr hm)) hh
    refine .cons ⟨rfl, rfl, keeps_subset (List.subset_append_left _ _) hb'⟩ (hh'.imp ?_)
    exact fun c c' hc => ⟨hc.type, hc.name, keeps_subset (List.subset_append_right _ _) hc.run⟩

theorem cases_keep (around : List Layer) (fs : List Frame) (pending : List NamedJump)
    (hfs : fs.map Frame.label = Layer.loopLabels around)
    (hok : FlagsOk (IsFlagFor users flagPrefix) fs) :
    ∀ (cs : List (Case Placeholder)) (out : List (Case Empty)),
      Node.NamedIn users (cs.map .case) →
      (∀ site ∈ Case.sites around cs, site.faults = []) →
      Case.LowerTo (IsFlagFor users flagPrefix) fs out cs →
      List.Forall₂ (ChoiceRel (coupling H fs (Case.jumps cs)) (link users flagPrefix))
        ((tracked H).cases pending cs) ((plain H users flagPrefix).cases () out)
  | [], out, _, _, hlow => by
    obtain rfl := hlow
    exact .nil
  | .mk p g b :: cs, out, hname, hsite, hlow => by
    obtain ⟨b', cs', hb, hc, rfl⟩ := hlow
    obtain ⟨-, hnb, hnc⟩ := Node.every_cons.1 hname
    simp only [Case.sites, List.mem_append] at hsite
    have hb' := block_keeps around none fs pending hfs hok b b' (Node.every_append.1 hnb).2
      (fun site hm => hsite site (.inl hm)) hb
    have hc' := cases_keep around fs pending hfs hok cs cs' hnc
      (fun site hm => hsite site (.inr hm)) hc
    refine .cons ⟨rfl, rfl, keeps_subset (List.subset_append_left _ _) hb'⟩ (hc'.imp ?_)
    exact fun c c' hc =>
      ⟨hc.pattern, hc.guard, keeps_subset (List.subset_append_right _ _) hc.run⟩

end

end

end FlagMeaning

end JumpMacros
