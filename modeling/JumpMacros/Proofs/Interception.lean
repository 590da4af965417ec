import JumpMacros.Proofs.CalmRuns

/-!
# Jumps that nothing overrides

A jump can be overridden on its way by the last part of a `try` statement and by a context manager
that fails when it is left. `Stmt.jumpsPass` says that no jump to a name has to pass such a place.

**Theorem (`block_calm`).** If all jumps pass, the tracked reading finds a mark only where its jump
arrives. The proof follows a block with the marks it is started with: they are all clear, and stay
as they are unless the block ends with a jump, when one mark may be raised for that jump alone.
-/

namespace JumpMacros

open Host Run

mutual

/-- Whether no jump to a name has to pass a place where it can be overridden. -/
def Stmt.jumpsPass : Stmt Placeholder → Bool
  | .simple _ _ | .hole _ _ => true
  | .branch _ _ b o => Stmt.allJumpsPass b && Stmt.allJumpsPass o
  | .loop _ _ b o => Stmt.allJumpsPass b && Stmt.allJumpsPass o
  | .function _ _ b => Stmt.allJumpsPass b
  | .klass _ _ b => Stmt.allJumpsPass b && (Stmt.blockJumps none b).isEmpty
  | .withItems _ _ _ b => Stmt.allJumpsPass b && (Stmt.blockJumps none b).isEmpty
  | .attempt _ _ b hs o f =>
    Stmt.allJumpsPass b && Handler.jumpsPass hs && Stmt.allJumpsPass o && Stmt.allJumpsPass f &&
      (f.isEmpty ||
        (Stmt.blockJumps none b ++ Handler.jumps hs ++ Stmt.blockJumps none o).isEmpty)
  | .select _ _ cs => Case.jumpsPass cs

def Stmt.allJumpsPass : List (Stmt Placeholder) → Bool
  | [] => true
  | s :: rest => s.jumpsPass && Stmt.allJumpsPass rest

def Handler.jumpsPass : List (Handler Placeholder) → Bool
  | [] => true
  | .mk _ _ _ b :: hs => Stmt.allJumpsPass b && Handler.jumpsPass hs

def Case.jumpsPass : List (Case Placeholder) → Bool
  | [] => true
  | .mk _ _ b :: cs => Stmt.allJumpsPass b && Case.jumpsPass cs

end

namespace Interception

variable {H : Host} {α β : Type} {ms : List Mark} {js js' : List NamedJump}

/-! ## Loops -/

/-- The checks after a loop find the mark of the jump that has left it, and no other. -/
theorem check_calm (hms : Mark.Clear ms) (pending : List NamedJump) (sp : Span)
    (carried : List NamedJump) {sig : H.Signal} {ms' : List Mark} (hs : Settled ms js sig ms')
    (hsig : sig = .normal ∨ ∃ j, sig = .jumps j) :
    Ensures (Tracked.check pending sp carried sig) ms' (Settled ms js) := by
  refine Ensures.bind (Ensures.inspect _) ?_
  rintro _ ms' ⟨rfl, rfl⟩
  cases hfound : carried.find? (Mark.isRaised ms') with
  | none => exact Ensures.pure hs
  | some j =>
    have hr : Mark.isRaised ms' j = true := List.find?_some hfound
    have clear : ms' ≠ ms := by
      rintro rfl
      cases (hms.isRaised j).symm.trans hr
    rcases hsig with rfl | ⟨j', rfl⟩
    · cases hs
      exact absurd rfl clear
    · cases hs with
      | jumps hj hms' =>
        obtain rfl := hms'.resolve_left clear
        obtain rfl := hms.eq_of_isRaised hr
        have hstop : Ensures (mayStop ⟨sp, j, false, Signal.isJump j (.jumps j : H.Signal),
            pending.contains j⟩ : H.Exec (List Mark) MarkProbe Unit) (Mark.raiseIn j ms)
            fun _ ms'' => ms'' = Mark.raiseIn j ms := by
          constructor
          · rintro s es a t ms'' ⟨-, h | h⟩ <;> cases h
            rfl
          · rintro s es p ⟨-, h | h⟩ <;> cases h
            simp [Signal.isJump]
        refine Ensures.bind hstop ?_
        rintro _ _ rfl
        exact Ensures.pure (.jumps hj (.inr rfl))

theorem afterLoop_calm (hms : Mark.Clear ms) (pending : List NamedJump) (sp : Span)
    (carried : List NamedJump) {sig : H.Signal} {ms' : List Mark} (hs : Settled ms js sig ms') :
    Ensures (Tracked.afterLoop pending sp carried sig) ms' (Settled ms js) := by
  cases sig with
  | normal => exact check_calm hms pending sp carried hs (.inl rfl)
  | jumps j => exact check_calm hms pending sp carried hs (.inr ⟨j, rfl⟩)
  | _ => exact Ensures.pure hs

/-- The mark of a loop before a round: a jump may have continued the loop. -/
def BetweenRounds (label : Option String) (ms : List Mark) : List Mark → Prop
  | [] => False
  | m :: rest => m.label = label ∧ m.breaks = false ∧ (label = none → m.continues = false) ∧
    rest = ms

/-- The marks at the end of a loop, before those of the loop itself are dropped. -/
def LoopSettled (label : Option String) (ms : List Mark) (js : List NamedJump) :
    Option H.Signal → List Mark → Prop
  | none, ms' => ms'.tail = ms
  | some sig, ms' => Settled ms (leaving label js) sig ms'.tail

/-- A round starts with clear marks, and without a probe. -/
theorem round_calm (sp : Span) {label : Option String} {ms' : List Mark}
    (h : BetweenRounds label ms ms') :
    Ensures (Tracked.round sp label : H.Exec (List Mark) MarkProbe Unit) ms'
      fun _ ms'' => ms'' = Mark.ofLabel label :: ms := by
  match ms', h with
  | ⟨l, b, c⟩ :: rest, ⟨hl, hb, hc, hrest⟩ =>
    obtain rfl : b = false := hb
    obtain rfl : l = label := hl
    obtain rfl : rest = ms := hrest
    cases l with
    | none =>
      obtain rfl : c = false := hc rfl
      exact Ensures.pure rfl
    | some name =>
      refine Ensures.bind (Ensures.adjust _) ?_
      rintro _ _ rfl
      refine Ensures.bind (Ensures.inspect _) ?_
      rintro _ _ ⟨rfl, rfl⟩
      exact Ensures.pure rfl

/-- What a loop makes of the ending of its body. -/
theorem afterRound_calm {label : Option String} {sig : H.Signal} {ms' : List Mark}
    (hs : Settled (Mark.ofLabel label :: ms) js sig ms') :
    match afterRound label sig with
    | none => BetweenRounds label ms ms'
    | some ending => LoopSettled label ms js (some ending) ms' := by
  have hhead : BetweenRounds label ms (Mark.ofLabel label :: ms) := ⟨rfl, rfl, fun _ => rfl, rfl⟩
  cases hs with
  | normal => exact hhead
  | continues => exact hhead
  | breaks => exact .normal
  | returns v => exact .returns v
  | raises e => exact .raises e
  | @jumps j _ hj hms =>
    obtain ⟨k, name⟩ := j
    by_cases hl : label = some name
    · -- The jump has arrived, with its mark if it comes from an inner loop.
      subst hl
      have hmark : ms' = Mark.ofLabel (some name) :: ms ∨
          ms' = (Mark.ofLabel (some name)).raise k :: ms := by
        simpa [Mark.raiseIn, Mark.ofLabel] using hms
      cases k with
      | breaks =>
        simp only [afterRound, if_true]
        rcases hmark with rfl | rfl <;> exact .normal
      | continues =>
        simp only [afterRound, if_true]
        rcases hmark with rfl | rfl
        · exact hhead
        · exact ⟨rfl, rfl, fun h => absurd h (Option.some_ne_none _), rfl⟩
    · simp only [afterRound, if_neg hl]
      refine .jumps (mem_leaving.2 ⟨hj, hl⟩) ?_
      have hraise : Mark.raiseIn (k, name) (Mark.ofLabel label :: ms) =
          Mark.ofLabel label :: Mark.raiseIn (k, name) ms := if_neg hl
      rw [hraise] at hms
      rcases hms with rfl | rfl
      · exact .inl rfl
      · exact .inr rfl

theorem rounds_calm (sp : Span) {label : Option String}
    {body : H.Exec (List Mark) MarkProbe H.Signal}
    (hbody : Calm js (Mark.ofLabel label :: ms) body)
    (next : Action H.Store H.Event H.Error Bool) :
    Ensures (rounds label next (Tracked.round sp label >>= fun _ => body))
      (Mark.ofLabel label :: ms) (LoopSettled label ms js) := by
  refine Ensures.loops (I := BetweenRounds label ms) (fun ms' hI => ?_)
    ⟨rfl, rfl, fun _ => rfl, rfl⟩
  have htail : ms'.tail = ms := by
    match ms', hI with
    | m :: rest, ⟨_, _, _, hrest⟩ => exact hrest
  refine Ensures.bind (Ensures.act next) ?_
  rintro x ms' ⟨rfl, -⟩
  cases x with
  | error e =>
    refine Ensures.pure ?_
    show Settled ms _ _ (List.tail _)
    rw [htail]
    exact .raises e
  | ok more =>
    cases more with
    | false => exact Ensures.pure htail
    | true =>
      have hround : Ensures (Tracked.round sp label >>= fun _ => body) ms'
          (Settled (Mark.ofLabel label :: ms) js) := by
        refine Ensures.bind (round_calm sp hI) ?_
        rintro _ _ rfl
        exact hbody
      refine Ensures.bind hround fun sig ms'' hs => Ensures.pure ?_
      have hnext := afterRound_calm hs
      cases hafter : afterRound label sig with
      | none => simpa [hafter] using hnext
      | some ending => simpa [hafter] using hnext

theorem loop_calm (hms : Mark.Clear ms) (pending : List NamedJump) (label : Option String)
    (sp : Span) (h : LoopHead) {b o : List (Stmt Placeholder)}
    (hb : Calm (Stmt.blockJumps none b) (Mark.ofLabel label :: ms)
      ((tracked H).block (leaving label pending) none b))
    (ho : Calm (Stmt.blockJumps none o) ms ((tracked H).block pending none o)) :
    Calm (Stmt.jumps label (.loop sp h b o)) ms
      ((tracked H).stmt pending label (.loop sp h b o)) := by
  refine Calm.orRaise_act fun c => ?_
  refine Ensures.bind (Ensures.adjust _) ?_
  rintro _ _ rfl
  refine Ensures.bind (rounds_calm sp hb _) fun ending ms' hend => ?_
  refine Ensures.bind (Ensures.adjust _) ?_
  rintro _ _ rfl
  cases ending with
  | some sig =>
    refine Ensures.imp (afterLoop_calm hms pending sp _ hend) ?_
    exact fun _ _ hs => Settled.subset (List.subset_append_left _ _) hs
  | none =>
    rw [show (tracked H).exitLoop ms' = ms from hend]
    refine (ho.subset (List.subset_append_right _ _)).andNext ?_
    exact afterLoop_calm hms pending sp _ .normal

/-! ## The traversal -/

mutual

/-- A statement whose jumps pass finds marks only where their jumps arrive. -/
theorem stmt_calm (hH : H.ReleasesQuietly) (pending : List NamedJump) (label : Option String)
    (ms : List Mark) (hms : Mark.Clear ms) : ∀ s : Stmt Placeholder, s.jumpsPass = true →
      Calm (s.jumps label) ms ((tracked H).stmt pending label s)
  | .simple sp s, _ => Calm.simple s
  | .hole sp (.loopLabel l), _ => Ensures.pure .normal
  | .hole sp (.jump k l), _ => by
    show Calm _ ms (Tracked.hole (.jump k l))
    simp only [Tracked.hole, Stmt.jumps]
    cases Lower.labelOf? l with
    | none => exact ⟨fun _ _ _ _ _ hr => hr.elim, fun _ _ _ hr => hr.elim⟩
    | some name =>
      refine Ensures.bind (Ensures.adjust _) ?_
      rintro _ _ rfl
      exact Ensures.pure (.jumps List.mem_cons_self (Mark.jump_cases _ _))
  | .branch sp t b o, h => by
    simp only [Stmt.jumpsPass, Bool.and_eq_true] at h
    have hb := block_calm hH pending none ms hms b h.1
    have ho := block_calm hH pending none ms hms o h.2
    refine Calm.orRaise_act fun yes => ?_
    cases yes with
    | true => exact hb.subset (List.subset_append_left _ _)
    | false => exact ho.subset (List.subset_append_right _ _)
  | .loop sp hd b o, h => by
    simp only [Stmt.jumpsPass, Bool.and_eq_true] at h
    have hb := block_calm hH (leaving label pending) none (Mark.ofLabel label :: ms)
      (Mark.clear_cons hms) b h.1
    exact loop_calm hms pending label sp hd hb (block_calm hH pending none ms hms o h.2)
  | .function sp hd b, h => (block_calm hH [] none [] Mark.clear_nil b h).defining hd
  | .klass sp hd b, h => by
    simp only [Stmt.jumpsPass, Bool.and_eq_true, List.isEmpty_iff] at h
    have hb := block_calm hH [] none [] Mark.clear_nil b h.1
    exact Calm.inClass hd (h.2 ▸ hb)
  | .withItems sp a is b, h => by
    simp only [Stmt.jumpsPass, Bool.and_eq_true, List.isEmpty_iff] at h
    have hb := block_calm hH pending none ms hms b h.1
    exact ((h.2 ▸ hb : Calm [] ms _).underManagers a is).subset (List.nil_subset _)
  | .attempt sp star b hs o f, h => by
    simp only [Stmt.jumpsPass, Bool.and_eq_true, Bool.or_eq_true, List.isEmpty_iff] at h
    obtain ⟨⟨⟨⟨hb, hh⟩, ho⟩, hf⟩, hcross⟩ := h
    have hb' := block_calm hH pending none ms hms b hb
    have hh' := handlers_calm hH pending ms hms hs hh
    have ho' := block_calm hH pending none ms hms o ho
    have hf' (pending) := block_calm hH pending none ms hms f hf
    have htry : Calm (Stmt.blockJumps none b ++ Handler.jumps hs ++ Stmt.blockJumps none o) ms
        (withHandlers star ((tracked H).block pending none b) ((tracked H).handlers pending hs)
          ((tracked H).block pending none o)) := by
      have hbh := List.subset_append_left (Stmt.blockJumps none b ++ Handler.jumps hs)
        (Stmt.blockJumps none o)
      refine Calm.withHandlers hH star ?_ (fun c hc => ?_) ?_
      · exact hb'.subset (List.Subset.trans (List.subset_append_left _ _) hbh)
      · exact (hh' c hc).subset (List.Subset.trans (List.subset_append_right _ _) hbh)
      · exact ho'.subset (List.subset_append_right _ _)
    rcases hcross with rfl | hnone
    · exact (htry.subset (List.subset_append_left _ _)).withFinal_nothing hH
    · rw [hnone] at htry
      exact htry.withFinal hH fun sig => (hf' _).subset (List.subset_append_right _ _)
  | .select sp e cs, h =>
    Calm.orRaise_act fun v => Calm.select v (cases_calm hH pending ms hms cs h)

/-- **A block whose jumps pass finds marks only where their jumps arrive.** -/
theorem block_calm (hH : H.ReleasesQuietly) (pending : List NamedJump) (label : Option String)
    (ms : List Mark) (hms : Mark.Clear ms) : ∀ b : List (Stmt Placeholder),
      Stmt.allJumpsPass b = true →
      Calm (Stmt.blockJumps label b) ms ((tracked H).block pending label b)
  | [], _ => Ensures.pure .normal
  | s :: rest, h => by
    simp only [Stmt.allJumpsPass, Bool.and_eq_true] at h
    have hs := stmt_calm hH pending label ms hms s h.1
    have hrest := block_calm hH pending (Layer.labelFrom (some s)) ms hms rest h.2
    exact (hs.subset (List.subset_append_left _ _)).andNext
      (hrest.subset (List.subset_append_right _ _))

theorem handlers_calm (hH : H.ReleasesQuietly) (pending : List NamedJump) (ms : List Mark)
    (hms : Mark.Clear ms) : ∀ hs : List (Handler Placeholder), Handler.jumpsPass hs = true →
      ∀ c ∈ (tracked H).handlers pending hs, Calm (Handler.jumps hs) ms c.run
  | [], _ => fun _ hc => nomatch hc
  | .mk p t n b :: hs, h => by
    simp only [Handler.jumpsPass, Bool.and_eq_true] at h
    intro c hc
    rcases List.mem_cons.1 hc with rfl | hc
    · exact (block_calm hH pending none ms hms b h.1).subset (List.subset_append_left _ _)
    · exact (handlers_calm hH pending ms hms hs h.2 c hc).subset (List.subset_append_right _ _)

theorem cases_calm (hH : H.ReleasesQuietly) (pending : List NamedJump) (ms : List Mark)
    (hms : Mark.Clear ms) : ∀ cs : List (Case Placeholder), Case.jumpsPass cs = true →
      ∀ c ∈ (tracked H).cases pending cs, Calm (Case.jumps cs) ms c.run
  | [], _ => fun _ hc => nomatch hc
  | .mk p g b :: cs, h => by
    simp only [Case.jumpsPass, Bool.and_eq_true] at h
    intro c hc
    rcases List.mem_cons.1 hc with rfl | hc
    · exact (block_calm hH pending none ms hms b h.1).subset (List.subset_append_left _ _)
    · exact (cases_calm hH pending ms hms cs h.2 c hc).subset (List.subset_append_right _ _)

end

end Interception

end JumpMacros
