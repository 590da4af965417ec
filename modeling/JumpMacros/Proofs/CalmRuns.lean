import JumpMacros.Proofs.Coupling
import JumpMacros.Proofs.Dialects

/-!
# Runs that keep their marks

`Ensures` says what marks all runs of a statement end with, and that the statement finds a mark only
where its jump arrives. A statement is `Calm` if it ends with the marks that it is started with,
unless it ends with a jump, when one mark may be raised for that jump alone.

Statements that are made of calm ones are calm. Of those that can override a jump this holds only if
no jump comes that way: a body that context managers are around, or that has a last part, must be
calm without jumps.
-/

namespace JumpMacros

open Host Run

/-- Leaving a handler never fails: all that is done is to unbind the name of the error. -/
def Host.ReleasesQuietly (H : Host) : Prop :=
  ∀ name s es x t, H.release name s es x t → ∃ u, x = .ok u

/-! ## Marks that are clear -/

namespace Mark

/-- No loop is marked. -/
def Clear (ms : List Mark) : Prop := ∀ m ∈ ms, ∀ k, m.raised k = false

theorem clear_nil : Clear [] := fun _ h => nomatch h

theorem clear_cons {label : Option String} {ms : List Mark} (h : Clear ms) :
    Clear (ofLabel label :: ms) := by
  intro m hm k
  rcases List.mem_cons.1 hm with rfl | hm
  · cases k <;> rfl
  · exact h m hm k

theorem Clear.isRaised {ms : List Mark} (h : Clear ms) (j : NamedJump) :
    isRaised ms j = false := by
  induction ms with
  | nil => rfl
  | cons m ms ih =>
    unfold Mark.isRaised
    split
    · exact h m List.mem_cons_self j.1
    · exact ih fun m' hm' => h m' (List.mem_cons_of_mem _ hm')

/-- The mark of a jump is found for that jump alone. -/
theorem Clear.eq_of_isRaised {ms : List Mark} (h : Clear ms) {j j' : NamedJump}
    (hr : Mark.isRaised (raiseIn j ms) j' = true) : j' = j := by
  induction ms with
  | nil => cases hr
  | cons m ms ih =>
    have hm (k : JumpKind) : m.raised k = false := h m List.mem_cons_self k
    have hms : Clear ms := fun m' hm' => h m' (List.mem_cons_of_mem _ hm')
    obtain ⟨k, name⟩ := j
    obtain ⟨k', name'⟩ := j'
    by_cases hl : m.label = some name
    · simp only [raiseIn, if_pos hl] at hr
      have hraise : (m.raise k).label = m.label := by cases k <;> rfl
      simp only [Mark.isRaised, hraise] at hr
      by_cases hl' : m.label = some name'
      · rw [if_pos hl'] at hr
        obtain rfl : name = name' := Option.some.inj (hl.symm.trans hl')
        -- A mark that was clear is now raised for one kind of jump.
        have hb := hm .breaks
        have hc := hm .continues
        cases k <;> cases k' <;> simp_all [raise, raised]
      · rw [if_neg hl', hms.isRaised] at hr
        cases hr
    · simp only [raiseIn, if_neg hl, Mark.isRaised] at hr
      split at hr
      · rw [hm] at hr
        cases hr
      · exact ih hms hr

theorem jump_cases (j : NamedJump) (ms : List Mark) :
    jump j ms = ms ∨ jump j ms = raiseIn j ms := by
  cases ms with
  | nil => exact .inl rfl
  | cons m ms =>
    by_cases hl : m.label = some j.2
    · exact .inl (if_pos hl)
    · exact .inr (by simp only [jump, raiseIn, if_neg hl])

end Mark

/-! ## What every run keeps -/

namespace Interception

variable {H : Host} {α β : Type} {ms : List Mark} {js js' : List NamedJump}

/-- All runs with the marks `ms` end as `post` says, and stop only where a jump arrives. -/
structure Ensures (m : H.Exec (List Mark) MarkProbe α) (ms : List Mark)
    (post : α → List Mark → Prop) : Prop where
  done : ∀ s es a t ms', m (s, ms) es (.done a (t, ms')) → post a ms'
  stopped : ∀ s es p, m (s, ms) es (.stopped p) → p.arriving = true

namespace Ensures

variable {m : H.Exec (List Mark) MarkProbe α} {f : α → H.Exec (List Mark) MarkProbe β}
  {post : α → List Mark → Prop} {post' : β → List Mark → Prop}

theorem imp {post' : α → List Mark → Prop} (h : Ensures m ms post)
    (himp : ∀ a ms', post a ms' → post' a ms') : Ensures m ms post' :=
  ⟨fun s es a t ms' hr => himp a ms' (h.done s es a t ms' hr), h.stopped⟩

theorem pure {a : α} (h : post a ms) :
    Ensures (Pure.pure a : H.Exec (List Mark) MarkProbe α) ms post := by
  constructor
  · rintro s es a' t ms' ⟨-, hr⟩
    cases hr
    exact h
  · rintro s es p ⟨-, hr⟩
    cases hr

theorem bind (hm : Ensures m ms post) (hf : ∀ a ms', post a ms' → Ensures (f a) ms' post') :
    Ensures (m >>= f) ms post' := by
  constructor
  · rintro s es b t ms' (⟨p, -, hr⟩ | ⟨a, ⟨u, ms₁⟩, es₁, es₂, h₁, h₂, -⟩)
    · cases hr
    · exact (hf a ms₁ (hm.done _ _ _ _ _ h₁)).done _ _ _ _ _ h₂
  · rintro s es p (⟨p', h₁, hr⟩ | ⟨a, ⟨u, ms₁⟩, es₁, es₂, h₁, h₂, -⟩)
    · cases hr
      exact hm.stopped _ _ _ h₁
    · exact (hf a ms₁ (hm.done _ _ _ _ _ h₁)).stopped _ _ _ h₂

/-- What the host does leaves the marks alone. -/
theorem act (a : Action H.Store H.Event H.Error α) :
    Ensures (Host.act a : H.Exec (List Mark) MarkProbe _) ms
      fun x ms' => ms' = ms ∧ ∃ s es t, a s es x t := by
  constructor
  · rintro s es x t ms' ⟨x', t', ha, hr⟩
    cases hr
    exact ⟨rfl, s, es, _, ha⟩
  · rintro s es p ⟨x', t', -, hr⟩
    cases hr

theorem adjust (g : List Mark → List Mark) :
    Ensures (Host.adjust g : H.Exec (List Mark) MarkProbe _) ms fun _ ms' => ms' = g ms := by
  constructor
  · rintro s es x t ms' ⟨-, hr⟩
    cases hr
    rfl
  · rintro s es p ⟨-, hr⟩
    cases hr

theorem inspect (g : List Mark → α) :
    Ensures (Host.inspect g : H.Exec (List Mark) MarkProbe _) ms
      fun a ms' => a = g ms ∧ ms' = ms := by
  constructor
  · rintro s es x t ms' ⟨-, hr⟩
    cases hr
    exact ⟨rfl, rfl⟩
  · rintro s es p ⟨-, hr⟩
    cases hr

/-- A loop keeps what each of its steps keeps. -/
theorem loops {step : H.Exec (List Mark) MarkProbe (Option α)} {I : List Mark → Prop}
    (hstep : ∀ ms, I ms → Ensures step ms fun x ms' => match x with
      | none => I ms'
      | some a => post a ms') (hI : I ms) : Ensures (Run.Loops step) ms post := by
  constructor
  · intro s es a t ms' hr
    generalize hs : (s, ms) = start at hr
    generalize he : Ending.done a (t, ms') = ending at hr
    induction hr generalizing s ms with
    | last h =>
      cases hs
      cases he
      exact (hstep _ hI).done _ _ _ _ _ h
    | halt h => cases he
    | @again _ u _ _ _ h rest ih =>
      cases hs
      exact ih ((hstep _ hI).done _ _ _ _ _ h) u.1 rfl he
  · intro s es p hr
    generalize hs : (s, ms) = start at hr
    generalize he : Ending.stopped p = ending at hr
    induction hr generalizing s ms with
    | last h => cases he
    | halt h =>
      cases hs
      cases he
      exact (hstep _ hI).stopped _ _ _ h
    | @again _ u _ _ _ h rest ih =>
      cases hs
      exact ih ((hstep _ hI).done _ _ _ _ _ h) u.1 rfl he

end Ensures

/-- How a statement can end that leaves only by the jumps `js`, and the marks then. -/
inductive Settled (ms : List Mark) (js : List NamedJump) : H.Signal → List Mark → Prop
  | normal : Settled ms js .normal ms
  | breaks : Settled ms js .breaks ms
  | continues : Settled ms js .continues ms
  | returns (v : H.Value) : Settled ms js (.returns v) ms
  | raises (e : H.Error) : Settled ms js (.raises e) ms
  | jumps {j : NamedJump} {ms' : List Mark} (hj : j ∈ js)
    (hms : ms' = ms ∨ ms' = Mark.raiseIn j ms) : Settled ms js (.jumps j) ms'

theorem Settled.subset {sig : H.Signal} {ms' : List Mark} (hsub : js ⊆ js')
    (h : Settled ms js sig ms') : Settled ms js' sig ms' := by
  cases h with
  | normal => exact .normal
  | breaks => exact .breaks
  | continues => exact .continues
  | returns v => exact .returns v
  | raises e => exact .raises e
  | jumps hj hms => exact .jumps (hsub hj) hms

/-- A statement that keeps the marks, but for its own jumps. -/
def Calm (js : List NamedJump) (ms : List Mark) (m : H.Exec (List Mark) MarkProbe H.Signal) :
    Prop :=
  Ensures m ms (Settled ms js)

namespace Calm

variable {m m' : H.Exec (List Mark) MarkProbe H.Signal} {sig : H.Signal} {ms' : List Mark}

theorem subset (hsub : js ⊆ js') (h : Calm js ms m) : Calm js' ms m :=
  Ensures.imp h fun _ _ hs => hs.subset hsub

theorem orRaise_act {a : Action H.Store H.Event H.Error α}
    {f : α → H.Exec (List Mark) MarkProbe H.Signal} (h : ∀ x, Calm js ms (f x)) :
    Calm js ms (orRaise (Host.act a) f) := by
  refine Ensures.bind (Ensures.act a) ?_
  rintro x ms' ⟨rfl, -⟩
  cases x with
  | error e => exact Ensures.pure (.raises e)
  | ok x => exact h x

/-- What follows a statement is run with the marks the statement was started with. -/
theorem andNext (h : Calm js ms m) (h' : Calm js ms m') : Calm js ms (Host.andNext m m') := by
  refine Ensures.bind h fun sig ms' hs => ?_
  cases hs with
  | normal => exact h'
  | breaks => exact Ensures.pure .breaks
  | continues => exact Ensures.pure .continues
  | returns v => exact Ensures.pure (.returns v)
  | raises e => exact Ensures.pure (.raises e)
  | jumps hj hms => exact Ensures.pure (.jumps hj hms)

theorem simple (s : Simple) : Calm js ms (Host.simple s : H.Exec (List Mark) MarkProbe _) := by
  have hexec (s : Simple) : Calm js ms
      (orRaise (Host.act (H.exec s)) fun _ => pure .normal) :=
    orRaise_act fun _ => Ensures.pure .normal
  cases s with
  | pass => exact Ensures.pure .normal
  | breaks => exact Ensures.pure .breaks
  | continues => exact Ensures.pure .continues
  | returns v =>
    cases v with
    | none => exact Ensures.pure (.returns _)
    | some e => exact orRaise_act fun v => Ensures.pure (.returns v)
  | _ => exact hexec _

/-! ## Compound statements -/

/-- Where only the jumps of `[]` may leave, none does. -/
theorem closing (h : Settled ms [] sig ms') (isAsync : Bool) (manager : H.Manager) :
    Ensures (Host.closing isAsync manager sig) ms' (Settled ms js) := by
  have quiet (sig : H.Signal) (hs : Settled ms js sig ms) :
      Calm js ms (orRaise (Host.act (H.leave isAsync manager none)) fun _ => pure sig) :=
    orRaise_act fun _ => Ensures.pure hs
  cases h with
  | normal => exact quiet _ .normal
  | breaks => exact quiet _ .breaks
  | continues => exact quiet _ .continues
  | returns v => exact quiet _ (.returns v)
  | raises e =>
    refine orRaise_act fun back => Ensures.pure ?_
    cases back with
    | true => exact .normal
    | false => exact .raises e
  | jumps hj => cases hj

/-- A context manager may fail, so no jump may leave its block. -/
theorem underManagers (isAsync : Bool) (h : Calm [] ms m) (is : List WithItem) :
    Calm [] ms (Host.underManagers isAsync m is) := by
  induction is with
  | nil => exact h
  | cons w is ih =>
    obtain ⟨e, target⟩ := w
    refine orRaise_act fun manager => ?_
    cases target with
    | none => exact Ensures.bind ih fun sig ms' hs => closing hs isAsync manager
    | some t =>
      have hinner : Calm [] ms (orRaise (Host.act (H.assign manager t)) fun _ =>
          Host.underManagers isAsync m is) := orRaise_act fun _ => ih
      exact Ensures.bind hinner fun sig ms' hs => closing hs isAsync manager

theorem holding (hH : H.ReleasesQuietly) (name : Option String) (e : H.Error)
    (h : Calm js ms m) : Calm js ms (Host.holding name e m) := by
  refine orRaise_act fun _ => Ensures.bind h fun sig ms' hs => ?_
  refine Ensures.bind (Ensures.act (H.release name)) ?_
  rintro x ms'' ⟨rfl, s, es, t, hx⟩
  obtain ⟨u, rfl⟩ := hH name s es x t hx
  exact Ensures.pure hs

theorem dispatch (hH : H.ReleasesQuietly) (e : H.Error)
    {cs : List (Catch H (List Mark) MarkProbe)} (h : ∀ c ∈ cs, Calm js ms c.run) :
    Calm js ms (Host.dispatch e cs) := by
  induction cs with
  | nil => exact Ensures.pure (.raises e)
  | cons c cs ih =>
    refine orRaise_act fun yes => ?_
    cases yes with
    | true => exact holding hH c.name e (h c List.mem_cons_self)
    | false => exact ih fun c' hc' => h c' (List.mem_cons_of_mem _ hc')

theorem dispatchGroup (hH : H.ReleasesQuietly) (e : H.Error)
    {cs : List (Catch H (List Mark) MarkProbe)} (h : ∀ c ∈ cs, Calm js ms c.run)
    (raised : List H.Error) (rest : Option H.Error) :
    Calm js ms (Host.dispatchGroup e cs raised rest) := by
  induction cs generalizing raised rest with
  | nil =>
    refine orRaise_act fun x => ?_
    cases x with
    | none => exact Ensures.pure .normal
    | some e' => exact Ensures.pure (.raises e')
  | cons c cs ih =>
    have ih := ih fun c' hc' => h c' (List.mem_cons_of_mem _ hc')
    cases rest with
    | none => exact ih raised none
    | some rest =>
      refine orRaise_act fun x => ?_
      obtain ⟨mine, rest⟩ := x
      cases mine with
      | none => exact ih raised rest
      | some mine =>
        refine Ensures.bind (holding hH c.name mine (h c List.mem_cons_self)) fun sig ms' hs => ?_
        cases hs with
        | normal => exact ih raised rest
        | raises e' => exact ih (raised ++ [e']) rest
        | breaks => exact Ensures.pure .breaks
        | continues => exact Ensures.pure .continues
        | returns v => exact Ensures.pure (.returns v)
        | jumps hj hms => exact Ensures.pure (.jumps hj hms)

theorem withHandlers (hH : H.ReleasesQuietly) (star : Bool) (h : Calm js ms m)
    {cs : List (Catch H (List Mark) MarkProbe)} (hcs : ∀ c ∈ cs, Calm js ms c.run)
    (h' : Calm js ms m') : Calm js ms (Host.withHandlers star m cs m') := by
  refine Ensures.bind h fun sig ms' hs => ?_
  cases hs with
  | normal => exact h'
  | raises e =>
    cases star with
    | true => exact dispatchGroup hH e hcs [] (some e)
    | false => exact dispatch hH e hcs
  | breaks => exact Ensures.pure .breaks
  | continues => exact Ensures.pure .continues
  | returns v => exact Ensures.pure (.returns v)
  | jumps hj hms => exact Ensures.pure (.jumps hj hms)

theorem lastPart (hH : H.ReleasesQuietly) (sig : H.Signal) (h : Calm js ms m) :
    Calm js ms (Host.lastPart m sig) := by
  cases sig with
  | raises e => exact holding hH none e h
  | _ => exact h

/-- A last part that is run with the marks of the start. -/
theorem finishing (hH : H.ReleasesQuietly) {sig : H.Signal} (hs : Settled ms js sig ms)
    (h : Calm js ms m) : Calm js ms (Host.finishing sig m) := by
  refine Ensures.bind (lastPart hH sig h) fun ending ms' hend => ?_
  cases hend with
  | normal => exact Ensures.pure hs
  | breaks => exact Ensures.pure .breaks
  | continues => exact Ensures.pure .continues
  | returns v => exact Ensures.pure (.returns v)
  | raises e => exact Ensures.pure (.raises e)
  | jumps hj hms => exact Ensures.pure (.jumps hj hms)

/-- Without a last part all jumps pass. -/
theorem withFinal_nothing (hH : H.ReleasesQuietly) (h : Calm js ms m) :
    Calm js ms (Host.withFinal m fun _ => pure .normal) := by
  have hlast : Calm js ms (pure .normal : H.Exec (List Mark) MarkProbe H.Signal) :=
    Ensures.pure .normal
  refine Ensures.bind h fun sig ms' hs => ?_
  cases hs with
  | normal => exact finishing hH .normal hlast
  | breaks => exact finishing hH .breaks hlast
  | continues => exact finishing hH .continues hlast
  | returns v => exact finishing hH (.returns v) hlast
  | raises e => exact finishing hH (.raises e) hlast
  | jumps hj hms =>
    have hnothing : Ensures (pure .normal : H.Exec (List Mark) MarkProbe H.Signal) ms'
        fun sig ms'' => sig = .normal ∧ ms'' = ms' := Ensures.pure ⟨rfl, rfl⟩
    refine Ensures.bind hnothing ?_
    rintro _ _ ⟨rfl, rfl⟩
    exact Ensures.pure (.jumps hj hms)

/-- A last part may override everything, so no jump may leave what comes before it. -/
theorem withFinal (hH : H.ReleasesQuietly) (h : Calm [] ms m)
    {last : H.Signal → H.Exec (List Mark) MarkProbe H.Signal}
    (hlast : ∀ sig, Calm js ms (last sig)) : Calm js ms (Host.withFinal m last) := by
  refine Ensures.bind h fun sig ms' hs => ?_
  cases hs with
  | normal => exact finishing hH .normal (hlast _)
  | breaks => exact finishing hH .breaks (hlast _)
  | continues => exact finishing hH .continues (hlast _)
  | returns v => exact finishing hH (.returns v) (hlast _)
  | raises e => exact finishing hH (.raises e) (hlast _)
  | jumps hj => cases hj

theorem ifGuard (g : Option Expr) (hyes : Calm js ms m) (hno : Calm js ms m') :
    Calm js ms (Host.ifGuard m m' g) := by
  cases g with
  | none => exact hyes
  | some g =>
    refine orRaise_act fun yes => ?_
    cases yes with
    | true => exact hyes
    | false => exact hno

theorem select (v : H.Value) {cs : List (Choice H (List Mark) MarkProbe)}
    (h : ∀ c ∈ cs, Calm js ms c.run) : Calm js ms (Host.select v cs) := by
  induction cs with
  | nil => exact Ensures.pure .normal
  | cons c cs ih =>
    have hc := h c List.mem_cons_self
    have ih := ih fun c' hc' => h c' (List.mem_cons_of_mem _ hc')
    refine orRaise_act fun fits => ?_
    cases fits with
    | false => exact ih
    | true =>
      exact ifGuard c.guard hc ih

/-- A function's body is run with marks of its own. -/
theorem defining (hd : FunctionHead) (h : Calm js' [] m) : Calm js ms (Host.defining [] hd m) := by
  have hdef : Calm js ms (orRaise (Host.act (H.define hd (called [] m))) fun _ => pure .normal) :=
    orRaise_act fun _ => Ensures.pure .normal
  constructor
  · rintro s es sig t ms' (hr | ⟨p, u, es', -, -, hr⟩)
    · exact hdef.done _ _ _ _ _ hr
    · cases hr
  · rintro s es p (hr | ⟨p', u, es', hstop, -, hr⟩)
    · exact hdef.stopped _ _ _ hr
    · cases hr
      exact h.stopped _ _ _ hstop

/-- So is the body of a class, which no jump may leave. -/
theorem inClass (hd : ClassHead) (h : Calm [] [] m) : Calm js ms (Host.inClass [] hd m) := by
  have hscope : Ensures (inScope [] m) ms fun sig ms' => Settled [] [] sig [] ∧ ms' = ms := by
    constructor
    · rintro s es sig t ms' (⟨p, -, hr⟩ | ⟨sig', u, ms'', hrun, hr⟩)
      · cases hr
      · cases hr
        refine ⟨?_, rfl⟩
        have hs := h.done _ _ _ _ _ hrun
        cases hs with
        | normal => exact .normal
        | breaks => exact .breaks
        | continues => exact .continues
        | returns v => exact .returns v
        | raises e => exact .raises e
        | jumps hj => cases hj
    · rintro s es p (⟨p', hstop, hr⟩ | ⟨sig', u, ms'', -, hr⟩)
      · cases hr
        exact h.stopped _ _ _ hstop
      · cases hr
  refine orRaise_act fun _ => Ensures.bind hscope ?_
  rintro sig ms' ⟨hs, rfl⟩
  cases hs with
  | raises e => exact orRaise_act fun _ => Ensures.pure (.raises e)
  | normal => exact orRaise_act fun _ => Ensures.pure .normal
  | breaks => exact orRaise_act fun _ => Ensures.pure .breaks
  | continues => exact orRaise_act fun _ => Ensures.pure .continues
  | returns v => exact orRaise_act fun _ => Ensures.pure (.returns v)
  | jumps hj => cases hj

end Calm

end Interception

end JumpMacros
