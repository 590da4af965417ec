import JumpMacros.Proofs.Simulation
import Mathlib.Data.List.Forall2

/-!
# What compound statements keep

A `Coupling` relates the additions that two semantics make to the store, and the signals that
statements end with. Signals are the same on both sides, except that a jump to a name may be
another jump on the right side. `Coupling.Keeps` says that two statements simulate each other and
keep the coupling.

Every compound statement but loops and definitions keeps what its parts keep. Definitions start
scopes of their own, so their bodies are coupled in another way, and loops are left to each
semantics.
-/

namespace JumpMacros

open Host Run

/-- What two semantics keep from statement to statement. -/
structure Coupling (H : Host) (X Y : Type) where
  Inv : X → Y → Prop
  /-- How the left addition can change while a statement runs. -/
  Le : X → X → Prop
  /-- What stands for a jump on the right side. -/
  Jump : NamedJump → X → H.Signal → Prop
  refl : ∀ x, Le x x
  trans : ∀ {x x' x''}, Le x x' → Le x' x'' → Le x x''
  mono : ∀ {x x' j sig}, Le x x' → Jump j x sig → Jump j x' sig
  abrupt : ∀ {x j sig}, Jump j x sig → sig = .breaks ∨ sig = .continues ∨ ∃ j', sig = .jumps j'

namespace Coupling

variable {H : Host} {X Y P Q α : Type} (C : Coupling H X Y) (L : Link P Q)

/-- Two signals go together. -/
inductive Agrees (x : X) : H.Signal → H.Signal → Prop
  | normal : Agrees x .normal .normal
  | breaks : Agrees x .breaks .breaks
  | continues : Agrees x .continues .continues
  | returns (v : H.Value) : Agrees x (.returns v) (.returns v)
  | raises (e : H.Error) : Agrees x (.raises e) (.raises e)
  | jumps {j : NamedJump} {sig : H.Signal} (h : C.Jump j x sig) : Agrees x (.jumps j) sig

/-- What holds at the end of statements that were started with the addition `x`. -/
def Post (x : X) : H.Signal → X → H.Signal → Y → Prop := fun sig x' sig' y' =>
  C.Inv x' y' ∧ C.Le x x' ∧ C.Agrees x' sig sig'

/-- Two statements simulate each other and keep the coupling. -/
def Keeps (m : H.Exec X P H.Signal) (n : H.Exec Y Q H.Signal) : Prop :=
  ∀ x y, C.Inv x y → Sim L m n x y (C.Post x)

variable {C L}

theorem Agrees.mono {x x' : X} {sig sig' : H.Signal} (hle : C.Le x x')
    (h : C.Agrees x sig sig') : C.Agrees x' sig sig' := by
  cases h with
  | normal => exact .normal
  | breaks => exact .breaks
  | continues => exact .continues
  | returns v => exact .returns v
  | raises e => exact .raises e
  | jumps h => exact .jumps (C.mono hle h)

theorem Post.trans {x x' x'' : X} {y : Y} {sig sig' : H.Signal} (hle : C.Le x x')
    (h : C.Post x' sig x'' sig' y) : C.Post x sig x'' sig' y :=
  ⟨h.1, C.trans hle h.2.1, h.2.2⟩

/-! ## Sequences -/

section

variable {m m' : H.Exec X P H.Signal} {n n' : H.Exec Y Q H.Signal}

theorem sim_pure {x : X} {y : Y} {sig sig' : H.Signal} (hI : C.Inv x y)
    (h : C.Agrees x sig sig') : Sim L (pure sig : H.Exec X P _) (pure sig' : H.Exec Y Q _) x y
      (C.Post x) :=
  Sim.pure ⟨hI, C.refl x, h⟩

theorem keeps_pure {sig sig' : H.Signal} (h : ∀ x, C.Agrees x sig sig') :
    C.Keeps L (pure sig) (pure sig') :=
  fun x _ hI => sim_pure hI (h x)

theorem Keeps.bind {f : H.Signal → H.Exec X P H.Signal} {g : H.Signal → H.Exec Y Q H.Signal}
    (hm : C.Keeps L m n) (hf : ∀ sig sig' x y, C.Inv x y → C.Agrees x sig sig' →
      Sim L (f sig) (g sig') x y (C.Post x)) : C.Keeps L (m >>= f) (n >>= g) := by
  intro x y hI
  refine (hm x y hI).bind fun sig x' sig' y' hpost => ?_
  exact (hf sig sig' x' y' hpost.1 hpost.2.2).imp fun _ _ _ _ => Post.trans hpost.2.1

theorem Keeps.andNext (hm : C.Keeps L m n) (hrest : C.Keeps L m' n') :
    C.Keeps L (Host.andNext m m') (Host.andNext n n') := by
  refine hm.bind fun sig sig' x y hI hag => ?_
  cases hag with
  | normal => exact hrest x y hI
  | breaks => exact sim_pure hI .breaks
  | continues => exact sim_pure hI .continues
  | returns v => exact sim_pure hI (.returns v)
  | raises e => exact sim_pure hI (.raises e)
  | jumps h =>
    have hag : C.Agrees x _ sig' := .jumps h
    rcases C.abrupt h with rfl | rfl | ⟨j', rfl⟩ <;> exact sim_pure hI hag

end

/-- What a host does is the same on both sides. -/
theorem sim_orRaise_act {a : Action H.Store H.Event H.Error α} {x : X} {y : Y}
    {f : α → H.Exec X P H.Signal} {g : α → H.Exec Y Q H.Signal} (hI : C.Inv x y)
    (h : ∀ a, Sim L (f a) (g a) x y (C.Post x)) :
    Sim L (orRaise (act a) f) (orRaise (act a) g) x y (C.Post x) := by
  refine (Sim.act a).bind ?_
  rintro _ _ r _ ⟨rfl, rfl, rfl⟩
  cases r with
  | error e => exact sim_pure hI (.raises e)
  | ok a => exact h a

theorem Keeps.orRaise_act {a : Action H.Store H.Event H.Error α}
    {f : α → H.Exec X P H.Signal} {g : α → H.Exec Y Q H.Signal}
    (h : ∀ a, C.Keeps L (f a) (g a)) :
    C.Keeps L (orRaise (act a) f) (orRaise (act a) g) :=
  fun x y hI => sim_orRaise_act hI fun a => h a x y hI

/-- Simple statements do not touch the addition. -/
theorem keeps_simple (s : Simple) :
    C.Keeps L (Host.simple s : H.Exec X P _) (Host.simple s : H.Exec Y Q _) := by
  have other (s : Simple) : C.Keeps L (orRaise (act (H.exec s)) fun _ => pure .normal)
      (orRaise (act (H.exec s)) fun _ => pure .normal) :=
    Keeps.orRaise_act fun _ => keeps_pure fun _ => .normal
  cases s with
  | pass => exact keeps_pure fun _ => .normal
  | breaks => exact keeps_pure fun _ => .breaks
  | continues => exact keeps_pure fun _ => .continues
  | returns v =>
    cases v with
    | none => exact keeps_pure fun _ => .returns _
    | some e => exact Keeps.orRaise_act fun v => keeps_pure fun _ => .returns v
  | expr v => exact other (.expr v)
  | assign ts v => exact other (.assign ts v)
  | augmented t o v => exact other (.augmented t o v)
  | annotated t n v b => exact other (.annotated t n v b)
  | deletes ts => exact other (.deletes ts)
  | raises e c => exact other (.raises e c)
  | asserts t m => exact other (.asserts t m)
  | globals ns => exact other (.globals ns)
  | nonlocals ns => exact other (.nonlocals ns)
  | imports as => exact other (.imports as)
  | importsFrom m as l => exact other (.importsFrom m as l)

/-! ## Compound statements -/

section

variable {m m' : H.Exec X P H.Signal} {n n' : H.Exec Y Q H.Signal}

theorem Keeps.choose {e : Expr} (hm : C.Keeps L m n) (hm' : C.Keeps L m' n') :
    C.Keeps L (Host.choose (act (H.test e)) m m') (Host.choose (act (H.test e)) n n') := by
  refine Keeps.orRaise_act fun b => ?_
  cases b with
  | true => exact hm
  | false => exact hm'

/-- Leaving a context manager lets a signal go on, takes it back or raises instead. -/
theorem sim_closing {isAsync : Bool} {manager : H.Manager} {sig sig' : H.Signal} {x : X} {y : Y}
    (hI : C.Inv x y) (hag : C.Agrees x sig sig') :
    Sim L (closing isAsync manager sig : H.Exec X P _) (closing isAsync manager sig') x y
      (C.Post x) := by
  cases hag with
  | raises e =>
    refine sim_orRaise_act hI fun back => ?_
    cases back with
    | true => exact sim_pure hI .normal
    | false => exact sim_pure hI (.raises e)
  | normal => exact sim_orRaise_act hI fun _ => sim_pure hI .normal
  | breaks => exact sim_orRaise_act hI fun _ => sim_pure hI .breaks
  | continues => exact sim_orRaise_act hI fun _ => sim_pure hI .continues
  | returns v => exact sim_orRaise_act hI fun _ => sim_pure hI (.returns v)
  | jumps h =>
    have hag : C.Agrees x _ sig' := .jumps h
    rcases C.abrupt h with rfl | rfl | ⟨j', rfl⟩ <;>
      exact sim_orRaise_act hI fun _ => sim_pure hI hag

theorem Keeps.underManagers (isAsync : Bool) (hm : C.Keeps L m n) :
    ∀ ws : List WithItem,
      C.Keeps L (Host.underManagers isAsync m ws) (Host.underManagers isAsync n ws)
  | [] => hm
  | ⟨e, target⟩ :: ws => by
    have hinner := Keeps.underManagers isAsync hm ws
    refine Keeps.orRaise_act fun manager => ?_
    cases target with
    | none => exact hinner.bind fun _ _ _ _ hI hag => sim_closing hI hag
    | some t =>
      refine Keeps.bind ?_ fun _ _ _ _ hI hag => sim_closing hI hag
      exact Keeps.orRaise_act fun _ => hinner

theorem Keeps.holding (name : Option String) (e : H.Error) (hm : C.Keeps L m n) :
    C.Keeps L (Host.holding name e m) (Host.holding name e n) :=
  Keeps.orRaise_act fun _ => hm.bind fun _ _ _ _ hI hag =>
    sim_orRaise_act hI fun _ => sim_pure hI hag

/-- Two handlers for the same errors. -/
structure CatchRel (C : Coupling H X Y) (L : Link P Q) (c : Catch H X P) (c' : Catch H Y Q) :
    Prop where
  type : c'.type = c.type
  name : c'.name = c.name
  run : C.Keeps L c.run c'.run

theorem Keeps.dispatch (e : H.Error) {cs : List (Catch H X P)} {cs' : List (Catch H Y Q)}
    (h : List.Forall₂ (CatchRel C L) cs cs') :
    C.Keeps L (Host.dispatch e cs) (Host.dispatch e cs') := by
  induction h with
  | nil => exact keeps_pure fun _ => .raises e
  | cons hc _ ih =>
    rw [Host.dispatch, Host.dispatch, hc.type, hc.name]
    refine Keeps.orRaise_act fun yes => ?_
    cases yes with
    | true => exact hc.run.holding _ e
    | false => exact ih

theorem Keeps.dispatchGroup (e : H.Error) {cs : List (Catch H X P)} {cs' : List (Catch H Y Q)}
    (h : List.Forall₂ (CatchRel C L) cs cs') (raised : List H.Error) (rest : Option H.Error) :
    C.Keeps L (Host.dispatchGroup e cs raised rest) (Host.dispatchGroup e cs' raised rest) := by
  induction h generalizing raised rest with
  | nil =>
    refine Keeps.orRaise_act fun left => ?_
    cases left with
    | none => exact keeps_pure fun _ => .normal
    | some e' => exact keeps_pure fun _ => .raises e'
  | @cons c c' cs cs' hc _ ih =>
    cases rest with
    | none => exact ih raised none
    | some rest =>
      rw [Host.dispatchGroup, Host.dispatchGroup, hc.type, hc.name]
      refine Keeps.orRaise_act fun ⟨mine, left⟩ => ?_
      cases mine with
      | none => exact ih raised left
      | some mine =>
        refine (hc.run.holding _ mine).bind fun sig sig' x y hI hag => ?_
        cases hag with
        | normal => exact ih raised left x y hI
        | raises e' => exact ih (raised ++ [e']) left x y hI
        | breaks => exact sim_pure hI .breaks
        | continues => exact sim_pure hI .continues
        | returns v => exact sim_pure hI (.returns v)
        | jumps h =>
          have hag : C.Agrees x _ sig' := .jumps h
          rcases C.abrupt h with rfl | rfl | ⟨j', rfl⟩ <;> exact sim_pure hI hag

theorem Keeps.withHandlers (star : Bool) (hm : C.Keeps L m n) {cs : List (Catch H X P)}
    {cs' : List (Catch H Y Q)} (hcs : List.Forall₂ (CatchRel C L) cs cs')
    (hm' : C.Keeps L m' n') :
    C.Keeps L (Host.withHandlers star m cs m') (Host.withHandlers star n cs' n') := by
  refine hm.bind fun sig sig' x y hI hag => ?_
  cases hag with
  | normal => exact hm' x y hI
  | raises e =>
    cases star with
    | true => exact Keeps.dispatchGroup e hcs [] (some e) x y hI
    | false => exact Keeps.dispatch e hcs x y hI
  | breaks => exact sim_pure hI .breaks
  | continues => exact sim_pure hI .continues
  | returns v => exact sim_pure hI (.returns v)
  | jumps h =>
    have hag : C.Agrees x _ sig' := .jumps h
    rcases C.abrupt h with rfl | rfl | ⟨j', rfl⟩ <;> exact sim_pure hI hag

theorem Agrees.overriddenBy {x : X} {sig sig' ending ending' : H.Signal}
    (hsig : C.Agrees x sig sig') (hend : C.Agrees x ending ending') :
    C.Agrees x (sig.overriddenBy ending) (sig'.overriddenBy ending') := by
  cases hend with
  | normal => exact hsig
  | breaks => exact .breaks
  | continues => exact .continues
  | returns v => exact .returns v
  | raises e => exact .raises e
  | jumps h =>
    have hj : C.Agrees x _ ending' := .jumps h
    rcases C.abrupt h with rfl | rfl | ⟨j', rfl⟩ <;> exact hj

theorem Keeps.lastPart (hm : C.Keeps L m n) {x : X} {sig sig' : H.Signal}
    (h : C.Agrees x sig sig') : C.Keeps L (Host.lastPart m sig) (Host.lastPart n sig') := by
  cases h with
  | raises e => exact hm.holding none e
  | normal => exact hm
  | breaks => exact hm
  | continues => exact hm
  | returns v => exact hm
  | jumps h => rcases C.abrupt h with rfl | rfl | ⟨j', rfl⟩ <;> exact hm

/-- The last part of a `try` statement may depend on the signal before it, as long as it keeps the
coupling for signals that go together. -/
theorem Keeps.withFinal {last : H.Signal → H.Exec X P H.Signal}
    {last' : H.Signal → H.Exec Y Q H.Signal} (hm : C.Keeps L m n)
    (hlast : ∀ sig sig' x, C.Agrees x sig sig' → C.Keeps L (last sig) (last' sig')) :
    C.Keeps L (Host.withFinal m last) (Host.withFinal n last') := by
  refine hm.bind fun sig sig' x y hI hag => ?_
  have hrun : C.Keeps L _ _ := (hlast sig sig' x hag).lastPart hag
  refine (hrun x y hI).bind fun ending x' ending' y' ⟨hI', hle, hend⟩ => ?_
  have hout : C.Agrees x' (sig.overriddenBy ending) (sig'.overriddenBy ending') :=
    (hag.mono hle).overriddenBy hend
  exact (sim_pure hI' hout).imp fun _ _ _ _ => Post.trans hle

/-- Two cases of the same pattern. -/
structure ChoiceRel (C : Coupling H X Y) (L : Link P Q) (c : Choice H X P) (c' : Choice H Y Q) :
    Prop where
  pattern : c'.pattern = c.pattern
  guard : c'.guard = c.guard
  run : C.Keeps L c.run c'.run

theorem Keeps.select (v : H.Value) {cs : List (Choice H X P)} {cs' : List (Choice H Y Q)}
    (h : List.Forall₂ (ChoiceRel C L) cs cs') :
    C.Keeps L (Host.select v cs) (Host.select v cs') := by
  induction h with
  | nil => exact keeps_pure fun _ => .normal
  | @cons c c' cs cs' hc _ ih =>
    rw [Host.select, Host.select, hc.pattern, hc.guard]
    refine Keeps.orRaise_act fun fits => ?_
    cases fits with
    | false => exact ih
    | true =>
      cases c.guard with
      | none => exact hc.run
      | some g => exact hc.run.choose ih

end

/-! ## Definitions -/

section

variable {m : H.Exec X P H.Signal} {n : H.Exec Y Q H.Signal} {fresh : X} {fresh' : Y}

/-- What the body of a scope ends with goes together whatever the scopes around have added. -/
def Closed (C : Coupling H X Y) : H.Signal → X → H.Signal → Y → Prop :=
  fun sig _ sig' _ => ∀ x, C.Agrees x sig sig'

theorem Agrees.result? {x : X} {sig sig' : H.Signal} (h : C.Agrees x sig sig') :
    sig'.result? = sig.result? := by
  cases h with
  | jumps h => rcases C.abrupt h with rfl | rfl | ⟨j', rfl⟩ <;> rfl
  | normal => rfl
  | breaks => rfl
  | continues => rfl
  | returns v => rfl
  | raises e => rfl

/-- Functions that simulate each other from every store do the same when they are called. -/
theorem called_eq (x : X) (h : Sim L m n fresh fresh' (Closed C))
    (hesc : ∀ s, ¬ Escapes L n (s, fresh')) : called fresh m = called fresh' n := by
  funext s es r t
  refine propext ⟨?_, ?_⟩
  · rintro ⟨sig, x', hm, hr⟩
    rcases h.forth s es _ hm with he | ⟨_, hn, he⟩
    · exact absurd he (hesc s)
    · cases he with
      | done hag => exact ⟨_, _, hn, (hag x).result?.trans hr⟩
  · rintro ⟨sig, y, hn, hr⟩
    rcases h.back s es _ hn with he | ⟨_, hm, he⟩ | ⟨q, hq, -⟩
    · exact absurd he (hesc s)
    · cases he with
      | done hag => exact ⟨_, _, hm, (hag x).result?.symm.trans hr⟩
    · cases hq

theorem Keeps.defining (h : FunctionHead) (hm : Sim L m n fresh fresh' (Closed C)) :
    C.Keeps L (Host.defining fresh h m) (Host.defining fresh' h n) := by
  intro x y hI
  -- A body that escapes from some store lets the definition escape.
  by_cases hesc : ∃ t, Escapes L n (t, fresh')
  · obtain ⟨t, es, q, hq, hbad⟩ := hesc
    have hall (s : H.Store) : Escapes L (Host.defining fresh' h n) (s, y) :=
      ⟨[], q, .inr ⟨q, t, es, hq, rfl, rfl⟩, hbad⟩
    exact ⟨fun s _ _ _ => .inl (hall s), fun s _ _ _ => .inl (hall s)⟩
  · have hno : ∀ t, ¬ Escapes L n (t, fresh') := fun t ht => hesc ⟨t, ht⟩
    have hdef : Sim L (orRaise (act (H.define h (called fresh m))) fun _ => pure .normal)
        (orRaise (act (H.define h (called fresh' n))) fun _ => pure .normal) x y (C.Post x) := by
      rw [called_eq x hm hno]
      exact sim_orRaise_act hI fun _ => sim_pure hI .normal
    have hinl (s : H.Store) (he : Escapes L (orRaise (act (H.define h (called fresh' n)))
        fun _ => pure .normal) (s, y)) : Escapes L (Host.defining fresh' h n) (s, y) := by
      obtain ⟨es, q, hq, hbad⟩ := he
      exact ⟨es, q, .inl hq, hbad⟩
    constructor
    · rintro s es r (hr | ⟨p, t, es', hp, rfl, rfl⟩)
      · rcases hdef.forth s es r hr with he | ⟨r', hr', he⟩
        · exact .inl (hinl s he)
        · exact .inr ⟨r', .inl hr', he⟩
      · rcases hm.forth t es' _ hp with he | ⟨_, hr', he⟩
        · exact absurd he (hno t)
        · cases he with
          | stopped hs => exact .inr ⟨_, .inr ⟨_, t, es', hr', rfl, rfl⟩, .stopped hs⟩
    · rintro s es r' (hr' | ⟨q, t, es', hq, rfl, rfl⟩)
      · rcases hdef.back s es r' hr' with he | ⟨r, hr, he⟩ | hfree
        · exact .inl (hinl s he)
        · exact .inr (.inl ⟨r, .inl hr, he⟩)
        · exact .inr (.inr hfree)
      · rcases hm.back t es' _ hq with he | ⟨_, hr, he⟩ | hfree
        · exact absurd he (hno t)
        · cases he with
          | stopped hs => exact .inr (.inl ⟨_, .inr ⟨_, t, es', hr, rfl, rfl⟩, .stopped hs⟩)
        · obtain ⟨_, hq', hfree⟩ := hfree
          cases hq'
          exact .inr (.inr ⟨q, rfl, hfree⟩)

/-- A scope of its own leaves the additions around as they are. -/
theorem sim_inScope (hm : Sim L m n fresh fresh' (Closed C)) (x : X) (y : Y) :
    Sim L (inScope fresh m) (inScope fresh' n) x y fun sig x' sig' y' =>
      x' = x ∧ y' = y ∧ ∀ z, C.Agrees z sig sig' := by
  have hinl (s : H.Store) (he : Escapes L n (s, fresh')) : Escapes L (inScope fresh' n) (s, y) := by
    obtain ⟨es, q, hq, hbad⟩ := he
    exact ⟨es, q, .inl ⟨q, hq, rfl⟩, hbad⟩
  constructor
  · rintro s es r (⟨p, hp, rfl⟩ | ⟨sig, t, x', hr, rfl⟩)
    · rcases hm.forth s es _ hp with he | ⟨_, hr', he⟩
      · exact .inl (hinl s he)
      · cases he with
        | stopped hs => exact .inr ⟨_, .inl ⟨_, hr', rfl⟩, .stopped hs⟩
    · rcases hm.forth s es _ hr with he | ⟨_, hr', he⟩
      · exact .inl (hinl s he)
      · cases he with
        | done hag => exact .inr ⟨_, .inr ⟨_, t, _, hr', rfl⟩, .done ⟨rfl, rfl, hag⟩⟩
  · rintro s es r' (⟨q, hq, rfl⟩ | ⟨sig, t, y', hr', rfl⟩)
    · rcases hm.back s es _ hq with he | ⟨_, hr, he⟩ | ⟨_, hq', hfree⟩
      · exact .inl (hinl s he)
      · cases he with
        | stopped hs => exact .inr (.inl ⟨_, .inl ⟨_, hr, rfl⟩, .stopped hs⟩)
      · cases hq'
        exact .inr (.inr ⟨q, rfl, hfree⟩)
    · rcases hm.back s es _ hr' with he | ⟨_, hr, he⟩ | ⟨_, hq', -⟩
      · exact .inl (hinl s he)
      · cases he with
        | done hag => exact .inr (.inl ⟨_, .inr ⟨_, t, _, hr, rfl⟩, .done ⟨rfl, rfl, hag⟩⟩)
      · cases hq'

theorem Keeps.inClass (h : ClassHead) (hm : Sim L m n fresh fresh' (Closed C)) :
    C.Keeps L (Host.inClass fresh h m) (Host.inClass fresh' h n) := by
  refine Keeps.orRaise_act fun _ x y hI => ?_
  refine (sim_inScope hm x y).bind fun sig x' sig' y' ⟨hx, hy, hag⟩ => ?_
  subst hx hy
  cases hag x' with
  | raises e => exact sim_orRaise_act hI fun _ => sim_pure hI (.raises e)
  | normal => exact sim_orRaise_act hI fun _ => sim_pure hI .normal
  | breaks => exact sim_orRaise_act hI fun _ => sim_pure hI .breaks
  | continues => exact sim_orRaise_act hI fun _ => sim_pure hI .continues
  | returns v => exact sim_orRaise_act hI fun _ => sim_pure hI (.returns v)
  | jumps hj =>
    have hj' : C.Agrees x' _ sig' := .jumps hj
    rcases C.abrupt hj with rfl | rfl | ⟨j', rfl⟩ <;>
      exact sim_orRaise_act hI fun _ => sim_pure hI hj'

end

/-! ## Rounds of loops -/

/-- Two loops go together if their bodies do, by what the loops make of the bodies' signals. -/
theorem sim_rounds {label label' : Option String} {next : Action H.Store H.Event H.Error Bool}
    {body : H.Exec X P H.Signal} {body' : H.Exec Y Q H.Signal} {I : X → Y → Prop}
    {E : H.Signal → X → H.Signal → Y → Prop}
    (hraises : ∀ x y e, I x y → E (.raises e) x (.raises e) y)
    (hbody : ∀ x y, I x y → Sim L body body' x y fun sig x' sig' y' =>
      StepRel I E (afterRound label sig) x' (afterRound label' sig') y') {x : X} {y : Y}
    (hI : I x y) :
    Sim L (rounds label next body) (rounds label' next body') x y (StepRel I E) := by
  refine Sim.loops (I := I) (fun x y hI => ?_) hI
  refine (Sim.act next).bind ?_
  rintro _ _ r _ ⟨rfl, rfl, rfl⟩
  cases r with
  | error e => exact Sim.pure (.last (.last (hraises _ _ e hI)))
  | ok more =>
    cases more with
    | false => exact Sim.pure (.last (.again hI))
    | true =>
      refine (hbody _ _ hI).bind fun sig x' sig' y' hstep => ?_
      generalize afterRound label sig = o at hstep ⊢
      generalize afterRound label' sig' = o' at hstep ⊢
      cases hstep with
      | again hI' => exact Sim.pure (.again hI')
      | last hE => exact Sim.pure (.last (.last hE))

end Coupling

end JumpMacros
