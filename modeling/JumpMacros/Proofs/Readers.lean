import JumpMacros.Parse.Goal
import JumpMacros.Proofs.Vocabulary

/-!
# What readers give

`p.Gives P` says that whatever `p` reads satisfies `P`, if the tokens hold no other names than the
vocabulary. What was read before is remembered by the stream and read again from there, so this is
stated under the invariant that the remembered trees are proper, and `p` has to keep the invariant.
Only reading that does not look for mistakes is considered: if a text is read a second time to
explain why it does not fit, nothing is given (`Gives.run`).

There is a lemma for each way to put readers together. Readers of which only the invariant matters
are `Calm`, which instances find.
-/

namespace JumpMacros

open Reader

/-! ## Running readers -/

namespace Reader

variable {α β : Type} {p : Reader α} {f : α → Reader β} {P : α → Prop}

theorem bind_of_ok {mode : Mode} {s t : Stream} {a : α} (h : p mode s = (.ok a, t)) :
    (p >>= f) mode s = f a mode t := by
  simp only [bind, ReaderT.bind, ExceptT.bind, ExceptT.mk, StateT.bind, h, ExceptT.bindCont]

theorem bind_of_error {mode : Mode} {s t : Stream} {e : Failure} (h : p mode s = (.error e, t)) :
    (p >>= f) mode s = (.error e, t) := by
  simp only [bind, ReaderT.bind, ExceptT.bind, ExceptT.mk, StateT.bind, h, ExceptT.bindCont]
  rfl

/-- Reading with a memory: `find` looks up what was read here before, and `put` adds to what a
stream remembers what was read from where another one stood. -/
def recalling (find : Stream → Option (Remembered α))
    (put : Stream → Stream → Remembered α → Stream) (p : Reader α) : Reader α := fun mode s =>
  match find s with
  | some o => resume o mode s
  | none =>
    match p mode s with
    | (.ok a, t) => (.ok a, put s t (some (a, t.index, t.last)))
    | (.error .misfit, t) => (.error .misfit, put s t none)
    | r => r

theorem remembered_eq (rule : Rule) (p : Reader Expr) : remembered rule p =
    recalling (fun s => s.exprs[s.index * 32 + rule.number]?)
      (fun s t o => { t with exprs := t.exprs.insert (s.index * 32 + rule.number) o }) p := by
  funext mode s
  unfold Reader.remembered Reader.recalling
  dsimp only
  cases s.exprs[s.index * 32 + rule.number]? with
  | some o => rfl
  | none => rcases p mode s with ⟨(_ | _ | _) | a, t⟩ <;> rfl

theorem rememberedPattern_eq (p : Reader Pattern) : rememberedPattern p =
    recalling (fun s => s.patterns[s.index]?)
      (fun s t o => { t with patterns := t.patterns.insert s.index o }) p := by
  funext mode s
  unfold Reader.rememberedPattern Reader.recalling
  dsimp only
  cases s.patterns[s.index]? with
  | some o => rfl
  | none => rcases p mode s with ⟨(_ | _ | _) | q, t⟩ <;> rfl

theorem rememberedBlock_eq (p : Reader (List (Stmt Empty))) : rememberedBlock p =
    recalling (fun s => s.blocks[s.index]?)
      (fun s t o => { t with blocks := t.blocks.insert s.index o }) p := by
  funext mode s
  unfold Reader.rememberedBlock Reader.recalling
  dsimp only
  cases s.blocks[s.index]? with
  | some o => rfl
  | none => rcases p mode s with ⟨(_ | _ | _) | b, t⟩ <;> rfl

theorem Rule.number_lt (rule : Rule) : rule.number < 32 := by cases rule <;> decide

theorem Rule.number_injective {a b : Rule} (h : a.number = b.number) : a = b := by
  revert h
  cases a <;> cases b <;> decide

/-- A place and a rule have a number of their own. -/
theorem Rule.key_injective {i j : Nat} {a b : Rule}
    (h : i * 32 + a.number = j * 32 + b.number) : a = b := by
  have ha := a.number_lt
  have hb := b.number_lt
  exact number_injective (by omega)

theorem forall_mem_none : ∀ a ∈ (none : Option α), P a := fun _ h => (Option.not_mem_none _ h).elim

theorem forall_mem_some {a : α} (h : P a) : ∀ b ∈ some a, P b := fun _ hb => Option.some.inj hb ▸ h

theorem getD_of_forall {o : Option α} {d : α} (h : ∀ a ∈ o, P a) (hd : P d) : P (o.getD d) := by
  cases o with
  | none => exact hd
  | some a => exact h a rfl

theorem forall_mem_getD {o : Option (List α)} (h : ∀ as ∈ o, ∀ a ∈ as, P a) :
    ∀ a ∈ o.getD [], P a :=
  getD_of_forall h (List.forall_mem_nil _)

end Reader

variable [Vocabulary]

/-! ## Streams that remember proper trees -/

/-- How an expression that is read by a rule is used. -/
def Reader.Rule.use : Reader.Rule → NameUse
  | .target | .targetAtom => .store
  | .deleted => .delete
  | _ => .load

/-- What a stream remembers is proper. -/
structure Stream.Proper (s : Stream) : Prop where
  exprs : ∀ (index : Nat) (rule : Reader.Rule) e i l,
    s.exprs[index * 32 + rule.number]? = some (some (e, i, l)) → e.Proper rule.use
  patterns : ∀ (index : Nat) q i l, s.patterns[index]? = some (some (q, i, l)) → q.Proper
  blocks : ∀ (index : Nat) b i l, s.blocks[index]? = some (some (b, i, l)) → ∀ st ∈ b, st.Read

namespace Reader

variable {α β : Type} {p q : Reader α} {f : α → Reader β} {P Q : α → Prop} {R : β → Prop}

/-- Whatever a reader reads from a stream that remembers proper trees has a property, and the
stream goes on to remember proper trees. -/
def Gives (p : Reader α) (P : α → Prop) : Prop :=
  ∀ (tokens : Array Token) (s t : Stream) (r : Except Failure α), (∀ t ∈ tokens, t.Known) →
    s.Proper → p ⟨tokens, false⟩ s = (r, t) → t.Proper ∧ ∀ a, r = .ok a → P a

/-! ## Sequences -/

theorem Gives.pure {a : α} (h : P a) : (Pure.pure a : Reader α).Gives P := by
  intro tokens s t r ht hs hr
  obtain ⟨rfl, rfl⟩ := Prod.mk.inj hr
  exact ⟨hs, fun _ ha => Except.ok.inj ha ▸ h⟩

/-- A reader that stops and leaves the stream as it is gives nothing. -/
theorem gives_throw (e : Failure) : (throw e : Reader α).Gives P := by
  intro tokens s t r ht hs hr
  obtain ⟨rfl, rfl⟩ := Prod.mk.inj hr
  exact ⟨hs, fun _ ha => by cases ha⟩

theorem Gives.bind (hp : p.Gives Q) (hf : ∀ a, Q a → (f a).Gives R) : (p >>= f).Gives R := by
  intro tokens s t r ht hs hr
  rcases hx : p ⟨tokens, false⟩ s with ⟨x, s'⟩
  obtain ⟨hs', hQ⟩ := hp tokens s s' x ht hs hx
  cases x with
  | ok a =>
    rw [bind_of_ok hx] at hr
    exact hf a (hQ a rfl) tokens s' t r ht hs' hr
  | error e =>
    rw [bind_of_error hx] at hr
    obtain ⟨rfl, rfl⟩ := Prod.mk.inj hr
    exact ⟨hs', fun _ ha => by cases ha⟩

theorem Gives.mono (hp : p.Gives P) (h : ∀ a, P a → Q a) : p.Gives Q :=
  fun tokens s t r ht hs hr => (hp tokens s t r ht hs hr).imp_right fun hP a ha => h a (hP a ha)

theorem Gives.map {g : α → β} (hp : p.Gives P) (h : ∀ a, P a → R (g a)) : (g <$> p).Gives R := by
  rw [map_eq_pure_bind]
  exact hp.bind fun a ha => .pure (h a ha)

/-- A reader that gives nothing ends the reading. -/
theorem Gives.stop (hp : p.Gives fun _ => False) : (p >>= f).Gives R := hp.bind fun _ h => h.elim

theorem Gives.ite {c : Prop} [Decidable c] (hp : c → p.Gives P) (hq : ¬c → q.Gives P) :
    (if c then p else q).Gives P := by
  split
  · exact hp ‹_›
  · exact hq ‹_›

/-- Several branches may go on in one way. -/
theorem Gives.join {k : Reader β} (hk : (∀ a, Q a → (f a).Gives R) → k.Gives R)
    (hf : ∀ a, Q a → (f a).Gives R) : k.Gives R :=
  hk hf

/-- A branch that goes on as others do. -/
theorem Gives.then {a : α} (hf : ∀ a, Q a → (f a).Gives R) (ha : Q a) :
    ((Pure.pure a : Reader α) >>= f).Gives R :=
  .bind (.pure ha) hf

/-! ## Readers of which only the invariant matters -/

/-- A reader that keeps the invariant. -/
class Calm (p : Reader α) : Prop where
  gives : p.Gives fun _ => True

theorem Gives.calm (hp : p.Gives P) : Calm p := ⟨hp.mono fun _ _ => trivial⟩

/-- What is read first does not matter for what is given. -/
theorem Gives.skip [hp : Calm p] (hf : ∀ a, (f a).Gives R) : (p >>= f).Gives R :=
  hp.gives.bind fun a _ => hf a

instance (a : α) : Calm (Pure.pure a : Reader α) := ⟨.pure trivial⟩

instance (e : Failure) : Calm (throw e : Reader α) := ⟨gives_throw e⟩

instance [Calm p] [∀ a, Calm (f a)] : Calm (p >>= f) := ⟨.skip fun _ => Calm.gives⟩

instance (g : α → β) [hp : Calm p] : Calm (g <$> p) := ⟨hp.gives.map fun _ h => h⟩

instance [hp : Calm p] : Calm (discard p) := ⟨hp.gives.map fun _ h => h⟩

instance (c : Prop) [Decidable c] [Calm p] [Calm q] : Calm (if c then p else q) := by
  split <;> infer_instance

instance : Calm (read : Reader Mode) where
  gives := by
    intro tokens s t r ht hs hr
    obtain ⟨rfl, rfl⟩ := Prod.mk.inj hr
    exact ⟨hs, fun _ _ => trivial⟩

instance : Calm (get : Reader Stream) where
  gives := by
    intro tokens s t r ht hs hr
    obtain ⟨rfl, rfl⟩ := Prod.mk.inj hr
    exact ⟨hs, fun _ _ => trivial⟩

/-- Going to another place does not change what is remembered. -/
theorem calm_modify {g : Stream → Stream} (h : ∀ s, s.Proper → (g s).Proper) :
    Calm (modify g : Reader PUnit) where
  gives := by
    intro tokens s t r ht hs hr
    obtain ⟨rfl, rfl⟩ := Prod.mk.inj hr
    exact ⟨h s hs, fun _ _ => trivial⟩

/-! ## Single tokens -/

theorem gives_read : (read : Reader Mode).Gives fun mode => ∀ t ∈ mode.tokens, t.Known := by
  intro tokens s t r ht hs hr
  obtain ⟨rfl, rfl⟩ := Prod.mk.inj hr
  exact ⟨hs, fun _ h => Except.ok.inj h ▸ ht⟩

/-- Only known names are looked at; behind the last token there is none. -/
theorem gives_look (i : Nat) : (look i).Gives Token.Known := by
  unfold look
  refine gives_read.bind fun mode hmode => ?_
  have := calm_modify (g := fun s => { s with reach := max s.reach i }) fun s h =>
    ⟨h.exprs, h.patterns, h.blocks⟩
  refine .skip fun _ => ?_
  split
  · exact gives_throw _
  · refine .pure ?_
    rw [Array.getD]
    split
    · exact hmode _ (Array.getElem_mem _)
    · exact fun _ _ h => nomatch h

theorem gives_peek : peek.Gives Token.Known := .skip fun _ => gives_look _

instance (i : Nat) : Calm (look i) := (gives_look i).calm

instance : Calm peek := gives_peek.calm

instance : Calm advance := by
  unfold advance
  refine ⟨.skip fun t => ?_⟩
  have := calm_modify (g := fun s =>
    { s with index := s.index + 1, last := if isVisible t then t.stop else s.last }) fun s h =>
    ⟨h.exprs, h.patterns, h.blocks⟩
  exact Calm.gives

theorem gives_fail : (fail : Reader α).Gives P := gives_throw _

instance : Calm (fail : Reader α) := ⟨gives_fail⟩

instance (test : Token → Bool) : Calm (satisfy test) := by unfold satisfy; infer_instance

instance (m : String) : Calm (mark m) := by unfold mark; infer_instance

instance (w : String) : Calm (word w) := by unfold word; infer_instance

instance : Calm newline := by unfold newline; infer_instance

instance (w : String) : Calm (softWord w) := by unfold softWord; infer_instance

instance (ms : List String) : Calm (anyMark ms) := by unfold anyMark; infer_instance

theorem gives_placedName : placedName.Gives fun x => Vocabulary.knows x.1 := by
  refine gives_peek.bind fun t ht => ?_
  split
  · rename_i id written hkind
    exact .skip fun _ => .pure (ht id written hkind)
  · exact gives_fail

theorem gives_name : name.Gives Vocabulary.knows := gives_placedName.bind fun _ h => .pure h

instance : Calm placedName := gives_placedName.calm

instance : Calm name := gives_name.calm

instance : Calm here := by unfold here; infer_instance

instance : Calm left := by unfold left; infer_instance

/-! ## Faults -/

theorem gives_raiseIn {kind : FaultKind} {line : Nat} {col : Option Nat} :
    (raiseIn kind line col : Reader α).Gives P :=
  .skip fun _ => .skip fun _ => gives_throw _

theorem gives_raise {kind : FaultKind} {t : Token} : (raise kind t : Reader α).Gives P :=
  gives_raiseIn

theorem gives_raiseHere {kind : FaultKind} : (raiseHere kind : Reader α).Gives P :=
  .skip fun _ => .skip fun _ => gives_raiseIn

theorem gives_raiseAt {kind : FaultKind} {pos : Position} :
    (raiseAt kind pos : Reader α).Gives P :=
  .skip fun _ => gives_raiseIn

instance (m : String) : Calm (needMark m) := by
  unfold needMark
  refine ⟨.skip fun t => ?_⟩
  split
  · exact .skip fun _ => .pure trivial
  · exact gives_raise

/-! ## Alternatives -/

theorem Gives.orElse (hp : p.Gives P) (hq : q.Gives P) : (p.orElse q).Gives P := by
  intro tokens s t r ht hs hr
  rcases hx : p ⟨tokens, false⟩ s with ⟨x, s'⟩
  obtain ⟨hs', hP⟩ := hp tokens s s' x ht hs hx
  unfold Reader.orElse at hr
  simp only [hx] at hr
  split at hr
  · rename_i heq
    obtain ⟨rfl, rfl⟩ := Prod.mk.inj heq
    refine hq tokens _ t r ht ?_ hr
    exact ⟨hs'.exprs, hs'.patterns, hs'.blocks⟩
  · obtain ⟨rfl, rfl⟩ := Prod.mk.inj hr
    exact ⟨hs', hP⟩

theorem Gives.firstOf_nil : (firstOf ([] : List (Reader α))).Gives P := gives_fail

theorem Gives.firstOf_cons {ps : List (Reader α)} (hp : p.Gives P) (hps : (firstOf ps).Gives P) :
    (firstOf (p :: ps)).Gives P := by
  cases ps with
  | nil => exact hp
  | cons q ps => exact hp.orElse hps

theorem Gives.optional (hp : p.Gives P) : (optional p).Gives fun o => ∀ a ∈ o, P a :=
  .orElse (hp.map fun _ ha => forall_mem_some ha) (.pure forall_mem_none)

theorem Gives.ahead (hp : p.Gives P) : (ahead p).Gives fun _ => True := by
  intro tokens s t r ht hs hr
  rcases hx : p ⟨tokens, false⟩ s with ⟨x, s'⟩
  have hs' := (hp tokens s s' x ht hs hx).1
  unfold Reader.ahead at hr
  simp only [hx] at hr
  refine ⟨?_, fun _ _ => trivial⟩
  split at hr
  · rename_i heq
    obtain ⟨rfl, rfl⟩ := Prod.mk.inj heq
    obtain ⟨rfl, rfl⟩ := Prod.mk.inj hr
    exact ⟨hs'.exprs, hs'.patterns, hs'.blocks⟩
  · rename_i heq
    obtain ⟨rfl, rfl⟩ := Prod.mk.inj heq
    obtain ⟨rfl, rfl⟩ := Prod.mk.inj hr
    exact ⟨hs'.exprs, hs'.patterns, hs'.blocks⟩
  · rename_i heq
    obtain ⟨rfl, rfl⟩ := Prod.mk.inj heq
    obtain ⟨rfl, rfl⟩ := Prod.mk.inj hr
    exact hs'

/-- Mistakes are not looked for. -/
theorem gives_explaining : (explaining p).Gives P := by
  intro tokens s t r ht hs hr
  exact gives_fail tokens s t r ht hs hr

instance [hp : Calm p] [hq : Calm q] : Calm (p.orElse q) := ⟨hp.gives.orElse hq.gives⟩

instance [hp : Calm p] : Calm (optional p) := hp.gives.optional.calm

instance [hp : Calm p] : Calm (ahead p) := ⟨hp.gives.ahead⟩

instance [Calm p] : Calm (followedBy p) := by unfold followedBy; infer_instance

instance [Calm p] : Calm (notFollowedBy p) := by unfold notFollowedBy; infer_instance

instance : Calm (explaining p) := ⟨gives_explaining⟩

/-! ## Repetition -/

theorem Gives.loop (hp : p.Gives P) (n : Nat) (acc : List α) (hacc : ∀ a ∈ acc, P a) :
    (loop p n acc).Gives fun as => ∀ a ∈ as, P a := by
  induction n generalizing acc with
  | zero => exact .pure hacc
  | succ n ih =>
    refine hp.optional.bind fun o ho => ?_
    cases o with
    | some a => exact ih (a :: acc) (List.forall_mem_cons.2 ⟨ho a rfl, hacc⟩)
    | none => exact .pure hacc

theorem Gives.many (hp : p.Gives P) : (many p).Gives fun as => ∀ a ∈ as, P a := by
  refine .skip fun n => (hp.loop n [] (List.forall_mem_nil _)).bind fun as has => .pure ?_
  exact fun a ha => has a (List.mem_reverse.1 ha)

theorem Gives.manyOne (hp : p.Gives P) : (manyOne p).Gives fun as => ∀ a ∈ as, P a :=
  hp.bind fun _ ha => hp.many.bind fun _ has => .pure (List.forall_mem_cons.2 ⟨ha, has⟩)

theorem Gives.separated {m : String} (hp : p.Gives P) :
    (separated m p).Gives fun as => ∀ a ∈ as, P a :=
  hp.bind fun _ ha => (Gives.many (.skip fun _ => hp)).bind fun _ has =>
    .pure (List.forall_mem_cons.2 ⟨ha, has⟩)

theorem Gives.extend {step : α → Reader α} (hstep : ∀ a, P a → (step a).Gives P) (n : Nat) {a : α}
    (ha : P a) : (extend step n a).Gives P := by
  induction n generalizing a with
  | zero => exact .pure ha
  | succ n ih =>
    refine (hstep a ha).optional.bind fun o ho => ?_
    cases o with
    | some b => exact ih (ho b rfl)
    | none => exact .pure ha

theorem Gives.extended {step : α → Reader α} (hp : p.Gives P)
    (hstep : ∀ a, P a → (step a).Gives P) : (extended p step).Gives P :=
  hp.bind fun _ ha => .skip fun n => .extend hstep n ha

instance [hp : Calm p] : Calm (many p) := hp.gives.many.calm

instance [hp : Calm p] : Calm (manyOne p) := hp.gives.manyOne.calm

instance (m : String) [hp : Calm p] : Calm (separated m p) := hp.gives.separated.calm

/-! ## Remembering -/

theorem gives_resume {o : Remembered α} (h : ∀ a i l, o = some (a, i, l) → P a) :
    (resume o).Gives P := by
  cases o with
  | none => exact gives_fail
  | some x =>
    obtain ⟨a, i, l⟩ := x
    have := calm_modify (g := fun s => { s with index := i, last := l }) fun s h =>
      ⟨h.exprs, h.patterns, h.blocks⟩
    exact .skip fun _ => .pure (h a i l rfl)

end Reader

section

variable {s : Stream} (hs : s.Proper)
include hs

theorem Stream.Proper.withExpr {rule : Reader.Rule} {o : Remembered Expr} (i : Nat)
    (ho : ∀ e j l, o = some (e, j, l) → e.Proper rule.use) :
    ({ s with exprs := s.exprs.insert (i * 32 + rule.number) o } : Stream).Proper := by
  refine ⟨fun index rule' e j l h => ?_, hs.patterns, hs.blocks⟩
  rw [Std.HashMap.getElem?_insert] at h
  split at h
  · rename_i hkey
    obtain rfl := Rule.key_injective (eq_of_beq hkey)
    exact ho e j l (Option.some.inj h)
  · exact hs.exprs index rule' e j l h

theorem Stream.Proper.withPattern {o : Remembered Pattern} (i : Nat)
    (ho : ∀ q j l, o = some (q, j, l) → q.Proper) :
    ({ s with patterns := s.patterns.insert i o } : Stream).Proper := by
  refine ⟨hs.exprs, fun index q j l h => ?_, hs.blocks⟩
  rw [Std.HashMap.getElem?_insert] at h
  split at h
  · exact ho q j l (Option.some.inj h)
  · exact hs.patterns index q j l h

theorem Stream.Proper.withBlock {o : Remembered (List (Stmt Empty))} (i : Nat)
    (ho : ∀ b j l, o = some (b, j, l) → ∀ st ∈ b, st.Read) :
    ({ s with blocks := s.blocks.insert i o } : Stream).Proper := by
  refine ⟨hs.exprs, hs.patterns, fun index b j l h => ?_⟩
  rw [Std.HashMap.getElem?_insert] at h
  split at h
  · exact ho b j l (Option.some.inj h)
  · exact hs.blocks index b j l h

end

namespace Reader

theorem Gives.recalling {find : Stream → Option (Remembered α)}
    {put : Stream → Stream → Remembered α → Stream} (hp : p.Gives P)
    (hfind : ∀ s a i l, s.Proper → find s = some (some (a, i, l)) → P a)
    (hput : ∀ s t o, t.Proper → (∀ a i l, o = some (a, i, l) → P a) → (put s t o).Proper) :
    (recalling find put p).Gives P := by
  intro tokens s t r ht hs hr
  unfold Reader.recalling at hr
  split at hr
  · rename_i o ho
    refine gives_resume (fun a i l h => ?_) tokens s t r ht hs hr
    exact hfind s a i l hs (ho.trans (congrArg some h))
  · split at hr
    · rename_i a s' hx
      obtain ⟨hs', hP⟩ := hp tokens s s' _ ht hs hx
      obtain ⟨rfl, rfl⟩ := Prod.mk.inj hr
      refine ⟨hput s s' _ hs' fun b i l h => ?_, hP⟩
      obtain ⟨rfl, -⟩ := Prod.mk.inj (Option.some.inj h)
      exact hP a rfl
    · rename_i s' hx
      obtain ⟨hs', hP⟩ := hp tokens s s' _ ht hs hx
      obtain ⟨rfl, rfl⟩ := Prod.mk.inj hr
      exact ⟨hput s s' _ hs' fun _ _ _ h => (Option.some_ne_none _ h.symm).elim, hP⟩
    · exact hp tokens s t r ht hs hr

theorem Gives.remembered {p : Reader Expr} (rule : Rule) (hp : p.Gives (·.Proper rule.use)) :
    (remembered rule p).Gives (·.Proper rule.use) :=
  remembered_eq rule p ▸ hp.recalling (fun s _ _ _ hs h => hs.exprs s.index rule _ _ _ h)
    fun s _ _ ht ho => ht.withExpr s.index ho

theorem Gives.rememberedPattern {p : Reader Pattern} (hp : p.Gives Pattern.Proper) :
    (rememberedPattern p).Gives Pattern.Proper :=
  rememberedPattern_eq p ▸ hp.recalling (fun s _ _ _ hs h => hs.patterns s.index _ _ _ h)
    fun s _ _ ht ho => ht.withPattern s.index ho

theorem Gives.rememberedBlock {p : Reader (List (Stmt Empty))}
    (hp : p.Gives fun b => ∀ st ∈ b, st.Read) :
    (rememberedBlock p).Gives fun b => ∀ st ∈ b, st.Read :=
  rememberedBlock_eq p ▸ hp.recalling (fun s _ _ _ hs h => hs.blocks s.index _ _ _ h)
    fun s _ _ ht ho => ht.withBlock s.index ho

/-! ## Whole texts -/

theorem proper_fresh (start : Position) : (⟨0, start, 0, ∅, ∅, ∅⟩ : Stream).Proper :=
  ⟨fun _ _ _ _ _ h => by simp at h, fun _ _ _ _ h => by simp at h,
    fun _ _ _ _ h => by simp at h⟩

/-- What comes out of a whole text was given when mistakes were not looked for. -/
theorem Gives.run (hp : p.Gives P) {tokens : Array Token} (ht : ∀ t ∈ tokens, t.Known)
    {start : Position} {a : α} (h : run p tokens start = .ok a) : P a := by
  unfold Reader.run at h
  dsimp only at h
  split at h
  · rename_i a' s' hx
    obtain rfl := Except.ok.inj h
    exact (hp tokens _ s' _ ht (proper_fresh start) hx).2 a' rfl
  · cases h
  · cases h
  · split at h
    · cases h
    · cases h
    · split at h <;> cases h

end Reader

end JumpMacros
