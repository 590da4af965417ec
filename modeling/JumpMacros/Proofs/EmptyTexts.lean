import JumpMacros.Proofs.Readers
import JumpMacros.Source

/-!
# Texts without statements

At the end of a text every reader of the grammar fails, whichever alternatives it tries.

**Readers (`Reader.Misses`).** A reader that fails at the end of a text, and lets the stream
remember nothing but failures there. The invariant is needed since what is remembered is read
again. Ways to put readers together preserve this, so that instances find it for most of the
grammar; a reader that looks at the next token first needs its cases (`misses_peek`).

**Result (`Module.parse_of_finish`).** A text in which there is nothing but its end is the module
without statements. It is expanded and compiled as it is (`compileSource_of_finish`).
-/

namespace JumpMacros

open Reader

/-- All that a stream remembers has failed. -/
def Stream.Bare (s : Stream) : Prop := ∀ (key : Nat) o, s.exprs[key]? = some o → o = none

/-- A stream has come to the end of the text, and mistakes are not looked for. -/
structure Stream.AtEnd (mode : Mode) (s : Stream) : Prop where
  finish : (mode.tokens.getD s.index default).kind = .finish
  plain : mode.explains = false
  bare : s.Bare

namespace Reader

variable {α β : Type} {p q : Reader α} {f : α → Reader β} {P : α → Prop}

/-- A reader fails at the end of a text. -/
class Misses (p : Reader α) : Prop where
  misses : ∀ mode s, s.AtEnd mode → ∃ t, p mode s = (.error .misfit, t) ∧ t.Bare

/-- A reader takes nothing at the end of a text, and what it gives satisfies `P`. -/
def Passes (p : Reader α) (P : α → Prop) : Prop :=
  ∀ mode s, s.AtEnd mode → ∃ a t, p mode s = (.ok a, t) ∧ P a ∧ t.AtEnd mode

/-! ## Putting readers together -/

theorem Passes.misses (hp : p.Passes P) (hf : ∀ a, P a → Misses (f a)) : Misses (p >>= f) where
  misses mode s hs := by
    obtain ⟨a, t, ha, hP, ht⟩ := hp mode s hs
    rw [bind_of_ok ha]
    exact (hf a hP).misses mode t ht

theorem passes_pure {a : α} (h : P a) : (pure a : Reader α).Passes P :=
  fun _ s hs => ⟨a, s, rfl, h, hs⟩

theorem Passes.bind {Q : β → Prop} (hp : p.Passes P) (hf : ∀ a, P a → (f a).Passes Q) :
    (p >>= f).Passes Q := by
  intro mode s hs
  obtain ⟨a, t, ha, hP, ht⟩ := hp mode s hs
  rw [bind_of_ok ha]
  exact hf a hP mode t ht

instance : Misses (fail : Reader α) := ⟨fun _ s hs => ⟨s, rfl, hs.bare⟩⟩

instance [hp : Misses p] : Misses (p >>= f) where
  misses mode s hs := by
    obtain ⟨t, ht, hbare⟩ := hp.misses mode s hs
    exact ⟨t, bind_of_error ht, hbare⟩

instance (g : α → β) [Misses p] : Misses (g <$> p) := by
  rw [map_eq_pure_bind]
  infer_instance

/-- After a failure the next alternative starts at the end again. -/
theorem orElse_of_misses [hp : Misses p] {mode : Mode} {s : Stream} (hs : s.AtEnd mode) :
    ∃ t : Stream, t.AtEnd mode ∧ p.orElse q mode s = q mode t := by
  obtain ⟨t, ht, hbare⟩ := hp.misses mode s hs
  exact ⟨{ t with index := s.index, last := s.last }, ⟨hs.finish, hs.plain, hbare⟩,
    by simp only [Reader.orElse, ht]⟩

instance [Misses p] [hq : Misses q] : Misses (p.orElse q) where
  misses mode s hs := by
    obtain ⟨t, ht, heq⟩ := orElse_of_misses (p := p) (q := q) hs
    rw [heq]
    exact hq.misses mode t ht

instance [hp : Misses p] : Misses (firstOf [p]) := hp

instance {ps : List (Reader α)} [Misses p] [Misses (firstOf (q :: ps))] :
    Misses (firstOf (p :: q :: ps)) :=
  inferInstanceAs (Misses (p.orElse (firstOf (q :: ps))))

theorem passes_optional [Misses p] : (optional p).Passes (· = none) := by
  intro mode s hs
  obtain ⟨t, ht, heq⟩ := orElse_of_misses (p := some <$> p) (q := pure none) hs
  exact ⟨none, t, heq, rfl, ht⟩

theorem passes_loop [Misses p] (n : Nat) (acc : List α) : (loop p n acc).Passes (· = acc) := by
  cases n with
  | zero => exact passes_pure rfl
  | succ n =>
    refine passes_optional.bind fun a ha => ?_
    subst ha
    exact passes_pure rfl

theorem passes_left : left.Passes fun _ => True := fun _ s hs => ⟨_, s, rfl, trivial, hs⟩

theorem passes_many [Misses p] : (many p).Passes (· = []) := by
  refine passes_left.bind fun n _ => (passes_loop n []).bind fun as has => passes_pure ?_
  rw [has, List.reverse_nil]

instance [Misses p] : Misses (manyOne p) := by
  unfold manyOne
  infer_instance

instance (m : String) [Misses p] : Misses (separated m p) := by
  unfold separated
  infer_instance

instance (step : α → Reader α) [Misses p] : Misses (extended p step) := by
  unfold extended
  infer_instance

/-- Mistakes are not looked for. -/
instance : Misses (explaining p) where
  misses mode s hs := by
    refine ⟨s, ?_, hs.bare⟩
    have hread : (read : Reader Mode) mode s = (.ok mode, s) := rfl
    rw [explaining, bind_of_ok hread, hs.plain]
    rfl

/-- What is remembered at the end has failed, and so will what is not. -/
theorem misses_remembered {rule : Rule} {p : Reader Expr} (hp : Misses p) :
    Misses (remembered rule p) where
  misses mode s hs := by
    unfold remembered
    cases hfound : s.exprs[s.index * 32 + rule.number]? with
    | some o =>
      obtain rfl := hs.bare _ _ hfound
      exact ⟨s, by simp only [hfound]; rfl, hs.bare⟩
    | none =>
      obtain ⟨t, ht, hbare⟩ := hp.misses mode s hs
      simp only [hfound, ht]
      refine ⟨_, rfl, fun key o ho => ?_⟩
      rw [Std.HashMap.getElem?_insert] at ho
      split at ho
      · exact (Option.some.inj ho).symm
      · exact hbare key o ho

instance (rule : Rule) {p : Reader Expr} [hp : Misses p] : Misses (remembered rule p) :=
  misses_remembered hp

/-! ## Single tokens -/

theorem passes_peek : peek.Passes fun t => t.kind = .finish := by
  intro mode s hs
  refine ⟨_, { s with reach := max s.reach s.index }, ?_, hs.finish,
    ⟨hs.finish, hs.plain, hs.bare⟩⟩
  have hget : (get : Reader Stream) mode s = (.ok s, s) := rfl
  have hread : (read : Reader Mode) mode s = (.ok mode, s) := rfl
  have hmodify : (modify fun t : Stream => { t with reach := max t.reach s.index } : Reader PUnit)
      mode s = (.ok ⟨⟩, { s with reach := max s.reach s.index }) := rfl
  rw [peek, bind_of_ok hget, look, bind_of_ok hread, bind_of_ok hmodify, hs.finish]
  rfl

/-- Only the end comes up. -/
theorem misses_peek {f : Token → Reader α} (h : ∀ t, t.kind = .finish → Misses (f t)) :
    Misses (peek >>= f) :=
  passes_peek.misses h

theorem misses_satisfy {test : Token → Bool} (h : ∀ t, t.kind = .finish → test t = false) :
    Misses (satisfy test) := by
  refine misses_peek fun t ht => ?_
  rw [h t ht]
  exact inferInstanceAs (Misses fail)

theorem isMark_of_finish {t : Token} (h : t.kind = .finish) (m : String) : isMark m t = false := by
  rw [isMark, h]
  rfl

theorem isWord_of_finish {t : Token} (h : t.kind = .finish) (w : String) : isWord w t = false := by
  rw [isWord, h]
  rfl

instance (m : String) : Misses (mark m) := misses_satisfy fun _ h => isMark_of_finish h m

instance (w : String) : Misses (word w) := misses_satisfy fun _ h => isWord_of_finish h w

instance (w : String) : Misses (softWord w) := misses_satisfy fun t h => by rw [h]

instance : Misses placedName := misses_peek fun t h => by
  rw [h]
  infer_instance

instance {f : Position → Reader α} [∀ p, Misses (f p)] : Misses (here >>= f) := by
  have hhere : here.Passes fun _ => True := passes_peek.bind fun _ _ => passes_pure trivial
  exact hhere.misses fun _ _ => inferInstance

end Reader

/-! ## Expressions -/

section

variable (r : Recur)

instance : Misses (atom r) := misses_peek fun t h => by
  rw [h]
  infer_instance

instance : Misses (primary r) := by unfold primary; infer_instance

instance : Misses (awaited r) := by unfold awaited; infer_instance

instance : Misses (power r) := by unfold power; infer_instance

instance : Misses (factor r) := misses_remembered <| misses_peek fun t h => by
  rw [h]
  infer_instance

instance (rule : Reader.Rule) (ops : List (String × BinaryOp)) (operand : Reader Expr)
    [Misses operand] : Misses (leftChain rule ops operand) := by
  unfold leftChain
  infer_instance

instance : Misses (bitOr r) := by
  unfold bitOr bitXor bitAnd shift sum term
  infer_instance

instance : Misses (comparison r) := by unfold comparison; infer_instance

instance : Misses (inversion r) := misses_remembered <| misses_peek fun t h => by
  rw [isWord_of_finish h, if_neg Bool.false_ne_true]
  infer_instance

instance (w : String) (op : BoolOp) (operand : Reader Expr) [Misses operand] :
    Misses (boolChain w op operand) := by
  unfold boolChain
  infer_instance

instance : Misses (disjunction r) := by
  unfold disjunction conjunction
  infer_instance

instance : Misses (conditional r) := by unfold conditional; infer_instance

instance : Misses (lambdaExpression r) := by unfold lambdaExpression; infer_instance

instance : Misses (expression r) := by unfold expression; infer_instance

instance : Misses (starExpressions r) := by
  unfold starExpressions starExpression
  infer_instance

instance : Misses (yieldExpression r) := by unfold yieldExpression; infer_instance

/-! ## Targets -/

instance : Misses (targetPrimary r) := by unfold targetPrimary; infer_instance

instance : Misses (memberTarget r) := by unfold memberTarget; infer_instance

instance (use : NameUse) : Misses (boundName use) := by unfold boundName; infer_instance

instance : Misses (target r) := by
  unfold target targetAtom
  infer_instance

instance (depth : Nat) : Misses (singleTarget r depth) := by
  cases depth <;> unfold singleTarget <;> infer_instance

instance (depth : Nat) : Misses (expressionAt depth .target) := by
  cases depth <;> unfold expressionAt <;> infer_instance

/-! ## Statements -/

instance [Misses (r .target)] : Misses (assignedTargets r) := by
  unfold assignedTargets starTargets
  infer_instance

instance [Misses (r .target)] (depth : Nat) : Misses (assignment r depth) := by
  unfold assignment annotation
  refine passes_optional.misses fun a ha => ?_
  subst ha
  refine passes_optional.misses fun a ha => ?_
  subst ha
  infer_instance

variable (rs : Readers) [Misses (rs.exprs .target)]

instance : Misses (simpleStatement rs) := misses_peek fun t h => by
  rw [h]
  infer_instance

instance : Misses (simpleStatements rs) := by unfold simpleStatements; infer_instance

instance : Misses (matchStatement rs) := by
  unfold matchStatement
  exact misses_peek fun _ _ => inferInstance

instance : Misses (compoundStatement rs) := misses_peek fun t h => by
  simp only [isWord_of_finish h, isMark_of_finish h, List.any_cons, List.any_nil, Bool.or_self,
    Bool.false_eq_true, if_false, if_true]
  infer_instance

instance (depth size n : Nat) (p : Reader Pattern) :
    Misses (statementAt (expressionAt depth) p size n) := by
  cases n with
  | zero => exact inferInstanceAs (Misses fail)
  | succ n =>
    unfold statementAt statement
    infer_instance

end

/-! ## Texts -/

/-- At the end of a text there are no statements, and the end is taken. -/
theorem moduleBody_of_atEnd {mode : Mode} {s : Stream} (hs : s.AtEnd mode) (depth : Nat) :
    ∃ t, moduleBody depth mode s = (.ok [], t) := by
  let statement := statementAt (expressionAt depth) (Pattern.readAt (expressionAt depth) depth)
    depth depth
  obtain ⟨chunks, s', hchunks, rfl, hs'⟩ := passes_many (p := statement) mode s hs
  obtain ⟨t, s'', hpeek, hfinish, hs''⟩ := passes_peek mode s' hs'
  obtain ⟨t', u, hagain, -, -⟩ := passes_peek mode s'' hs''
  have hadvance : ∃ u', advance mode s'' = (.ok t', u') := by
    rw [advance, bind_of_ok hagain]
    exact ⟨_, rfl⟩
  obtain ⟨u', hadvance⟩ := hadvance
  have hend : satisfy (fun t => t.kind == .finish) mode s' = (.ok t', u') := by
    rw [satisfy, bind_of_ok hpeek, hfinish]
    exact hadvance
  refine ⟨u', ?_⟩
  rw [moduleBody, bind_of_ok hchunks, bind_of_ok hend]
  rfl

/-- A text of which there is only the end is the module without statements. -/
theorem Module.parse_of_finish {text : String} {t : Token}
    (hnull : text.toList.contains '\x00' = false) (hscan : scan text = [t])
    (hfinish : t.kind = .finish) : Module.parse text = .ok ⟨[]⟩ := by
  have hs : Stream.AtEnd ⟨#[t], false⟩ ⟨0, ⟨1, 0⟩, 0, ∅, ∅, ∅⟩ := by
    refine ⟨hfinish, rfl, fun key o ho => ?_⟩
    rw [Std.HashMap.getElem?_empty] at ho
    cases ho
  obtain ⟨u, hu⟩ := moduleBody_of_atEnd hs (text.length + 3)
  simp only [Module.parse, hnull, Bool.false_eq_true, if_false, Module.ofTokens, run, hscan,
    List.toArray, hu]
  rfl

/-- It is compiled as it is. -/
theorem compileSource_of_finish {text : String} {t : Token}
    (hnull : text.toList.contains '\x00' = false) (hscan : scan text = [t])
    (hfinish : t.kind = .finish) (s : Settings) (file : String) :
    compileSource s file text = .ok ⟨⟨[]⟩, [], ""⟩ := by
  have hexpand : expandModule s (some file) ⟨[]⟩ = .ok ⟨⟨[]⟩, [], ""⟩ := by
    with_unfolding_all rfl
  have hcompile : compileModule file false ⟨[]⟩ = .ok () := by with_unfolding_all rfl
  have hparse : parseSource file text = .ok ⟨[]⟩ := by
    rw [parseSource, Module.parse_of_finish hnull hscan hfinish]
  have hsource : expandSource s file text = .ok ⟨⟨[]⟩, [], ""⟩ := by
    simp only [expandSource, hparse, bind, Except.bind, hexpand]
  simp only [compileSource, hsource, bind, Except.bind, hcompile, pure, Except.pure]

end JumpMacros
