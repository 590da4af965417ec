import JumpMacros.Proofs.ReadArguments

/-!
# Reading proper expressions

The readers of expressions, from literals up to targets, give expressions of which the names are
used as their places say (`proper_expressionAt`). Names are only written where `boundName` reads a
target, and by `:=`.
-/

namespace JumpMacros

open Reader

variable [Vocabulary] {r : Recur} (hr : r.Proper)
include hr

/-! ## Literals -/

section

omit hr

omit [Vocabulary] in
theorem Piece.listExprs_append (ps qs : List Piece) :
    Piece.listExprs (ps ++ qs) = Piece.listExprs ps ++ Piece.listExprs qs := by
  induction ps with
  | nil => simp [Piece.listExprs]
  | cons p ps ih => simp [Piece.listExprs, ih]

omit [Vocabulary] in
/-- Joining texts leaves the fields as they are. -/
theorem Piece.listExprs_joinTexts (ps : List Piece) :
    Piece.listExprs (Formatted.joinTexts ps) = Piece.listExprs ps := by
  fun_induction Formatted.joinTexts ps <;> simp_all [Piece.listExprs, Piece.exprs]

namespace Formatted

instance {α : Type} (x : Except FaultKind α) : Calm (cut x) := by
  cases x with
  | ok a => exact ⟨.pure trivial⟩
  | error k => exact ⟨gives_raiseHere⟩

theorem gives_pieces {field : Position → List Char → Reader Expr} (raw : Bool)
    (hf : ∀ p cs, (field p cs).Reads) (fuel depth : Nat) (cs : List Placed) :
    (pieces field raw fuel depth cs).Gives fun x => ∀ e ∈ Piece.listExprs x.1, e.Proper .load := by
  induction fuel generalizing depth cs with
  | zero => exact .pure (List.forall_mem_nil _)
  | succ fuel ih =>
    refine .skip fun chunk => ?_
    -- The literal text in front, if there is any, has no fields.
    apply Gives.join (Q := fun texts => Piece.listExprs texts = [])
    · intro h
      exact .ite (fun _ => .then h rfl) fun _ => .skip fun v => .then h rfl
    intro texts htexts
    refine .ite (fun _ => ?_) fun _ => ?_
    · exact (ih _ _).bind fun x hx => .pure (by simpa [Piece.listExprs_append, htexts] using hx)
    split
    · refine .ite (fun _ => .stop gives_raiseHere) fun _ => .skip fun x => ?_
      refine .ite (fun _ => .stop gives_raiseHere) fun _ => ?_
      refine (hf _ _).bind fun value hvalue => ?_
      generalize shownText x.1 x.2 = shown
      refine .skip fun conversion => ?_
      -- A field with its format, which is cut in the same way.
      apply Gives.join (Q := fun format : Option (List Piece) × List Placed =>
        ∀ c, ∀ e ∈ Piece.exprs (.field value c format.1), e.Proper .load)
      · intro h
        dsimp only
        split
        · refine (ih _ _).bind fun y hy => .then h fun c => List.forall_mem_cons.2 ⟨hvalue, ?_⟩
          rwa [Piece.listExprs_joinTexts]
        · exact .then h fun c => List.forall_mem_singleton.2 hvalue
      intro format hformat
      split
      · refine (ih _ _).bind fun y hy => .pure ?_
        have hshown : Piece.listExprs (shown.1.toList.map Piece.text) = [] := by
          cases shown.1 <;> rfl
        simp only [Piece.listExprs_append, Piece.listExprs, htexts, hshown, List.nil_append,
          List.forall_mem_append]
        exact ⟨hformat _, hy⟩
      · exact gives_raiseHere
    · exact .pure (by simp [htexts])

end Formatted

/-- The fields of a string value are read. -/
def StringValue.Proper : StringValue → Prop
  | .bytes _ => True
  | .pieces ps => ∀ e ∈ Piece.listExprs ps, e.Proper .load

omit [Vocabulary] in
theorem proper_joinedPieces {vs : List StringValue} (h : ∀ v ∈ vs, v.Proper) :
    ∀ e ∈ Piece.listExprs (joinedPieces vs), e.Proper .load := by
  induction vs with
  | nil => exact List.forall_mem_nil _
  | cons v vs ih =>
    obtain ⟨hv, hvs⟩ := List.forall_mem_cons.1 h
    rw [joinedPieces, List.flatMap_cons, Piece.listExprs_append]
    refine List.forall_mem_append.2 ⟨?_, ih hvs⟩
    cases v with
    | bytes bs => exact List.forall_mem_nil _
    | pieces ps => exact hv

instance {α : Type} (t : Token) (x : Except FaultKind α) : Calm (literalValue t x) := by
  unfold literalValue
  split
  · exact ⟨.pure trivial⟩
  · exact ⟨gives_raise⟩
  · exact ⟨gives_raiseHere⟩

instance : Calm rawString := by
  unfold rawString
  refine ⟨.skip fun t => ?_⟩
  split
  · exact .skip fun _ => .pure trivial
  · exact gives_fail

theorem reads_numberLiteral : numberLiteral.Reads := by
  refine .skip fun t => ?_
  split
  · exact .ite (fun _ => .stop (gives_throw _)) fun _ => .skip fun _ =>
      .pure proper_const
  · exact gives_fail

end

omit [Vocabulary] in
/-- What is read from a text of its own is read with any vocabulary. -/
theorem proper_of_run {tokens : Array Token} {start : Position} {e : Expr}
    (h : run (r .starExpressions) tokens start = .ok e) : e.Proper .load :=
  letI := Vocabulary.any
  hr.starExpressions.run (fun t _ => Token.known_any t) h

theorem reads_fieldExpression (brace : Position) (source : List Char) :
    (fieldExpression r brace source).Reads := by
  unfold fieldExpression
  dsimp only
  split
  · rename_i e he
    exact .pure (proper_of_run hr he)
  · exact gives_throw _

theorem gives_formatted (raw : Bool) (start : Position) (body : List Char) :
    (Formatted.read (fieldExpression r) raw start body).Gives fun ps =>
      ∀ e ∈ Piece.listExprs ps, e.Proper .load :=
  (Formatted.gives_pieces raw (reads_fieldExpression hr) _ _ _).bind fun _ hx => .pure hx

theorem gives_stringValue (before : Option RawString) (t : Token) (s : RawString) :
    (stringValue r before t s).Gives StringValue.Proper := by
  apply Gives.join (Q := fun plain : Option StringValue => ∀ v ∈ plain, v.Proper)
  · intro h
    refine .ite (fun _ => ?_) fun _ => .ite (fun _ => ?_) fun _ => ?_
    · have hbytes : (some <$> StringValue.bytes <$>
          literalValue t (Escape.bytes s.isRaw s.body)).Gives fun o => ∀ v ∈ o, v.Proper :=
        Gives.map (P := StringValue.Proper) (Gives.map Calm.gives fun _ _ => trivial)
          fun _ hv => forall_mem_some hv
      exact hbytes.bind h
    · exact .then h forall_mem_none
    · exact .skip fun v => .then h (forall_mem_some (List.forall_mem_nil _))
  intro plain hplain
  cases plain with
  | some v =>
    have hv : (Pure.pure v : Reader StringValue).Gives StringValue.Proper := .pure (hplain v rfl)
    cases before with
    | none => exact hv
    | some b => exact .ite (fun _ => .stop gives_raiseHere) fun _ => hv
  | none =>
    have hread := (gives_formatted hr s.isRaw ⟨t.start.line, t.start.col + s.lead⟩ s.body).bind
      fun ps hps => Gives.pure (P := StringValue.Proper) (a := .pieces ps) hps
    cases before with
    | none => exact hread
    | some b => exact .ite (fun _ => .stop gives_raiseHere) fun _ => hread

theorem gives_stringValues (before : Option RawString) (parts : List (Token × RawString)) :
    (stringValues r before parts).Gives fun vs => ∀ v ∈ vs, v.Proper := by
  induction parts generalizing before with
  | nil => exact .pure (List.forall_mem_nil _)
  | cons x rest ih =>
    exact (gives_stringValue hr before x.1 x.2).bind fun _ hv => (ih _).bind fun _ hvs =>
      .pure (List.forall_mem_cons.2 ⟨hv, hvs⟩)

theorem reads_stringLiterals : (stringLiterals r).Reads := by
  refine Gives.remembered .strings ?_
  refine .skip fun _ => .skip fun parts => (gives_stringValues hr none parts).bind fun vs hvs => ?_
  refine .ite (fun _ => ?_) fun _ => .ite (fun _ => ?_) fun _ => ?_
  · exact .pure proper_const
  · refine .pure (.plain rfl ?_)
    rw [Expr.children, Piece.listExprs_joinTexts]
    exact proper_joinedPieces hvs
  · exact .pure proper_const

/-! ## Brackets -/

theorem reads_yieldExpression : (yieldExpression r).Reads := by
  refine .firstOf_cons ?_ (.firstOf_cons ?_ .firstOf_nil)
  · exact .skip fun _ => .skip fun _ => hr.expression.bind fun _ he =>
      .pure (.plain rfl (List.forall_mem_singleton.2 he))
  · exact .skip fun _ => hr.starExpressions.optional.bind fun _ he =>
      .pure (.plain rfl (proper_toList he))

theorem reads_tupleDisplay : (tupleDisplay r).Reads := by
  refine .skip fun _ => .bind (Gives.optional ?_) fun _ hes => .skip fun _ =>
    .pure (.display (forall_mem_getD hes))
  exact (reads_starNamedExpression hr).bind fun _ he => .skip fun _ =>
    (gives_starNamedExpressions hr).optional.bind fun _ hes =>
      .pure (List.forall_mem_cons.2 ⟨he, forall_mem_getD hes⟩)

theorem reads_group : (group r).Reads := by
  refine .firstOf_cons ?_ (.firstOf_cons gives_explaining (.firstOf_cons gives_explaining
    .firstOf_nil))
  exact .skip fun _ => (Gives.orElse (reads_yieldExpression hr) hr.named).bind fun _ he =>
    .skip fun _ => .pure he

theorem reads_comprehensionOf {kind : ComprehensionKind} {opener closer : String}
    {element : Reader Expr} (h : element.Reads) :
    (comprehensionOf r kind opener closer element).Reads := by
  refine .orElse ?_ gives_explaining
  exact .skip fun _ => h.bind fun _ he => (gives_clauses hr).bind fun _ hcs => .skip fun _ =>
    .pure (.comprehension he (fun c hc => (hcs c hc).target) fun c hc => (hcs c hc).evaluated)

theorem reads_generator : (generator r).Reads :=
  reads_comprehensionOf hr (.orElse (reads_assignmentExpression hr) (reads_unassigned hr))

theorem reads_listDisplay : (listDisplay r).Reads :=
  .skip fun _ => (gives_starNamedExpressions hr).optional.bind fun _ hes => .skip fun _ =>
    .pure (.display (forall_mem_getD hes))

theorem reads_setDisplay : (setDisplay r).Reads :=
  .skip fun _ => (gives_starNamedExpressions hr).bind fun _ hes => .skip fun _ =>
    .pure (.display hes)

theorem gives_keyValue :
    (keyValue r).Gives fun x => x.1.Proper .load ∧ x.2.Proper .load :=
  hr.expression.bind fun _ hk => .skip fun _ => hr.expression.bind fun _ hv => .pure ⟨hk, hv⟩

theorem gives_dictEntry : (dictEntry r).Gives Entry.Proper := by
  refine .firstOf_cons ?_ (.firstOf_cons ?_ .firstOf_nil)
  · exact .skip fun _ => hr.bitOr.bind fun _ he => .pure (List.forall_mem_singleton.2 he)
  · exact (gives_keyValue hr).bind fun _ h =>
      .pure (List.forall_mem_cons.2 ⟨h.1, List.forall_mem_singleton.2 h.2⟩)

theorem gives_mistakenValue {α : Type} {P : α → Prop} : (mistakenValue r).Gives P := by
  have := hr.expression.calm
  have := hr.bitOr.calm
  refine .firstOf_cons ?_ (.firstOf_cons ?_ .firstOf_nil)
  · exact .skip fun _ => .skip fun _ => .skip fun _ => .skip fun _ => gives_raise
  · exact .skip fun _ => .skip fun _ => .skip fun _ => gives_raise

theorem gives_mistakenEntries {P : Expr → Prop} : (mistakenEntries r).Gives P := by
  have := hr.expression.calm
  have := (gives_dictEntry hr).calm
  refine .firstOf_cons ?_ (.firstOf_cons (gives_mistakenValue hr) .firstOf_nil)
  refine .skip fun _ => .skip fun _ => .orElse ?_ (gives_mistakenValue hr)
  exact .skip fun _ => .skip fun _ => .skip fun _ => .skip fun _ => gives_raiseIn

theorem reads_dictDisplay : (dictDisplay r).Reads := by
  refine .firstOf_cons ?_ (.firstOf_cons ?_ .firstOf_nil)
  · have hentries : (do
        let es ← separated "," (dictEntry r)
        let _ ← optional (mark ",")
        return es).Gives fun es => ∀ x ∈ es, x.Proper :=
      (gives_dictEntry hr).separated.bind fun _ hes => .skip fun _ => .pure hes
    refine .skip fun _ => hentries.optional.bind fun o ho => .skip fun _ => .pure (.plain rfl ?_)
    intro e he
    obtain ⟨x, hx, hex⟩ := List.mem_flatMap.1 he
    exact forall_mem_getD ho x hx e hex
  · exact .skip fun _ => (gives_mistakenEntries hr).bind fun _ he => .skip fun _ => .pure he

theorem reads_dictComprehension : (dictComprehension r).Reads := by
  refine .firstOf_cons ?_ (.firstOf_cons gives_explaining .firstOf_nil)
  exact .skip fun _ => (gives_keyValue hr).bind fun _ hkv => (gives_clauses hr).bind fun _ hcs =>
    .skip fun _ => .pure (.dictComprehension hkv.1 hkv.2 (fun c hc => (hcs c hc).target)
      fun c hc => (hcs c hc).evaluated)

/-! ## Atoms and what follows them -/

theorem reads_atom : (atom r).Reads := by
  refine .skip fun t => ?_
  split
  · exact .skip fun _ => .pure (.name _ _ _)
  · exact reads_numberLiteral
  · exact reads_stringLiterals hr
  · split
    · exact .skip fun _ => .pure proper_const
    · exact gives_fail
  · refine .ite (fun _ => ?_) fun _ => .ite (fun _ => ?_) fun _ => .ite (fun _ => ?_) fun _ =>
      .ite (fun _ => ?_) fun _ => gives_fail
    · exact .firstOf_cons (reads_tupleDisplay hr) <| .firstOf_cons (reads_group hr) <|
        .firstOf_cons (reads_generator hr) .firstOf_nil
    · exact .orElse (reads_listDisplay hr) (reads_comprehensionOf hr hr.named)
    · exact .firstOf_cons (reads_dictDisplay hr) <| .firstOf_cons (reads_setDisplay hr) <|
        .firstOf_cons (reads_dictComprehension hr) <|
        .firstOf_cons (reads_comprehensionOf hr hr.named) .firstOf_nil
    · exact .skip fun _ => .pure proper_const
  · exact gives_fail

theorem reads_sliceItem : (sliceItem r).Reads := by
  refine .firstOf_cons ?_ (.firstOf_cons hr.named .firstOf_nil)
  have hoptional := hr.expression.optional
  refine .skip fun _ => hoptional.bind fun _ hl => .skip fun _ => hoptional.bind fun _ hu => ?_
  refine (Gives.optional (.skip fun _ => hoptional)).bind fun o ho => .pure (.plain rfl ?_)
  refine List.forall_mem_append.2 ⟨List.forall_mem_append.2 ⟨proper_toList hl, proper_toList hu⟩,
    proper_toList fun e he => ?_⟩
  obtain ⟨s, hs, he⟩ := Option.mem_bind_iff.1 he
  exact ho s hs e he

theorem reads_slices : (slices r).Reads := by
  refine .skip fun _ => .firstOf_cons ?_ (.firstOf_cons ?_ .firstOf_nil)
  · exact (reads_sliceItem hr).bind fun _ he => .skip fun _ => .pure he
  · exact (Gives.separated (.orElse (reads_sliceItem hr) (reads_starredExpression hr))).bind
      fun _ hes => .skip fun _ => .pure (.display hes)

omit [Vocabulary] hr in
theorem proper_call {p : Position} {f : Expr} {as : CallArguments} (hf : f.Proper .load)
    (has : as.Proper) : Expr.Proper .load (.call p f as.positional as.keywords) :=
  .plain rfl <| List.forall_mem_cons.2 ⟨hf, List.forall_mem_append.2
    ⟨has.positional, List.forall_mem_map.2 has.keywords⟩⟩

theorem reads_trailer (start : Position) {e : Expr} (he : e.Proper .load) :
    (trailer r start e).Reads := by
  refine .firstOf_cons ?_ (.firstOf_cons ?_ (.firstOf_cons ?_ (.firstOf_cons ?_ .firstOf_nil)))
  · exact .skip fun _ => .skip fun _ => .pure (.attr he)
  · exact (reads_generator hr).bind fun _ hg => .pure (proper_call he
      (CallArguments.proper_positional (List.forall_mem_singleton.2 hg)))
  · exact .skip fun _ => (gives_arguments hr).optional.bind fun _ has => .skip fun _ =>
      .pure (proper_call he (getD_of_forall has CallArguments.proper_empty))
  · exact .skip fun _ => (reads_slices hr).bind fun _ hi => .skip fun _ => .pure (.subscript he hi)

theorem reads_primary : (primary r).Reads :=
  Gives.remembered .primary <| .skip fun _ => (reads_atom hr).extended fun _ he =>
    reads_trailer hr _ he

/-! ## Operators -/

theorem reads_awaited : (awaited r).Reads :=
  Gives.remembered .awaited <| .orElse (.skip fun _ => (reads_primary hr).bind fun _ he =>
    .pure (.plain rfl (List.forall_mem_singleton.2 he))) (reads_primary hr)

omit [Vocabulary] hr in
theorem proper_binary {p : Position} {op : BinaryOp} {a b : Expr} (ha : a.Proper .load)
    (hb : b.Proper .load) : Expr.Proper .load (.binary p op a b) :=
  .plain rfl (List.forall_mem_cons.2 ⟨ha, List.forall_mem_singleton.2 hb⟩)

theorem reads_power : (power r).Reads := by
  refine .skip fun _ => (reads_awaited hr).bind fun _ hb => ?_
  refine (Gives.optional (.skip fun _ => hr.factor)).bind fun o ho => ?_
  cases o with
  | some e => exact .pure (proper_binary hb (ho e rfl))
  | none => exact .pure hb

theorem reads_factor : (factor r).Reads := by
  refine Gives.remembered .factor (.skip fun t => ?_)
  split
  · split
    · exact .skip fun _ => hr.factor.bind fun _ he =>
        .pure (.plain rfl (List.forall_mem_singleton.2 he))
    · exact reads_power hr
  · exact reads_power hr

omit hr in
theorem reads_leftChain {rule : Reader.Rule} {ops : List (String × BinaryOp)}
    {operand : Reader Expr} (hrule : rule.use = .load) (h : operand.Reads) :
    (leftChain rule ops operand).Reads := by
  rw [Reads, ← hrule]
  refine Gives.remembered rule ?_
  rw [hrule]
  refine .skip fun _ => h.extended fun l hl => .skip fun t => ?_
  split
  · split
    · exact h.bind fun _ he => .pure (proper_binary hl he)
    · exact gives_fail
  · exact gives_fail

theorem reads_bitOr : (bitOr r).Reads :=
  reads_leftChain rfl <| reads_leftChain rfl <| reads_leftChain rfl <| reads_leftChain rfl <|
    reads_leftChain rfl <| reads_leftChain rfl (reads_factor hr)

theorem gives_comparand : (comparand r).Gives fun c => c.operand.Proper .load := by
  refine .skip fun t => ?_
  split
  · split
    · exact (reads_bitOr hr).bind fun _ he => .pure he
    · exact gives_fail
  · exact (reads_bitOr hr).bind fun _ he => .pure he
  · exact .skip fun _ => (reads_bitOr hr).bind fun _ he => .pure he
  · exact .skip fun _ => (reads_bitOr hr).bind fun _ he => .pure he
  · exact gives_fail

theorem reads_comparison : (comparison r).Reads := by
  refine .skip fun _ => (reads_bitOr hr).bind fun _ hl => (gives_comparand hr).many.bind
    fun rest hrest => .pure ?_
  split
  · exact hl
  · exact .plain rfl (List.forall_mem_cons.2 ⟨hl, List.forall_mem_map.2 hrest⟩)

theorem reads_inversion : (inversion r).Reads := by
  refine Gives.remembered .inversion (.skip fun t => .ite (fun _ => ?_) fun _ =>
    reads_comparison hr)
  exact .skip fun _ => hr.inversion.bind fun _ he =>
    .pure (.plain rfl (List.forall_mem_singleton.2 he))

omit hr in
theorem reads_boolChain {w : String} {op : BoolOp} {operand : Reader Expr} (h : operand.Reads) :
    (boolChain w op operand).Reads := by
  refine .skip fun _ => h.bind fun _ hfirst => (Gives.many (.skip fun _ => h)).bind
    fun rest hrest => .pure ?_
  split
  · exact hfirst
  · exact .plain rfl (List.forall_mem_cons.2 ⟨hfirst, hrest⟩)

theorem reads_conjunction : (conjunction r).Reads :=
  Gives.remembered .conjunction (reads_boolChain (reads_inversion hr))

theorem reads_disjunction : (disjunction r).Reads :=
  Gives.remembered .disjunction (reads_boolChain (reads_conjunction hr))

/-! ## Whole expressions -/

theorem reads_conditional : (conditional r).Reads := by
  refine .skip fun _ => (reads_disjunction hr).bind fun _ hb => .skip fun _ =>
    (reads_disjunction hr).bind fun _ ht => .skip fun _ => hr.expression.bind fun _ ho =>
      .pure (.plain rfl ?_)
  exact List.forall_mem_cons.2 ⟨ht, List.forall_mem_cons.2 ⟨hb, List.forall_mem_singleton.2 ho⟩⟩

theorem reads_expression : (expression r).Reads :=
  Gives.remembered .expression <| .firstOf_cons gives_explaining <|
    .firstOf_cons gives_explaining <| .firstOf_cons (reads_conditional hr) <|
    .firstOf_cons (reads_disjunction hr) <| .firstOf_cons (reads_lambdaExpression hr) .firstOf_nil

theorem reads_namedExpression : (namedExpression r).Reads :=
  .firstOf_cons (reads_assignmentExpression hr) <| .firstOf_cons gives_explaining <|
    .firstOf_cons ((reads_expression hr).bind fun _ he => .skip fun _ => .pure he) .firstOf_nil

theorem reads_starExpression : (starExpression r).Reads :=
  Gives.remembered .starExpression <| .orElse
    (.skip fun _ => (reads_bitOr hr).bind fun _ he => .pure (.starred he)) (reads_expression hr)

omit hr in
/-- One expression, or several as a tuple. -/
theorem reads_tupleOf {p : Reader Expr} (h : p.Reads) : (do
    let start ← here
    let first ← p
    let rest ← many do
      let _ ← mark ","
      p
    let comma ← optional (mark ",")
    return if rest.isEmpty && comma.isNone then first
      else .display start .tuple (first :: rest)).Reads := by
  refine .skip fun _ => h.bind fun _ hfirst => (Gives.many (.skip fun _ => h)).bind
    fun rest hrest => .skip fun _ => .pure ?_
  split
  · exact hfirst
  · exact .display (List.forall_mem_cons.2 ⟨hfirst, hrest⟩)

theorem reads_starExpressions : (starExpressions r).Reads := reads_tupleOf (reads_starExpression hr)

/-! ## Targets -/

omit hr in
instance : Calm targetGoesOn := by unfold targetGoesOn; infer_instance

theorem reads_targetPrimary : (targetPrimary r).Reads := by
  refine Gives.remembered .targetPrimary (.skip fun _ => Gives.extended ?_ fun _ he => ?_)
  · exact (reads_atom hr).bind fun _ he => .skip fun _ => .pure he
  · exact (reads_trailer hr _ he).bind fun _ he => .skip fun _ => .pure he

/-- An attribute or an item can be used in any way. -/
theorem gives_memberTarget (u : NameUse) : (memberTarget r).Gives (Expr.Proper u) := by
  refine .skip fun _ => .firstOf_cons ?_ (.firstOf_cons ?_ .firstOf_nil)
  · exact (reads_targetPrimary hr).bind fun _ he => .skip fun _ => .skip fun _ => .skip fun _ =>
      .pure (.attr he)
  · exact (reads_targetPrimary hr).bind fun _ he => .skip fun _ =>
      (reads_slices hr).bind fun _ hi => .skip fun _ => .skip fun _ => .pure (.subscript he hi)

omit hr in
theorem gives_boundName (u : NameUse) : (boundName u).Gives (Expr.Proper u) :=
  .skip fun _ => .pure (.name _ _ _)

theorem gives_tupleTargets : (tupleTargets r).Gives fun ts => ∀ t ∈ ts, t.Proper .store := by
  refine .firstOf_cons ?_ (.firstOf_cons ?_ .firstOf_nil)
  · exact hr.target.bind fun _ ht => (Gives.manyOne (.skip fun _ => hr.target)).bind fun _ hts =>
      .skip fun _ => .pure (List.forall_mem_cons.2 ⟨ht, hts⟩)
  · exact hr.target.bind fun _ ht => .skip fun _ => .pure (List.forall_mem_singleton.2 ht)

theorem writes_targetAtom : (targetAtom r).Writes := by
  refine Gives.remembered .targetAtom (.firstOf_cons (gives_memberTarget hr .store)
    (.firstOf_cons (gives_boundName .store) (.firstOf_cons ?_ (.firstOf_cons ?_ (.firstOf_cons ?_
      .firstOf_nil)))))
  · exact .skip fun _ => hr.targetAtom.bind fun _ ht => .skip fun _ => .pure ht
  · exact .skip fun _ => (gives_tupleTargets hr).optional.bind fun _ hts => .skip fun _ =>
      .pure (.display (forall_mem_getD hts))
  · refine .skip fun _ => .bind (Gives.optional ?_) fun _ hts => .skip fun _ =>
      .pure (.display (forall_mem_getD hts))
    exact hr.target.separated.bind fun _ hts => .skip fun _ => .pure hts

theorem writes_target : (target r).Writes :=
  Gives.remembered .target <| .orElse (.skip fun _ => .skip fun _ => hr.target.bind fun _ ht =>
    .pure (.starred ht)) (writes_targetAtom hr)

theorem writes_singleTarget (depth : Nat) : (singleTarget r depth).Writes := by
  induction depth with
  | zero => exact gives_fail
  | succ depth ih =>
    refine .firstOf_cons (gives_memberTarget hr .store) (.firstOf_cons (gives_boundName .store)
      (.firstOf_cons ?_ .firstOf_nil))
    exact .skip fun _ => ih.bind fun _ ht => .skip fun _ => .pure ht

theorem gives_deletedTargets :
    (deletedTargets r).Gives fun ts => ∀ t ∈ ts, t.Proper .delete :=
  hr.deleted.separated.bind fun _ hts => .skip fun _ => .pure hts

theorem deletes_deletedTarget : (deletedTarget r).Deletes := by
  have htargets := (gives_deletedTargets hr).optional
  refine Gives.remembered .deleted (.firstOf_cons (gives_memberTarget hr .delete)
    (.firstOf_cons (gives_boundName .delete) (.firstOf_cons ?_ (.firstOf_cons ?_ (.firstOf_cons ?_
      .firstOf_nil)))))
  · exact .skip fun _ => hr.deleted.bind fun _ ht => .skip fun _ => .pure ht
  · exact .skip fun _ => htargets.bind fun _ hts => .skip fun _ =>
      .pure (.display (forall_mem_getD hts))
  · exact .skip fun _ => htargets.bind fun _ hts => .skip fun _ =>
      .pure (.display (forall_mem_getD hts))

/-! ## The knot -/

omit [Vocabulary] hr in
/-- **Expressions are read properly**, at any depth. -/
theorem proper_expressionAt (depth : Nat) : Recur.Proper (expressionAt depth) := by
  induction depth with
  | zero => constructor <;> exact gives_fail
  | succ depth ih =>
    exact {
      expression := reads_expression ih
      named := reads_namedExpression ih
      starExpressions := reads_starExpressions ih
      disjunction := reads_disjunction ih
      inversion := reads_inversion ih
      bitOr := reads_bitOr ih
      factor := reads_factor ih
      target := writes_target ih
      targetAtom := writes_targetAtom ih
      deleted := deletes_deletedTarget ih }

end JumpMacros
