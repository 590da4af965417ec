import JumpMacros.Parse.Expr
import JumpMacros.Proofs.Readers

/-!
# Reading arguments and parameters

The names of an expression that is read are used as their places say if those of its parts are. Here
are the parts that are no expressions themselves: the elements of displays, the arguments of a call,
and parameters.

There is one lemma for each reader. It assumes that nested expressions are read properly
(`Recur.Proper`), which is the invariant of the recursion.
-/

namespace JumpMacros

open Reader

section

variable [Vocabulary]

/-- A reader of expressions that are read. -/
abbrev Reader.Reads (p : Reader Expr) : Prop := p.Gives (Expr.Proper .load)

/-- A reader of expressions that are written. -/
abbrev Reader.Writes (p : Reader Expr) : Prop := p.Gives (Expr.Proper .store)

/-- A reader of expressions that are deleted. -/
abbrev Reader.Deletes (p : Reader Expr) : Prop := p.Gives (Expr.Proper .delete)

end

/-- Nested expressions are read properly. The field of a formatted string is a text of its own, so
the vocabulary does not matter. -/
structure Recur.Proper (r : Recur) : Prop where
  expression : ∀ [Vocabulary], (r .expression).Reads
  named : ∀ [Vocabulary], (r .named).Reads
  starExpressions : ∀ [Vocabulary], (r .starExpressions).Reads
  disjunction : ∀ [Vocabulary], (r .disjunction).Reads
  inversion : ∀ [Vocabulary], (r .inversion).Reads
  bitOr : ∀ [Vocabulary], (r .bitOr).Reads
  factor : ∀ [Vocabulary], (r .factor).Reads
  target : ∀ [Vocabulary], (r .target).Writes
  targetAtom : ∀ [Vocabulary], (r .targetAtom).Writes
  deleted : ∀ [Vocabulary], (r .deleted).Deletes

/-! ## Parts of expressions -/

theorem proper_const {p : Position} {c : Constant} : Expr.Proper .load (.const p c) :=
  .plain rfl (List.forall_mem_nil _)

theorem proper_toList {u : NameUse} {o : Option Expr} (h : ∀ e ∈ o, e.Proper u) :
    ∀ e ∈ o.toList, e.Proper u :=
  fun e he => h e (Option.mem_toList.1 he)

/-- All arguments are read. -/
structure CallArguments.Proper (as : CallArguments) : Prop where
  positional : ∀ e ∈ as.positional, e.Proper .load
  keywords : ∀ k ∈ as.keywords, k.value.Proper .load

namespace CallArguments

theorem proper_empty : CallArguments.empty.Proper :=
  ⟨List.forall_mem_nil _, List.forall_mem_nil _⟩

theorem Proper.append {as bs : CallArguments} (ha : as.Proper) (hb : bs.Proper) :
    (as.append bs).Proper :=
  ⟨List.forall_mem_append.2 ⟨ha.positional, hb.positional⟩,
    List.forall_mem_append.2 ⟨ha.keywords, hb.keywords⟩⟩

theorem proper_join {as : List CallArguments} (h : ∀ a ∈ as, a.Proper) : (join as).Proper := by
  suffices ∀ a : CallArguments, a.Proper → (as.foldl append a).Proper from this _ proper_empty
  induction as with
  | nil => exact fun _ ha => ha
  | cons b as ih =>
    obtain ⟨hb, has⟩ := List.forall_mem_cons.1 h
    exact fun a ha => ih has _ (ha.append hb)

/-- Positional arguments alone. -/
theorem proper_positional {es : List Expr} (h : ∀ e ∈ es, e.Proper .load) :
    CallArguments.Proper ⟨es, []⟩ :=
  ⟨h, List.forall_mem_nil _⟩

/-- A single keyword argument. -/
theorem proper_keyword {k : Keyword} (h : k.value.Proper .load) : CallArguments.Proper ⟨[], [k]⟩ :=
  ⟨List.forall_mem_nil _, List.forall_mem_singleton.2 h⟩

end CallArguments

/-- The annotation and the default value of a parameter are read. -/
structure Param.Proper (p : Param) : Prop where
  note : ∀ e ∈ p.note, e.Proper .load
  default : ∀ e ∈ p.default, e.Proper .load

theorem proper_withDefault {p : Param} {d : Option Expr} (hp : p.Proper)
    (hd : ∀ e ∈ d, e.Proper .load) : (withDefault p d).Proper := by
  obtain ⟨pos, n, note, _⟩ := p
  exact ⟨hp.note, hd⟩

structure ParamTail.Proper (t : ParamTail) : Prop where
  rest : ∀ p ∈ t.rest, p.Proper
  keywordOnly : ∀ p ∈ t.keywordOnly, p.Proper
  keywordRest : ∀ p ∈ t.keywordRest, p.Proper

theorem ParamTail.proper_empty : ParamTail.empty.Proper :=
  ⟨forall_mem_none, List.forall_mem_nil _, forall_mem_none⟩

def Params.Proper (ps : Params) : Prop := ∀ e ∈ ps.exprs, e.Proper .load

theorem ParamTail.Proper.after {t : ParamTail} {po ps : List Param} (ht : t.Proper)
    (hpo : ∀ p ∈ po, p.Proper) (hps : ∀ p ∈ ps, p.Proper) : (t.after po ps).Proper := by
  have hall : ∀ p ∈ (t.after po ps).toList, p.Proper := by
    simp only [ParamTail.after, Params.toList, List.forall_mem_append, Option.mem_toList]
    exact ⟨⟨⟨⟨hpo, hps⟩, ht.rest⟩, ht.keywordOnly⟩, ht.keywordRest⟩
  intro e he
  obtain ⟨p, hp, he⟩ := List.mem_flatMap.1 he
  obtain ⟨pos, n, note, d⟩ := p
  simp only [Param.exprs, List.mem_append, Option.mem_toList] at he
  rcases he with he | he
  · exact (hall _ hp).note e he
  · exact (hall _ hp).default e he

theorem Params.proper_empty : Params.empty.Proper := List.forall_mem_nil _

def Entry.Proper (x : Entry) : Prop := ∀ e ∈ x.exprs, e.Proper .load

variable [Vocabulary] {r : Recur} (hr : r.Proper)
include hr

/-! ## Elements of displays and arguments -/

theorem reads_assignmentExpression : (assignmentExpression r).Reads :=
  .skip fun _ => .skip fun _ => hr.expression.bind fun _ he => .pure (.named (.name _ _ _) he)

theorem reads_unassigned : (unassigned r).Reads :=
  hr.expression.bind fun _ he => .skip fun _ => .pure he

theorem reads_starredExpression : (starredExpression r).Reads :=
  .skip fun _ => hr.expression.bind fun _ he => .pure (.starred he)

theorem reads_starNamedExpression : (starNamedExpression r).Reads :=
  .orElse (.skip fun _ => hr.bitOr.bind fun _ he => .pure (.starred he)) hr.named

theorem gives_starNamedExpressions :
    (starNamedExpressions r).Gives fun es => ∀ e ∈ es, e.Proper .load :=
  (Gives.separated (reads_starNamedExpression hr)).bind fun _ hes => .skip fun _ => .pure hes

theorem writes_starTargets : (starTargets r).Writes := by
  refine .skip fun _ => .firstOf_cons ?_ (.firstOf_cons ?_ .firstOf_nil)
  · exact hr.target.bind fun _ ht => .skip fun _ => .pure ht
  · exact (Gives.separated hr.target).bind fun _ hts => .skip fun _ => .pure (.display hts)

theorem gives_clause : (clause r).Gives Clause.Proper := by
  refine .bind (Q := fun o => ∀ x ∈ o, x.2.Proper .store) (.optional ?_) fun o ho => ?_
  · exact .skip fun _ => .skip fun _ => (writes_starTargets hr).bind fun _ ht =>
      .skip fun _ => .pure ht
  · cases o with
    | none => exact gives_explaining
    | some x =>
      exact hr.disjunction.bind fun _ hi => (Gives.many (.skip fun _ => hr.disjunction)).bind
        fun _ hcs => .pure ⟨ho x rfl, List.forall_mem_cons.2 ⟨hi, hcs⟩⟩

theorem gives_clauses : (clauses r).Gives fun cs => ∀ c ∈ cs, c.Proper := (gives_clause hr).manyOne

theorem gives_keywordArgument : (keywordArgument r).Gives CallArguments.Proper :=
  .skip fun _ => .skip fun _ => hr.expression.bind fun _ he =>
    .pure (CallArguments.proper_keyword he)

theorem gives_keywordOrStarred : (keywordOrStarred r).Gives CallArguments.Proper := by
  refine .firstOf_cons gives_explaining (.firstOf_cons (gives_keywordArgument hr)
    (.firstOf_cons ?_ .firstOf_nil))
  exact (reads_starredExpression hr).bind fun _ he =>
    .pure (CallArguments.proper_positional (List.forall_mem_singleton.2 he))

theorem gives_keywordOrSpread : (keywordOrSpread r).Gives CallArguments.Proper := by
  refine .firstOf_cons gives_explaining (.firstOf_cons (gives_keywordArgument hr)
    (.firstOf_cons ?_ .firstOf_nil))
  exact .skip fun _ => hr.expression.bind fun _ he =>
    .pure (CallArguments.proper_keyword he)

theorem gives_keywordArguments : (keywordArguments r).Gives CallArguments.Proper := by
  have hstarred := Gives.separated (m := ",") (gives_keywordOrStarred hr)
  have hspread := Gives.separated (m := ",") (gives_keywordOrSpread hr)
  refine .firstOf_cons ?_ (.firstOf_cons ?_ (.firstOf_cons ?_ .firstOf_nil))
  · exact hstarred.bind fun _ has => .skip fun _ => hspread.bind fun _ hbs =>
      .pure (CallArguments.proper_join (List.forall_mem_append.2 ⟨has, hbs⟩))
  · exact hstarred.map fun _ => CallArguments.proper_join
  · exact hspread.map fun _ => CallArguments.proper_join

theorem reads_positionalArgument : (positionalArgument r).Reads := by
  refine .orElse (reads_starredExpression hr) ?_
  exact (Gives.orElse (reads_assignmentExpression hr) (reads_unassigned hr)).bind fun _ he =>
    .skip fun _ => .pure he

theorem gives_plainArguments : (plainArguments r).Gives CallArguments.Proper := by
  refine .orElse ?_ (gives_keywordArguments hr)
  refine (Gives.separated (reads_positionalArgument hr)).bind fun ps hps => ?_
  refine (Gives.optional (.skip fun _ => gives_keywordArguments hr)).bind fun ks hks => .pure ?_
  exact (CallArguments.proper_positional hps).append (getD_of_forall hks CallArguments.proper_empty)

theorem gives_arguments : (arguments r).Gives CallArguments.Proper := by
  refine .orElse ?_ gives_explaining
  exact (gives_plainArguments hr).bind fun _ has => .skip fun _ => .skip fun _ => .pure has

/-! ## Parameters -/

theorem gives_param (style : ParamStyle) : (param r style).Gives Param.Proper := by
  refine .skip fun _ => ?_
  cases style with
  | lambda =>
    exact .pure ⟨forall_mem_none, forall_mem_none⟩
  | function =>
    exact (Gives.optional (.skip fun _ => hr.expression)).bind fun _ hn =>
      .pure ⟨hn, forall_mem_none⟩

theorem gives_starNotedParam : (starNotedParam r).Gives Param.Proper := by
  refine .skip fun _ => .skip fun _ => .skip fun _ => hr.bitOr.bind fun _ he => .pure ?_
  exact ⟨forall_mem_some (.starred he), forall_mem_none⟩

omit hr in
instance (style : ParamStyle) : Calm (paramEnd style) := by unfold paramEnd; infer_instance

theorem reads_paramDefault : (paramDefault r).Reads :=
  .orElse (.skip fun _ => hr.expression) gives_explaining

theorem gives_plainParam (style : ParamStyle) : (plainParam r style).Gives Param.Proper :=
  (gives_param hr style).bind fun _ hp => .skip fun _ => .pure hp

theorem gives_defaultParam (style : ParamStyle) : (defaultParam r style).Gives Param.Proper := by
  refine (gives_param hr style).bind fun _ hp => (reads_paramDefault hr).bind fun _ hd =>
    .skip fun _ => .pure (proper_withDefault hp ?_)
  exact forall_mem_some hd

theorem gives_anyParam (style : ParamStyle) : (anyParam r style).Gives Param.Proper :=
  (gives_param hr style).bind fun _ hp => (reads_paramDefault hr).optional.bind fun _ hd =>
    .skip fun _ => .pure (proper_withDefault hp hd)

theorem gives_keywordRestParam (style : ParamStyle) :
    (keywordRestParam r style).Gives Param.Proper :=
  .firstOf_cons gives_explaining <| .firstOf_cons gives_explaining <|
    .firstOf_cons gives_explaining <|
    .firstOf_cons (.skip fun _ => gives_plainParam hr style) .firstOf_nil

theorem gives_afterStar (style : ParamStyle) {rest : Param} (h : rest.Proper) :
    (afterStar r style rest).Gives ParamTail.Proper :=
  (gives_anyParam hr style).many.bind fun _ hks =>
    (gives_keywordRestParam hr style).optional.bind fun _ hk =>
      .pure ⟨forall_mem_some h, hks, hk⟩

theorem gives_starParams (style : ParamStyle) : (starParams r style).Gives ParamTail.Proper := by
  refine .firstOf_cons gives_explaining (.firstOf_cons ?_ (.firstOf_cons ?_ (.firstOf_cons ?_
    (.firstOf_cons ?_ .firstOf_nil))))
  · exact .skip fun _ => (gives_plainParam hr style).bind fun _ hp => gives_afterStar hr style hp
  · exact .ite (fun _ => .stop gives_fail) fun _ => .skip fun _ =>
      (gives_starNotedParam hr).bind fun _ hp => .skip fun _ => gives_afterStar hr style hp
  · exact .skip fun _ => .skip fun _ => (gives_anyParam hr style).manyOne.bind fun _ hks =>
      (gives_keywordRestParam hr style).optional.bind fun _ hk =>
        .pure ⟨forall_mem_none, hks, hk⟩
  · exact (gives_keywordRestParam hr style).bind fun _ hk =>
      .pure ⟨forall_mem_none, List.forall_mem_nil _, forall_mem_some hk⟩

omit hr in
instance (style : ParamStyle) : Calm (slash style) := by unfold slash; infer_instance

theorem gives_plainSlash (style : ParamStyle) :
    (plainSlash r style).Gives fun ps => ∀ p ∈ ps, p.Proper :=
  (gives_plainParam hr style).manyOne.bind fun _ hps => .skip fun _ => .pure hps

theorem gives_defaultSlash (style : ParamStyle) :
    (defaultSlash r style).Gives fun ps => ∀ p ∈ ps, p.Proper :=
  (gives_plainParam hr style).many.bind fun _ hps =>
    (gives_defaultParam hr style).manyOne.bind fun _ hds => .skip fun _ =>
      .pure (List.forall_mem_append.2 ⟨hps, hds⟩)

theorem gives_params (style : ParamStyle) : (params r style).Gives Params.Proper := by
  have hplain := gives_plainParam hr style
  have hdefault := gives_defaultParam hr style
  have hnone : ∀ p ∈ ([] : List Param), p.Proper := List.forall_mem_nil _
  have htail : (return (← optional (starParams r style)).getD .empty : Reader ParamTail).Gives
      ParamTail.Proper :=
    (gives_starParams hr style).optional.bind fun _ ht =>
      .pure (getD_of_forall ht ParamTail.proper_empty)
  refine .firstOf_cons gives_explaining (.firstOf_cons ?_ (.firstOf_cons ?_ (.firstOf_cons ?_
    (.firstOf_cons ?_ (.firstOf_cons ?_ .firstOf_nil)))))
  · exact (gives_plainSlash hr style).bind fun _ hpo => hplain.many.bind fun _ hps =>
      hdefault.many.bind fun _ hds => htail.bind fun _ ht =>
        .pure (ht.after hpo (List.forall_mem_append.2 ⟨hps, hds⟩))
  · exact (gives_defaultSlash hr style).bind fun _ hpo => hdefault.many.bind fun _ hds =>
      htail.bind fun _ ht => .pure (ht.after hpo hds)
  · exact hplain.manyOne.bind fun _ hps => hdefault.many.bind fun _ hds =>
      htail.bind fun _ ht => .pure (ht.after hnone (List.forall_mem_append.2 ⟨hps, hds⟩))
  · exact hdefault.manyOne.bind fun _ hds => htail.bind fun _ ht => .pure (ht.after hnone hds)
  · exact (gives_starParams hr style).bind fun _ ht => .pure (ht.after hnone hnone)

theorem reads_lambdaExpression : (lambdaExpression r).Reads := by
  refine .skip fun _ => (gives_params hr .lambda).optional.bind fun _ hps => .skip fun _ =>
    hr.expression.bind fun _ he => .pure (.plain rfl ?_)
  exact List.forall_mem_append.2 ⟨getD_of_forall hps Params.proper_empty,
    List.forall_mem_singleton.2 he⟩

end JumpMacros
