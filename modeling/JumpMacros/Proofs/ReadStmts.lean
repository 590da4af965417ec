import JumpMacros.Parse.Module
import JumpMacros.Proofs.ReadExprs

/-!
# Reading proper modules

**Theorem (`Module.parse_read`).** The module of a source text holds only what could have been read
with the names of its tokens. In particular names are used as their places say
(`Module.parse_proper`).

The readers of patterns and of statements are shown to give proper trees, one by one, as those of
expressions are. Patterns and blocks nest, and the lemmas assume that what is nested is read
properly (`Readers.Proper`). Only imports depend on the vocabulary.
-/

namespace JumpMacros

open Reader
open Vocabulary (Joins)

section

variable [Vocabulary]

/-! ## Patterns -/

namespace Pattern

theorem reads_signedNumber : signedNumber.Reads := by
  refine .skip fun _ => .skip fun o => ?_
  cases o with
  | some t =>
    exact reads_numberLiteral.bind fun _ he => .pure (.plain rfl (List.forall_mem_singleton.2 he))
  | none => exact reads_numberLiteral

theorem reads_complexNumber : complexNumber.Reads := by
  refine .skip fun _ => .skip fun minus => reads_numberLiteral.bind fun re hre => ?_
  refine .ite (fun _ => .stop gives_raiseAt) fun _ => .skip fun _ =>
    reads_numberLiteral.bind fun im him => ?_
  refine .ite (fun _ => .stop gives_raiseAt) fun _ => .pure (proper_binary ?_ him)
  cases minus with
  | some t => exact .plain rfl (List.forall_mem_singleton.2 hre)
  | none => exact hre

instance : Calm constant := by
  unfold constant
  refine ⟨.skip fun t => ?_⟩
  split
  · split
    · exact .pure trivial
    · exact gives_fail
  · exact gives_fail

instance : Calm nameGoesOn := by unfold nameGoesOn; infer_instance

instance : Calm captureTarget := by unfold captureTarget; infer_instance

instance : Calm restTarget := by unfold restTarget; infer_instance

theorem reads_member : member.Reads := by
  have hstep (p : Position) (e : Expr) (he : e.Proper .load) : (do
      let _ ← mark "."
      return Expr.attr p e (← name)).Reads :=
    .skip fun _ => .skip fun _ => .pure (.attr he)
  exact .skip fun x => (hstep x.2 _ (.name _ _ _)).bind fun _ he => .skip fun _ =>
    .extend (hstep x.2) _ he

theorem reads_nameOrMember : nameOrMember.Reads := reads_member.orElse (gives_boundName .load)

omit [Vocabulary] in
/-- A pattern without expressions. -/
theorem proper_of_children {q : Pattern} (he : q.exprs = []) (hp : ∀ p ∈ q.children, p.Proper) :
    q.Proper :=
  .mk (he ▸ List.forall_mem_nil _) hp

omit [Vocabulary] in
/-- A pattern without patterns in it. -/
theorem proper_of_exprs {q : Pattern} (he : ∀ e ∈ q.exprs, e.Proper .load) (hp : q.children = []) :
    q.Proper :=
  .mk he (hp ▸ List.forall_mem_nil _)

theorem gives_starPattern : starPattern.Gives Pattern.Proper := by
  have hstar (p : Position) (n : Option String) : (Pattern.star p n).Proper :=
    proper_of_children rfl (List.forall_mem_nil _)
  refine .skip fun t => .firstOf_cons ?_ (.firstOf_cons ?_ .firstOf_nil)
  · exact .skip fun _ => .pure (hstar _ _)
  · exact .skip fun _ => .pure (hstar _ _)

section

variable {r : Recur} {p : Reader Pattern} (hr : r.Proper) (hp : p.Gives Pattern.Proper)

include hr in
theorem reads_literalValue : (Pattern.literalValue r).Reads :=
  .firstOf_cons (reads_signedNumber.bind fun _ he => .skip fun _ => .pure he) <|
    .firstOf_cons reads_complexNumber <| .firstOf_cons (reads_stringLiterals hr) .firstOf_nil

include hp

theorem gives_sequenceItem : (sequenceItem p).Gives Pattern.Proper := gives_starPattern.orElse hp

theorem gives_sequenceItems : (sequenceItems p).Gives fun qs => ∀ q ∈ qs, q.Proper :=
  (gives_sequenceItem hp).separated.bind fun _ hqs => .skip fun _ => .pure hqs

theorem gives_openItems : (openItems p).Gives fun qs => ∀ q ∈ qs, q.Proper :=
  (gives_sequenceItem hp).bind fun _ hq => .skip fun _ =>
    (gives_sequenceItems hp).optional.bind fun _ hqs =>
      .pure (List.forall_mem_cons.2 ⟨hq, forall_mem_getD hqs⟩)

theorem gives_sequencePattern : (sequencePattern p).Gives Pattern.Proper := by
  refine .firstOf_cons ?_ (.firstOf_cons ?_ .firstOf_nil)
  · exact .skip fun _ => (gives_sequenceItems hp).optional.bind fun _ hqs => .skip fun _ =>
      .pure (proper_of_children rfl (forall_mem_getD hqs))
  · exact .skip fun _ => (gives_openItems hp).optional.bind fun _ hqs => .skip fun _ =>
      .pure (proper_of_children rfl (forall_mem_getD hqs))

include hr in
theorem gives_keyPattern :
    (keyPattern r p).Gives fun x => x.1.Proper .load ∧ x.2.Proper := by
  refine .bind (Gives.firstOf_cons (reads_literalValue hr) (.firstOf_cons ?_
    (.firstOf_cons reads_member .firstOf_nil))) fun _ hkey => .skip fun _ => hp.bind fun _ hq =>
      .pure ⟨hkey, hq⟩
  exact .skip fun _ => .pure proper_const

include hr in
theorem gives_mappingPattern : (mappingPattern r p).Gives Pattern.Proper := by
  have hdone (pos : Position) (items : List (Expr × Pattern)) (rest : Option String)
      (h : ∀ x ∈ items, x.1.Proper .load ∧ x.2.Proper) :
      (Pattern.mapping pos (items.map Prod.fst) (items.map Prod.snd) rest).Proper :=
    .mk (List.forall_mem_map.2 fun x hx => (h x hx).1)
      (List.forall_mem_map.2 fun x hx => (h x hx).2)
  have hnone : ∀ x ∈ ([] : List (Expr × Pattern)), x.1.Proper .load ∧ x.2.Proper :=
    List.forall_mem_nil _
  have hitems := (gives_keyPattern hr hp).separated (m := ",")
  refine .skip fun t => .firstOf_cons ?_ (.firstOf_cons ?_ (.firstOf_cons ?_ (.firstOf_cons ?_
    .firstOf_nil)))
  · exact .skip fun _ => .pure (hdone _ [] _ hnone)
  · exact .skip fun _ => .skip fun _ => .skip fun _ => .pure (hdone _ [] _ hnone)
  · exact hitems.bind fun _ h => .skip fun _ => .skip fun _ => .skip fun _ => .skip fun _ =>
      .pure (hdone _ _ _ h)
  · exact hitems.bind fun _ h => .skip fun _ => .skip fun _ => .pure (hdone _ _ _ h)

theorem gives_keyword : (keyword p).Gives fun x => x.2.Proper :=
  .skip fun _ => .skip fun _ => hp.bind fun _ hq => .pure hq

theorem gives_classPattern : (classPattern p).Gives Pattern.Proper := by
  have hdone (pos : Position) {cls : Expr} {ps : List Pattern} {ks : List (String × Pattern)}
      (hc : cls.Proper .load) (hps : ∀ q ∈ ps, q.Proper) (hks : ∀ x ∈ ks, x.2.Proper) :
      (Pattern.klass pos cls ps (ks.map Prod.fst) (ks.map Prod.snd)).Proper :=
    .mk (List.forall_mem_singleton.2 hc)
      (List.forall_mem_append.2 ⟨hps, List.forall_mem_map.2 hks⟩)
  have hopened : (do
      let cls ← nameOrMember
      let _ ← mark "("
      return cls).Reads :=
    reads_nameOrMember.bind fun _ hc => .skip fun _ => .pure hc
  have hkeywords := (gives_keyword hp).separated (m := ",")
  have hpatterns := hp.separated (m := ",")
  refine .skip fun start => .firstOf_cons ?_ (.firstOf_cons ?_ (.firstOf_cons ?_ (.firstOf_cons ?_
    (.firstOf_cons gives_explaining .firstOf_nil))))
  · exact hopened.bind fun _ hc => .skip fun _ => .pure (hdone _ hc
      (List.forall_mem_nil _) (List.forall_mem_nil _))
  · exact hopened.bind fun _ hc => hpatterns.bind fun _ hps => .skip fun _ =>
      .pure (hdone _ hc hps (List.forall_mem_nil _))
  · exact hopened.bind fun _ hc => hkeywords.bind fun _ hks => .skip fun _ =>
      .pure (hdone _ hc (List.forall_mem_nil _) hks)
  · exact hopened.bind fun _ hc => hpatterns.bind fun _ hps => .skip fun _ =>
      hkeywords.bind fun _ hks => .skip fun _ => .pure (hdone _ hc hps hks)

include hr

theorem gives_closed : (closed r p).Gives Pattern.Proper := by
  have hcapture (pos : Position) (n : Option String) : (Pattern.capture pos n).Proper :=
    proper_of_children rfl (List.forall_mem_nil _)
  refine Gives.rememberedPattern (.skip fun start => .firstOf_cons ?_ (.firstOf_cons ?_
    (.firstOf_cons ?_ (.firstOf_cons ?_ (.firstOf_cons ?_ (.firstOf_cons ?_
    (.firstOf_cons (gives_sequencePattern hp) (.firstOf_cons (gives_mappingPattern hr hp)
    (.firstOf_cons (gives_classPattern hp) .firstOf_nil)))))))))
  · exact (reads_literalValue hr).bind fun _ he =>
      .pure (proper_of_exprs (List.forall_mem_singleton.2 he) rfl)
  · exact .skip fun _ => .pure (proper_of_children rfl (List.forall_mem_nil _))
  · exact .skip fun _ => .pure (hcapture _ _)
  · exact .skip fun _ => .pure (hcapture _ _)
  · exact reads_member.bind fun _ he => .skip fun _ =>
      .pure (proper_of_exprs (List.forall_mem_singleton.2 he) rfl)
  · exact .skip fun _ => hp.bind fun _ hq => .skip fun _ => .pure hq

theorem gives_alternation : (alternation r p).Gives Pattern.Proper := by
  refine .skip fun start => (gives_closed hr hp).separated.bind fun qs hqs => ?_
  split
  · exact .pure (List.forall_mem_singleton.1 hqs)
  · exact .pure (proper_of_children rfl hqs)

theorem gives_withName : (withName r p).Gives Pattern.Proper := by
  refine .skip fun start => (gives_alternation hr hp).bind fun q hq => .firstOf_cons ?_
    (.firstOf_cons gives_explaining (.firstOf_cons gives_explaining
      (.firstOf_cons (.pure hq) .firstOf_nil)))
  exact .skip fun _ => .skip fun _ =>
    .pure (proper_of_children rfl (List.forall_mem_singleton.2 hq))

omit hp in
theorem gives_readAt (depth : Nat) : (readAt r depth).Gives Pattern.Proper := by
  induction depth with
  | zero => exact gives_fail
  | succ depth ih => exact gives_withName hr ih

omit hr in
theorem gives_top : (top p).Gives Pattern.Proper :=
  .skip fun _ => .orElse ((gives_openItems hp).bind fun _ hqs =>
    .pure (proper_of_children rfl hqs)) hp

end

end Pattern

/-! ## Simple statements -/

section

variable {r : Recur} (hr : r.Proper)

instance (start : Position) : Calm (spanFrom start) where
  gives := by
    intro tokens s t r ht hs hr
    obtain ⟨rfl, rfl⟩ := Prod.mk.inj hr
    exact ⟨hs, fun _ _ => trivial⟩

instance : Calm augmentation := by
  unfold augmentation
  refine ⟨.skip fun t => ?_⟩
  split
  · split
    · exact .pure trivial
    · exact gives_fail
  · exact gives_fail

include hr

theorem reads_assignedValue : (assignedValue r).Reads :=
  (reads_yieldExpression hr).orElse (reads_starExpressions hr)

theorem gives_annotation (bare : Bool) {t : Expr} (ht : t.Proper .store) :
    ( annotation r bare t).Gives Simple.Read :=
  .skip fun _ => (reads_expression hr).bind fun _ hn =>
    (Gives.optional (.skip fun _ => reads_assignedValue hr)).bind fun _ hv =>
      .pure ⟨⟨ht, hn, hv⟩, trivial⟩

theorem writes_assignedTargets : (assignedTargets r).Writes :=
  (writes_starTargets hr).bind fun _ ht => .skip fun _ => .pure ht

theorem gives_assignment (depth : Nat) : (assignment r depth).Gives Simple.Read := by
  refine .bind (Q := fun o => ∀ s ∈ o, Simple.Read s) (.optional (.orElse (.orElse ?_ ?_) ?_))
    fun o ho => ?_
  · exact (gives_boundName .store).bind fun _ ht => gives_annotation hr true ht
  · refine .bind (Gives.orElse ?_ (gives_memberTarget hr .store)) fun _ ht =>
      gives_annotation hr false ht
    exact .skip fun _ => (writes_singleTarget hr depth).bind fun _ ht => .skip fun _ => .pure ht
  · exact (writes_assignedTargets hr).manyOne.bind fun _ hts =>
      (reads_assignedValue hr).bind fun _ hv => .skip fun _ => .pure ⟨⟨hts, hv⟩, trivial⟩
  cases o with
  | some s => exact .pure (ho s rfl)
  | none =>
    refine .bind (Q := fun o => ∀ x ∈ o, x.1.Proper .store) (.optional ?_) fun o ho => ?_
    · exact (writes_singleTarget hr depth).bind fun _ ht => .skip fun _ => .pure ht
    cases o with
    | some x => exact (reads_assignedValue hr).bind fun _ hv => .pure ⟨⟨ho x rfl, hv⟩, trivial⟩
    | none => exact gives_explaining

omit hr

theorem gives_dottedName : dottedName.Gives fun x => Joins x.1 := by
  have hrest : (do
      let _ ← mark "."
      name).Gives Vocabulary.knows := .skip fun _ => gives_name
  exact gives_placedName.bind fun x hx => hrest.many.bind fun ns hns =>
    .pure ⟨x.1, ns, List.forall_mem_cons.2 ⟨hx, hns⟩, rfl⟩

theorem gives_importAlias {path : Reader (String × Position)} {P : String → Prop}
    (h : path.Gives fun x => P x.1) : (importAlias path).Gives fun a => P a.name :=
  h.bind fun _ hx => .skip fun _ => .pure hx

instance (path : Reader (String × Position)) [Calm path] : Calm (importAlias path) := by
  unfold importAlias
  infer_instance

instance : Calm importDots := by unfold importDots; infer_instance

instance : Calm importedNames := by
  unfold importedNames
  exact ⟨.firstOf_cons Calm.gives <| .firstOf_cons Calm.gives <| .firstOf_cons Calm.gives <|
    .firstOf_cons Calm.gives .firstOf_nil⟩

omit [Vocabulary] in
/-- A simple statement without expressions. -/
theorem Simple.proper_of_exprs {s : Simple} (h : s.exprs = []) : s.Proper := by
  have hnone : ∀ e ∈ s.exprs, e.Proper .load := h ▸ List.forall_mem_nil _
  cases s with
  | assign ts v => simp [Simple.exprs] at h
  | augmented t op v => cases h
  | annotated t n v bare => cases h
  | deletes ts =>
    obtain rfl : ts = [] := h
    exact List.forall_mem_nil _
  | _ => exact hnone

/-- A simple statement without expressions that imports only what the vocabulary names. -/
theorem Simple.read_of_exprs {s : Simple} (h : s.exprs = []) (hi : s.ImportsKnown) : s.Read :=
  ⟨Simple.proper_of_exprs h, hi⟩

theorem gives_importFrom : importFrom.Gives Simple.Read := by
  refine .firstOf_cons ?_ (.firstOf_cons ?_ .firstOf_nil)
  · exact .skip fun _ => .skip fun _ => gives_dottedName.bind fun _ hpath => .skip fun _ =>
      .skip fun _ => .pure (Simple.read_of_exprs rfl hpath)
  · exact .skip fun _ => .skip fun _ => .skip fun _ => .skip fun _ =>
      .pure (Simple.read_of_exprs rfl trivial)

include hr

theorem gives_deletion : (deletion r).Gives Simple.Read := by
  refine .firstOf_cons ?_ (.firstOf_cons gives_explaining .firstOf_nil)
  exact .skip fun _ => (gives_deletedTargets hr).bind fun _ hts => .skip fun _ =>
    .pure ⟨hts, trivial⟩

theorem gives_wordStatement (w : String) : (wordStatement r w).Gives Simple.Read := by
  unfold wordStatement
  -- One case for each word, in the order of the definition.
  split
  · exact .skip fun _ => (reads_starExpressions hr).optional.bind fun _ he =>
      .pure ⟨proper_toList he, trivial⟩
  · exact .skip fun _ => (gives_importAlias gives_dottedName).separated.bind fun _ has =>
      .pure (Simple.read_of_exprs rfl has)
  · exact gives_importFrom
  · refine .skip fun _ => (reads_expression hr).optional.bind fun e he => ?_
    apply Gives.join (Q := fun cause : Option Expr => ∀ e ∈ cause, e.Proper .load)
    · intro h
      refine .ite (fun _ => ?_) fun _ => .then h forall_mem_none
      exact .bind (Gives.optional (.skip fun _ => reads_expression hr)) h
    · exact fun cause hcause =>
        .pure ⟨List.forall_mem_append.2 ⟨proper_toList he, proper_toList hcause⟩, trivial⟩
  · exact .skip fun _ => .pure (Simple.read_of_exprs rfl trivial)
  · exact gives_deletion hr
  · exact (reads_yieldExpression hr).bind fun _ he =>
      .pure ⟨List.forall_mem_singleton.2 he, trivial⟩
  · exact .skip fun _ => (reads_expression hr).bind fun _ ht =>
      (Gives.optional (.skip fun _ => reads_expression hr)).bind fun _ hm =>
        .pure ⟨List.forall_mem_cons.2 ⟨ht, proper_toList hm⟩, trivial⟩
  · exact .skip fun _ => .pure (Simple.read_of_exprs rfl trivial)
  · exact .skip fun _ => .pure (Simple.read_of_exprs rfl trivial)
  · exact .skip fun _ => .skip fun _ => .pure (Simple.read_of_exprs rfl trivial)
  · exact .skip fun _ => .skip fun _ => .pure (Simple.read_of_exprs rfl trivial)
  · exact gives_fail

end

/-! ## Blocks -/

/-- All statements of a block could have been read. -/
def ProperBlock (b : List (Stmt Empty)) : Prop := ∀ st ∈ b, st.Read

theorem properBlock_flatten {bs : List (List (Stmt Empty))} (h : ∀ b ∈ bs, ProperBlock b) :
    ProperBlock bs.flatten := by
  intro st hst
  obtain ⟨b, hb, hst⟩ := List.mem_flatten.1 hst
  exact h b hb st hst

/-- Nested expressions, patterns and statements are read properly. -/
structure Readers.Proper (rs : Readers) : Prop where
  exprs : rs.exprs.Proper
  pattern : rs.pattern.Gives Pattern.Proper
  statement : rs.statement.Gives ProperBlock

instance : Calm indentToken := by unfold indentToken; infer_instance

section

variable {rs : Readers} (hrs : rs.Proper)
include hrs

theorem gives_simpleStatement : (simpleStatement rs).Gives Stmt.Read := by
  refine .skip fun t => .bind (Q := Simple.Read) ?_ fun s hs => .skip fun _ => .pure (.simple hs)
  refine .firstOf_cons (gives_assignment hrs.exprs _) (.firstOf_cons ?_ (.firstOf_cons ?_
    .firstOf_nil))
  · exact (reads_starExpressions hrs.exprs).bind fun _ he =>
      .pure ⟨List.forall_mem_singleton.2 he, trivial⟩
  · split
    · exact gives_wordStatement hrs.exprs _
    · exact gives_fail

theorem gives_simpleStatements : (simpleStatements rs).Gives ProperBlock :=
  (gives_simpleStatement hrs).separated.bind fun _ hss => .skip fun _ => .skip fun _ => .pure hss

theorem gives_block : (block rs).Gives ProperBlock := by
  refine Gives.rememberedBlock (.firstOf_cons ?_ (.firstOf_cons (gives_simpleStatements hrs)
    (.firstOf_cons gives_explaining .firstOf_nil)))
  exact .skip fun _ => .skip fun _ => hrs.statement.manyOne.bind fun _ hbs => .skip fun _ =>
    .pure (properBlock_flatten hbs)

theorem gives_neededSuite : (neededSuite rs).Gives ProperBlock := .skip fun _ => gives_block hrs

theorem gives_suite : (suite rs).Gives ProperBlock := .skip fun _ => gives_block hrs

theorem gives_elseBlock : (elseBlock rs).Gives ProperBlock :=
  .skip fun _ => .firstOf_cons gives_explaining <|
    .firstOf_cons (.skip fun _ => gives_neededSuite hrs) .firstOf_nil

theorem gives_optionalElse : (optionalElse rs).Gives ProperBlock :=
  (gives_elseBlock hrs).optional.bind fun _ hb => .pure (forall_mem_getD hb)

/-! ## Compound statements -/

theorem gives_arm (w : String) :
    (arm rs w).Gives fun a => a.test.Proper .load ∧ ProperBlock a.body := by
  refine .skip fun _ => .firstOf_cons gives_explaining (.firstOf_cons ?_ .firstOf_nil)
  refine .bind (Q := Expr.Proper .load) (.skip fun _ => reads_namedExpression hrs.exprs) fun _ ht =>
    ?_
  exact (gives_suite hrs).bind fun _ hb => .pure ⟨ht, hb⟩

omit hrs in
theorem proper_nestArms (stop : Position) {orelse : List (Stmt Empty)} {arms : List Arm}
    (ho : ProperBlock orelse) (h : ∀ a ∈ arms, a.test.Proper .load ∧ ProperBlock a.body) :
    ProperBlock (nestArms stop orelse arms) := by
  induction arms with
  | nil => exact ho
  | cons a arms ih =>
    obtain ⟨ha, harms⟩ := List.forall_mem_cons.1 h
    exact List.forall_mem_singleton.2 (.branch ha.1 ha.2 (ih harms))

theorem gives_ifStatement : (ifStatement rs).Gives ProperBlock :=
  (gives_arm hrs "if").bind fun _ hfirst => (gives_arm hrs "elif").many.bind fun _ hmore =>
    (gives_optionalElse hrs).bind fun _ ho => .skip fun _ =>
      .pure (proper_nestArms _ ho (List.forall_mem_cons.2 ⟨hfirst, hmore⟩))

theorem gives_whileStatement : (whileStatement rs).Gives Stmt.Read := by
  refine .skip fun _ => .firstOf_cons gives_explaining (.firstOf_cons ?_ .firstOf_nil)
  refine .bind (Q := Expr.Proper .load) (.skip fun _ => reads_namedExpression hrs.exprs) fun _ ht =>
    ?_
  exact (gives_suite hrs).bind fun _ hb => (gives_optionalElse hrs).bind fun _ ho =>
    .skip fun _ => .pure (.loop ht hb ho)

theorem gives_forStatement : (forStatement rs).Gives Stmt.Read := by
  refine .skip fun start => .orElse gives_explaining ?_
  refine .bind (Q := fun o => ∀ x ∈ o, x.2.Proper .store) (.optional ?_) fun o ho => ?_
  · exact .skip fun _ => .skip fun _ => (writes_starTargets hrs.exprs).bind fun _ ht =>
      .skip fun _ => .pure ht
  cases o with
  | none => exact gives_explaining
  | some x =>
    exact (reads_starExpressions hrs.exprs).bind fun _ hi => (gives_suite hrs).bind fun _ hb =>
      (gives_optionalElse hrs).bind fun _ ho' => .skip fun _ => .pure (.loop ⟨ho x rfl, hi⟩ hb ho')

omit hrs in
theorem gives_withItem {r : Recur} (hr : r.Proper) : (withItem r).Gives WithItem.Proper := by
  refine .firstOf_cons ?_ (.firstOf_cons gives_explaining (.firstOf_cons ?_ .firstOf_nil))
  · exact (reads_expression hr).bind fun _ he => .skip fun _ => (writes_target hr).bind fun _ ht =>
      .skip fun _ => .pure ⟨he, forall_mem_some ht⟩
  · exact (reads_expression hr).bind fun _ he =>
      .pure ⟨he, forall_mem_none⟩

theorem gives_withStatement : (withStatement rs).Gives Stmt.Read := by
  have hitems := (gives_withItem hrs.exprs).separated (m := ",")
  refine .skip fun start => .skip fun _ => .skip fun t => .firstOf_cons gives_explaining
    (.firstOf_cons gives_explaining (.firstOf_cons ?_ (.firstOf_cons ?_
      (.firstOf_cons gives_explaining (.firstOf_cons gives_explaining .firstOf_nil)))))
  · exact .skip fun _ => .skip fun _ => hitems.bind fun _ hi => .skip fun _ => .skip fun _ =>
      (gives_suite hrs).bind fun _ hb => .skip fun _ => .pure (.withItems hi hb)
  · exact .skip fun _ => hitems.bind fun _ hi => (gives_suite hrs).bind fun _ hb =>
      .skip fun _ => .pure (.withItems hi hb)

omit hrs in
theorem gives_handlerType {r : Recur} (hr : r.Proper) (star : Bool) :
    (handlerType r star).Gives fun x => x.1.Proper .load := by
  have hrest : (do
      let e ← expression r
      let n ← optional do
        let _ ← word "as"
        name
      return (e, n)).Gives fun x => x.1.Proper .load :=
    (reads_expression hr).bind fun _ he => .skip fun _ => .pure he
  exact .skip fun _ => .ite (fun _ => .skip fun _ => hrest) fun _ => hrest

theorem gives_plainHandler : (plainHandler rs).Gives Handler.Read := by
  refine .skip fun t => .firstOf_cons gives_explaining (.firstOf_cons gives_explaining
    (.firstOf_cons ?_ (.firstOf_cons ?_ (.firstOf_cons gives_explaining .firstOf_nil))))
  · exact (gives_handlerType hrs.exprs false).bind fun _ he => (gives_suite hrs).bind fun _ hb =>
      .pure (.mk (forall_mem_some he) hb)
  · exact .skip fun _ => (gives_suite hrs).bind fun _ hb =>
      .pure (.mk forall_mem_none hb)

theorem gives_starHandler : (starHandler rs).Gives Handler.Read := by
  refine .skip fun t => .firstOf_cons gives_explaining (.firstOf_cons ?_
    (.firstOf_cons gives_explaining .firstOf_nil))
  exact (gives_handlerType hrs.exprs true).bind fun _ he => (gives_suite hrs).bind fun _ hb =>
    .pure (.mk (forall_mem_some he) hb)

theorem gives_finallyBlock : (finallyBlock rs).Gives ProperBlock :=
  .skip fun _ => .firstOf_cons gives_explaining <|
    .firstOf_cons (.skip fun _ => gives_neededSuite hrs) .firstOf_nil

/-- A `try` statement with handlers. -/
theorem gives_handled (t : Token) (star : Bool) {body : Reader (List (Stmt Empty))}
    {handler : Reader (Handler Empty)} (hbody : body.Gives ProperBlock)
    (hhandler : handler.Gives Handler.Read) : (do
      let b ← body
      let hs ← manyOne handler
      let o ← optionalElse rs
      let f ← optional (finallyBlock rs)
      return Stmt.attempt (← spanFrom t.start) star b hs o (f.getD [])).Gives Stmt.Read :=
  hbody.bind fun _ hb => hhandler.manyOne.bind fun _ hhs =>
    (gives_optionalElse hrs).bind fun _ ho => (gives_finallyBlock hrs).optional.bind fun _ hf =>
      .skip fun _ => .pure (.attempt hb hhs ho (forall_mem_getD hf))

theorem gives_tryStatement : (tryStatement rs).Gives Stmt.Read := by
  have hbody : (do
      let _ ← word "try"
      neededSuite rs).Gives ProperBlock :=
    .skip fun _ => gives_neededSuite hrs
  refine .skip fun t => .firstOf_cons gives_explaining (.firstOf_cons ?_
    (.firstOf_cons (gives_handled hrs t false hbody (gives_plainHandler hrs))
      (.firstOf_cons (gives_handled hrs t true hbody (gives_starHandler hrs)) .firstOf_nil)))
  exact hbody.bind fun _ hb => (gives_finallyBlock hrs).bind fun _ hf => .skip fun _ =>
    .pure (.attempt hb (List.forall_mem_nil _) (List.forall_mem_nil _) hf)

omit hrs in
theorem reads_matchSubject {r : Recur} (hr : r.Proper) : (matchSubject r).Reads := by
  refine .skip fun _ => .firstOf_cons ?_ (.firstOf_cons (reads_namedExpression hr) .firstOf_nil)
  exact (reads_starNamedExpression hr).bind fun _ he => .skip fun _ =>
    (gives_starNamedExpressions hr).optional.bind fun _ hes =>
      .pure (.display (List.forall_mem_cons.2 ⟨he, forall_mem_getD hes⟩))

theorem gives_caseClause : (caseClause rs).Gives Case.Read := by
  refine .skip fun t => .firstOf_cons gives_explaining (.firstOf_cons ?_ .firstOf_nil)
  refine .bind (Q := fun x => x.1.Proper ∧ ∀ e ∈ x.2, e.Proper .load) ?_ fun _ hx =>
    (gives_suite hrs).bind fun _ hb => .pure (.mk hx.1 hx.2 hb)
  exact .skip fun _ => (Pattern.gives_top hrs.pattern).bind fun _ hp =>
    (Gives.optional (.skip fun _ => reads_namedExpression hrs.exprs)).bind fun _ hg =>
      .pure ⟨hp, hg⟩

theorem gives_matchStatement : (matchStatement rs).Gives Stmt.Read := by
  refine .skip fun t => .firstOf_cons ?_ (.firstOf_cons gives_explaining .firstOf_nil)
  refine .bind (Q := Expr.Proper .load) (.skip fun _ => reads_matchSubject hrs.exprs) fun _ he => ?_
  exact .skip fun _ => .skip fun _ => .skip fun _ => (gives_caseClause hrs).manyOne.bind
    fun _ hcs => .skip fun _ => .skip fun _ => .pure (.select he hcs)

/-! ## Definitions -/

theorem gives_functionDefinition {ds : List Expr} (firstLine : Option Nat)
    (hds : ∀ e ∈ ds, e.Proper .load) : (functionDefinition rs ds firstLine).Gives Stmt.Read := by
  refine .skip fun start => .skip fun _ => .skip fun t => .firstOf_cons gives_explaining
    (.firstOf_cons ?_ .firstOf_nil)
  refine .skip fun _ => .skip fun _ => .skip fun _ =>
    (gives_params hrs.exprs .function).optional.bind fun ps hps => .skip fun _ =>
      (Gives.optional (.skip fun _ => reads_expression hrs.exprs)).bind fun _ hreturns =>
        (gives_neededSuite hrs).bind fun _ hb => .skip fun _ => .pure (.function ?_ hb)
  have hparams := getD_of_forall hps Params.proper_empty
  exact List.forall_mem_append.2 ⟨List.forall_mem_append.2 ⟨hds, hparams⟩, proper_toList hreturns⟩

theorem gives_classDefinition {ds : List Expr} (hds : ∀ e ∈ ds, e.Proper .load) :
    (classDefinition rs ds).Gives Stmt.Read := by
  refine .skip fun start => .firstOf_cons gives_explaining (.firstOf_cons ?_ .firstOf_nil)
  refine .bind (Q := fun x => x.2.Proper) ?_ fun x hx => (gives_suite hrs).bind fun _ hb =>
    .skip fun _ => .pure (.klass ?_ hb)
  · refine .skip fun _ => .skip fun _ => .bind (Q := fun o => ∀ as ∈ o, as.Proper) (.optional ?_)
      fun _ has => .pure (getD_of_forall has CallArguments.proper_empty)
    exact .skip fun _ => (gives_arguments hrs.exprs).optional.bind fun _ has => .skip fun _ =>
      .pure (getD_of_forall has CallArguments.proper_empty)
  · exact List.forall_mem_append.2 ⟨List.forall_mem_append.2 ⟨hds, hx.positional⟩,
      List.forall_mem_map.2 hx.keywords⟩

omit hrs in
theorem gives_decorators {r : Recur} (hr : r.Proper) :
    (decorators r).Gives fun ds => ∀ e ∈ ds, e.Proper .load :=
  Gives.manyOne <| .skip fun _ => (reads_namedExpression hr).bind fun _ he => .skip fun _ =>
    .pure he

theorem gives_decorated {definition : List Expr → Option Nat → Reader (Stmt Empty)}
    (h : ∀ ds line, (∀ e ∈ ds, e.Proper .load) → (definition ds line).Gives Stmt.Read) :
    (decorated rs definition).Gives Stmt.Read :=
  .skip fun _ => .orElse ((gives_decorators hrs.exprs).bind fun _ hds => h _ _ hds)
    (h _ _ (List.forall_mem_nil _))

/-! ## Statements and modules -/

theorem gives_compoundStatement : (compoundStatement rs).Gives ProperBlock := by
  have hwhen (b : Bool) {p : Reader (Stmt Empty)} (hp : p.Gives Stmt.Read) :
      (if b then (do return [← p]) else fail).Gives ProperBlock :=
    .ite (fun _ => hp.bind fun _ hs => .pure (List.forall_mem_singleton.2 hs)) fun _ => gives_fail
  refine .skip fun t => .firstOf_cons (hwhen _ ?_) (.firstOf_cons ?_ (.firstOf_cons (hwhen _ ?_)
    (.firstOf_cons (hwhen _ (gives_withStatement hrs)) (.firstOf_cons
      (hwhen _ (gives_forStatement hrs)) (.firstOf_cons (hwhen _ (gives_tryStatement hrs))
        (.firstOf_cons (hwhen _ (gives_whileStatement hrs)) (.firstOf_cons
          (hwhen true (gives_matchStatement hrs)) .firstOf_nil)))))))
  · exact gives_decorated hrs fun _ line hds => gives_functionDefinition hrs line hds
  · exact .ite (fun _ => gives_ifStatement hrs) fun _ => gives_fail
  · exact gives_decorated hrs fun _ _ hds => gives_classDefinition hrs hds

theorem gives_statement : (statement rs).Gives ProperBlock :=
  (gives_compoundStatement hrs).orElse (gives_simpleStatements hrs)

end

theorem gives_statementAt {r : Recur} {p : Reader Pattern} (hr : r.Proper)
    (hp : p.Gives Pattern.Proper) (size depth : Nat) :
    (statementAt r p size depth).Gives ProperBlock := by
  induction depth with
  | zero => exact gives_fail
  | succ depth ih => exact gives_statement ⟨hr, hp, ih⟩

theorem gives_moduleBody (depth : Nat) : (moduleBody depth).Gives ProperBlock := by
  have hr := proper_expressionAt depth
  exact (gives_statementAt hr (Pattern.gives_readAt hr depth) depth depth).many.bind fun _ hbs =>
    .skip fun _ => .pure (properBlock_flatten hbs)

/-- **The module of a source text could have been read** with any vocabulary that has the names of
the tokens. -/
theorem Module.parse_read {text : String} {m : Module Empty} (h : Module.parse text = .ok m)
    (ht : ∀ t ∈ scan text, t.Known) : ∀ st ∈ m.body, st.Read := by
  unfold Module.parse at h
  split at h
  · cases h
  · split at h
    · rename_i m' hm
      obtain rfl := Except.ok.inj h
      unfold Module.ofTokens at hm
      cases hrun : run (moduleBody (text.length + 3)) (scan text).toArray ⟨1, 0⟩ with
      | error f => simp [hrun, Except.map] at hm
      | ok body =>
        rw [hrun] at hm
        obtain rfl := Except.ok.inj hm
        exact (gives_moduleBody _).run (fun t hmem => ht t (by simpa using hmem)) hrun
    · cases h

end

/-- **The names of a source text are used as their places say.** -/
theorem Module.parse_proper {text : String} {m : Module Empty} (h : Module.parse text = .ok m) :
    ∀ st ∈ m.body, st.Proper := by
  let _ := Vocabulary.any
  exact fun st hst => (Module.parse_read h (fun t _ => t.known_any) st hst).proper

end JumpMacros
