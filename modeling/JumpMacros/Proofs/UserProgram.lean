import JumpMacros.Proofs.MeaningPreservation
import JumpMacros.Proofs.NoCalls

/-!
# The user's program is kept

**Theorem (`expandModule_keeps_program`).** If the generated statements are deleted from an
expanded module, what is left is the module with its macro calls replaced: a label by nothing, and
any other call by an `if` whose test is its first argument and whose body is a single `break`,
`continue` or `return`. Everything else stands as it was, in the same order.

A *generated* statement assigns a truth value to a flag or checks a flag (`Stmt.isGenerated`).
The induction follows the source tree through both steps; since no name of the user is a flag, no
statement of the user looks generated.
-/

namespace JumpMacros

open Lower (labelOf? plainJump setFlag check assemble)

/-! ## Generated statements -/

/-- Whether a statement assigns a truth value to a flag, or leaves or goes on with a loop if a
flag is set. -/
def Stmt.isGenerated (flags : List String) : Stmt Empty → Bool
  | .simple _ (.assign [.name _ x .store] (.const _ (.bool _))) => flags.contains x
  | .branch _ (.name _ x .load) [.simple _ .breaks] [] => flags.contains x
  | .branch _ (.name _ x .load) [.simple _ .continues] [] => flags.contains x
  | _ => false

mutual

/-- A statement without the generated statements in it. -/
def Stmt.withoutFlags (flags : List String) : Stmt Empty → Stmt Empty
  | .simple sp s => .simple sp s
  | .hole _ h => nomatch h
  | .branch sp t b o => .branch sp t (Stmt.allWithoutFlags flags b) (Stmt.allWithoutFlags flags o)
  | .loop sp h b o => .loop sp h (Stmt.allWithoutFlags flags b) (Stmt.allWithoutFlags flags o)
  | .function sp h b => .function sp h (Stmt.allWithoutFlags flags b)
  | .klass sp h b => .klass sp h (Stmt.allWithoutFlags flags b)
  | .withItems sp a is b => .withItems sp a is (Stmt.allWithoutFlags flags b)
  | .attempt sp star b hs o f =>
    .attempt sp star (Stmt.allWithoutFlags flags b) (Handler.allWithoutFlags flags hs)
      (Stmt.allWithoutFlags flags o) (Stmt.allWithoutFlags flags f)
  | .select sp e cs => .select sp e (Case.allWithoutFlags flags cs)

/-- Statements without the generated ones, at any depth. -/
def Stmt.allWithoutFlags (flags : List String) : List (Stmt Empty) → List (Stmt Empty)
  | [] => []
  | s :: ss =>
    if s.isGenerated flags then Stmt.allWithoutFlags flags ss
    else s.withoutFlags flags :: Stmt.allWithoutFlags flags ss

def Handler.allWithoutFlags (flags : List String) : List (Handler Empty) → List (Handler Empty)
  | [] => []
  | .mk p t n b :: hs =>
    .mk p t n (Stmt.allWithoutFlags flags b) :: Handler.allWithoutFlags flags hs

def Case.allWithoutFlags (flags : List String) : List (Case Empty) → List (Case Empty)
  | [] => []
  | .mk p g b :: cs => .mk p g (Stmt.allWithoutFlags flags b) :: Case.allWithoutFlags flags cs

end

/-! ## Replaced calls -/

/-- Whether a jump to a label leaves more than the innermost of the loops around, which are given
by their labels. -/
def crosses (around : List (Option String)) (label : Expr) : Bool :=
  match labelOf? label with
  | none => false
  | some name => around.contains (some name) && around.head? != some (some name)

/-- An `if` with a single statement. -/
def onlyIf (sp : Span) (test : Expr) (s : Simple) : List (Stmt Empty) :=
  [.branch sp test [.simple sp s] []]

/-- What a call of a macro is replaced by, inside of loops with the given labels. A `continue_if`
that crosses a loop leaves that loop. -/
def Invocation.replaced (around : List (Option String)) (sp : Span) (i : Invocation) :
    List (Stmt Empty) :=
  match Macro.ofName? i.name, i.args with
  | some .breakIf, p :: _ => onlyIf sp p .breaks
  | some .continueIf, [p] => onlyIf sp p .continues
  | some .continueIf, p :: l :: _ => onlyIf sp p (if crosses around l then .breaks else .continues)
  | some .returnIf, [p] => onlyIf sp p (.returns none)
  | some .returnIf, p :: v :: _ => onlyIf sp p (.returns (some v))
  | _, _ => []

mutual

/-- A statement with its macro calls replaced. `around` has the labels of the loops around, and
`label` is the statement's own. -/
def Stmt.replaced (package : String) (env : Env) (around : List (Option String))
    (label : Option String) : Stmt Empty → List (Stmt Empty)
  | .simple sp s =>
    match (Stmt.simple sp s).invocation? env with
    | some i => i.replaced around sp
    | none => [.simple sp s]
  | .hole _ h => nomatch h
  | .branch sp t b o =>
    [.branch sp t (Stmt.allReplaced package env around none b)
      (Stmt.allReplaced package env around none o)]
  | .loop sp h b o =>
    [.loop sp h (Stmt.allReplaced package env (label :: around) none b)
      (Stmt.allReplaced package env around none o)]
  | .function sp h b =>
    [.function sp h (Stmt.allReplaced package (env.enterFunction package h b) [] none b)]
  | .klass sp h b =>
    [.klass sp h (Stmt.allReplaced package (env.enterClass package b) [] none b)]
  | .withItems sp a is b => [.withItems sp a is (Stmt.allReplaced package env around none b)]
  | .attempt sp star b hs o f =>
    [.attempt sp star (Stmt.allReplaced package env around none b)
      (Handler.allReplaced package env around hs) (Stmt.allReplaced package env around none o)
      (Stmt.allReplaced package env around none f)]
  | .select sp e cs => [.select sp e (Case.allReplaced package env around cs)]

/-- Statements with their macro calls replaced. A label goes to the statement after it. -/
def Stmt.allReplaced (package : String) (env : Env) (around : List (Option String))
    (label : Option String) : List (Stmt Empty) → List (Stmt Empty)
  | [] => []
  | s :: rest => s.replaced package env around label ++
    Stmt.allReplaced package env around ((s.invocation? env).bind Invocation.label?) rest

def Handler.allReplaced (package : String) (env : Env) (around : List (Option String)) :
    List (Handler Empty) → List (Handler Empty)
  | [] => []
  | .mk p t n b :: hs => .mk p t n (Stmt.allReplaced package env around none b) ::
    Handler.allReplaced package env around hs

def Case.allReplaced (package : String) (env : Env) (around : List (Option String)) :
    List (Case Empty) → List (Case Empty)
  | [] => []
  | .mk p g b :: cs => .mk p g (Stmt.allReplaced package env around none b) ::
    Case.allReplaced package env around cs

end

/-! ## What the user wrote is not generated -/

open Node (NamedIn)

section

attribute [local simp] Stmt.isGenerated Stmt.allWithoutFlags

variable {users flags : List String}

/-- A statement that does nothing to a flag is kept, and so is all that follows. -/
theorem allWithoutFlags_cons {s : Stmt Empty} (h : s.isGenerated flags = false)
    (ss : List (Stmt Empty)) : Stmt.allWithoutFlags flags (s :: ss) =
      s.withoutFlags flags :: Stmt.allWithoutFlags flags ss := by
  rw [Stmt.allWithoutFlags, h]
  rfl

theorem allWithoutFlags_append (ss ts : List (Stmt Empty)) : Stmt.allWithoutFlags flags (ss ++ ts) =
    Stmt.allWithoutFlags flags ss ++ Stmt.allWithoutFlags flags ts := by
  induction ss with
  | nil => rfl
  | cons s ss ih =>
    rw [List.cons_append, Stmt.allWithoutFlags, Stmt.allWithoutFlags, ih]
    split <;> rfl

/-- Generated statements are deleted. -/
theorem allWithoutFlags_generated {ss : List (Stmt Empty)}
    (h : ∀ s ∈ ss, s.isGenerated flags = true) : Stmt.allWithoutFlags flags ss = [] := by
  induction ss with
  | nil => rfl
  | cons s ss ih =>
    rw [Stmt.allWithoutFlags, h s List.mem_cons_self, if_pos rfl]
    exact ih fun t ht => h t (List.mem_cons_of_mem _ ht)

theorem isGenerated_setFlag {x : String} (hx : x ∈ flags) (sp : Span) (b : Bool) :
    (setFlag sp x b).isGenerated flags = true := by
  simpa [setFlag] using hx

theorem isGenerated_check {e : Exit} (he : e.1 ∈ flags) (sp : Span) :
    (check sp e).isGenerated flags = true := by
  obtain ⟨x, k⟩ := e
  cases k <;> simpa [Lower.check_eq, plainJump] using he

/-- A simple statement whose names are the user's is not generated. -/
theorem isGenerated_simple (hdisj : ∀ x ∈ users, x ∉ flags) {sp : Span} {x : Simple}
    (h : NamedIn users [.stmt (.simple sp x : Stmt Placeholder)]) :
    (Stmt.simple sp x).isGenerated flags = false := by
  unfold Stmt.isGenerated
  split
  · rename_i sp' p y q b heq
    cases heq
    have hy : y ∈ users := by
      have hchildren := (Node.every_singleton.1 h).2
      simp only [Node.children, Node.ofStmt, Simple.exprs, Node.ofExprs, List.map_cons,
        List.map_nil, List.cons_append, List.nil_append] at hchildren
      exact (Node.every_cons.1 hchildren).1 y (by simp [Node.ownNames])
    simpa using hdisj y hy
  · rename_i heq
    cases heq
  · rename_i heq
    cases heq
  · rfl

/-- A branch whose test has names of the user is not generated. -/
theorem isGenerated_branch (hdisj : ∀ x ∈ users, x ∉ flags) {sp : Span} {t : Expr}
    (h : NamedIn users [(.expr t : Node Placeholder)]) (b o : List (Stmt Empty)) :
    (Stmt.branch sp t b o).isGenerated flags = false := by
  have hname {p : Position} {x : String} {u : NameUse} (ht : t = .name p x u) : x ∉ flags := by
    subst ht
    exact hdisj x ((Node.every_cons.1 h).1 x (by simp [Node.ownNames]))
  unfold Stmt.isGenerated
  split
  · rename_i heq
    cases heq
  · rename_i heq
    cases heq
    simpa using hname rfl
  · rename_i heq
    cases heq
    simpa using hname rfl
  · rfl

/-! ## Calls -/

/-- What is left of a transfer of control: a jump that crosses a loop is left as a `break`. -/
def Transfer.simple (around : List (Option String)) : Transfer → Simple
  | .breaks | .jump .breaks _ => .breaks
  | .continues => .continues
  | .returns v => .returns v
  | .jump .continues l => if crosses around l then .breaks else .continues

/-- What is left of a replacement. -/
def Replacement.replaced (around : List (Option String)) (sp : Span) :
    Replacement → List (Stmt Empty)
  | .guarded p x => onlyIf sp p (x.simple around)
  | .loopLabel _ => []

theorem replaced_eq {i : Invocation} {m : Macro} {r : Replacement}
    (hm : Macro.ofName? i.name = some m) (h : SourceMeaning.Shape m i.args r)
    (around : List (Option String)) (sp : Span) : i.replaced around sp = r.replaced around sp := by
  unfold Invocation.replaced
  rw [hm]
  generalize i.args = as at h ⊢
  cases h <;> rfl

variable {Allowed : JumpKind → String → String → Prop} {fs loops : List Frame} {sp : Span}
  {label : Option String} {out : List (Stmt Empty)}

theorem crosses_eq (fs : List Frame) {l : Expr} {name : String} (hl : labelOf? l = some name) :
    crosses (fs.map Frame.label) l =
      !(!(fs.map Frame.label).contains (some name) || namesHead fs name) := by
  unfold crosses namesHead
  rw [hl]
  cases fs with
  | nil => rfl
  | cons f fs =>
    by_cases hf : f.label = some name
    · simp [hf]
    · simp [bne]

/-- The jump that is left where a flag is set is the `break` after it. -/
theorem allWithoutFlags_jump {k : JumpKind} {l : Expr} (hfs : flagsOf fs ⊆ flags)
    (h : JumpLowersTo fs sp k l out) : Stmt.allWithoutFlags flags out =
      [.simple sp ((Transfer.jump k l).simple (fs.map Frame.label))] := by
  have hplain : Stmt.allWithoutFlags flags [plainJump sp k] =
      [.simple sp (if k = .breaks then .breaks else .continues)] := by
    cases k <;> rfl
  unfold JumpLowersTo at h
  split at h
  · rename_i hl
    have hno : crosses (fs.map Frame.label) l = false := by simp [crosses, hl]
    rw [h, hplain]
    cases k <;> simp [Transfer.simple, hno]
  · rename_i name hl
    have hcross := crosses_eq fs hl
    split at h
    · rename_i hc
      rw [hc] at hcross
      rw [h, hplain]
      cases k <;> simp [Transfer.simple, hcross]
    · rename_i hc
      rw [Bool.not_eq_true] at hc
      rw [hc] at hcross
      obtain ⟨x, hx, rfl⟩ := h
      rw [Stmt.allWithoutFlags, isGenerated_setFlag (hfs (mem_flagsOf_of_flagOf? hx)), if_pos rfl]
      cases k <;> simp [Transfer.simple, hcross] <;> rfl

theorem allWithoutFlags_transfer {x : Transfer} (hfs : flagsOf fs ⊆ flags)
    (h : (x.toStmt sp).LowersBy Allowed fs label loops out) :
    Stmt.allWithoutFlags flags out = [.simple sp (x.simple (fs.map Frame.label))] := by
  cases x with
  | breaks => rw [h.2]; rfl
  | continues => rw [h.2]; rfl
  | returns v => rw [h.2]; rfl
  | jump k l => exact allWithoutFlags_jump hfs h.2

theorem allWithoutFlags_replacement {r : Replacement} (hfs : flagsOf fs ⊆ flags)
    (hdisj : ∀ x ∈ users, x ∉ flags) (hnames : NamedIn users [.stmt (r.toStmt sp)])
    (h : (r.toStmt sp).LowersBy Allowed fs label loops out) :
    Stmt.allWithoutFlags flags out = r.replaced (fs.map Frame.label) sp := by
  cases r with
  | loopLabel l => rw [h.2]; rfl
  | guarded p x =>
    obtain ⟨l₁, l₂, b', o', hb, ho, -, rfl⟩ := h
    obtain ⟨l₃, l₄, first, more, hfirst, hmore, -, rfl⟩ := hb
    obtain ⟨-, rfl⟩ := hmore
    obtain ⟨-, rfl⟩ := ho
    have htest := (Node.every_branch.1 hnames).2.1
    rw [allWithoutFlags_cons (isGenerated_branch hdisj htest _ _), List.append_nil,
      Stmt.withoutFlags, allWithoutFlags_transfer hfs hfirst]
    rfl

/-! ## The traversal -/

/-- Of a lowered loop only the loop is left. -/
theorem allWithoutFlags_assemble {f : Frame} (hf : f.flags ⊆ flags)
    (hexits : ∀ e ∈ f.exits, e.1 ∈ flags) (hd : LoopHead) (b o : List (Stmt Empty)) :
    Stmt.allWithoutFlags flags (assemble sp hd b o f) =
      [.loop sp hd (Stmt.allWithoutFlags flags b) (Stmt.allWithoutFlags flags o)] := by
  have hset {k : JumpKind} {x : String} (hx : f.flag k = some x) (ss : List (Stmt Empty)) :
      Stmt.allWithoutFlags flags (setFlag sp x false :: ss) = Stmt.allWithoutFlags flags ss := by
    have hmem := hf (Frame.mem_flags.2 ⟨k, hx⟩)
    rw [Stmt.allWithoutFlags, isGenerated_setFlag hmem, if_pos rfl]
  have hchecks : Stmt.allWithoutFlags flags (f.exits.map (check sp)) = [] :=
    allWithoutFlags_generated fun s hs => by
      obtain ⟨e, he, rfl⟩ := List.mem_map.1 hs
      exact isGenerated_check (hexits e he) sp
  have hloop (body : List (Stmt Empty)) : Stmt.allWithoutFlags flags
      (.loop sp hd body o :: f.exits.map (check sp)) =
        [.loop sp hd (Stmt.allWithoutFlags flags body) (Stmt.allWithoutFlags flags o)] := by
    rw [allWithoutFlags_cons rfl, hchecks]
    rfl
  unfold assemble
  cases hb : f.breakFlag with
  | none =>
    cases hc : f.continueFlag with
    | none => exact hloop b
    | some x => exact (hloop _).trans (by rw [hset (k := .continues) hc])
  | some y =>
    refine (hset (k := .breaks) hb _).trans ?_
    cases hc : f.continueFlag with
    | none => exact hloop b
    | some x => exact (hloop _).trans (by rw [hset (k := .continues) hc])

open SourceMeaning (Fits calls)

variable {package : String}

theorem simple_withoutFlags (hdisj : ∀ x ∈ users, x ∉ flags) {env : Env} {x : Simple}
    (hfits : ∀ i ∈ calls env (.simple sp x), Fits i)
    (hnames : NamedIn users [.stmt (x.expand env sp)])
    (h : (x.expand env sp).LowersBy Allowed fs label loops out) (hfs : flagsOf fs ⊆ flags) :
    Stmt.allWithoutFlags flags out =
      (Stmt.simple sp x).replaced package env (fs.map Frame.label) label := by
  simp only [Simple.expand, Stmt.replaced] at hnames h ⊢
  cases hi : (Stmt.simple sp x).invocation? env with
  | none =>
    simp only [hi] at hnames h
    obtain ⟨-, rfl⟩ := h
    rw [allWithoutFlags_cons (isGenerated_simple hdisj hnames)]
    rfl
  | some i =>
    obtain ⟨m, ⟨r, rule⟩, hm, hr⟩ := hfits i (by simp [calls, hi])
    simp only [hi, hm, Option.map_some, hr] at hnames h
    rw [allWithoutFlags_replacement hfs hdisj hnames h]
    exact (replaced_eq hm (SourceMeaning.shape_of_replacement hr) _ sp).symm

mutual

/-- Without the generated statements a lowered statement is the source with its calls
replaced. -/
theorem stmt_withoutFlags (hdisj : ∀ x ∈ users, x ∉ flags) (env : Env) (fs : List Frame)
    (label : Option String) (hfs : flagsOf fs ⊆ flags) :
    ∀ (s : Stmt Empty) (loops : List Frame) (out : List (Stmt Empty)), flagsOf loops ⊆ flags →
      (∀ i ∈ s.gather package calls env, Fits i) →
      NamedIn users [.stmt (s.expand package env)] →
      (s.expand package env).LowersBy Allowed fs label loops out →
      Stmt.allWithoutFlags flags out = s.replaced package env (fs.map Frame.label) label
  | .simple sp x, loops, out, hloops, hfits, hnames, h => by
    refine simple_withoutFlags hdisj (fun i hi => hfits i ?_) hnames h hfs
    simpa [Stmt.gather] using hi
  | .hole _ hole, _, _, _, _, _, _ => nomatch hole
  | .branch sp t b o, loops, out, hloops, hfits, hnames, h => by
    simp only [Stmt.gather, List.mem_append] at hfits
    obtain ⟨-, ht, hnb, hno⟩ := Node.every_branch.1 hnames
    obtain ⟨l₁, l₂, b', o', hb, ho, rfl, rfl⟩ := h
    rw [flagsOf, List.flatMap_append, List.append_subset] at hloops
    have hb' := block_withoutFlags hdisj env fs none hfs b l₁ b' hloops.1
      (fun i hi => hfits i (.inr (.inl hi))) hnb hb
    have ho' := block_withoutFlags hdisj env fs none hfs o l₂ o' hloops.2
      (fun i hi => hfits i (.inr (.inr hi))) hno ho
    rw [allWithoutFlags_cons (isGenerated_branch hdisj ht _ _), Stmt.withoutFlags, hb', ho']
    rfl
  | .loop sp hd b o, loops, out, hloops, hfits, hnames, h => by
    simp only [Stmt.gather, List.mem_append] at hfits
    obtain ⟨-, -, hnb, hno⟩ := Node.every_loop.1 hnames
    obtain ⟨f, l₁, l₂, b', o', hb, ho, hf, rfl, rfl⟩ := h
    simp only [flagsOf, List.cons_append, List.flatMap_cons, List.flatMap_append,
      List.append_subset] at hloops
    obtain ⟨hff, hl₁, hl₂⟩ := hloops
    have hb' := block_withoutFlags hdisj env (f :: fs) none
      (List.append_subset.2 ⟨hff, hfs⟩) b l₁ b' hl₁ (fun i hi => hfits i (.inr (.inl hi))) hnb hb
    have ho' := block_withoutFlags hdisj env fs none hfs o l₂ o' hl₂
      (fun i hi => hfits i (.inr (.inr hi))) hno ho
    rw [allWithoutFlags_assemble hff fun e he => hfs (hf.mem_flagsOf he), hb', ho', List.map_cons,
      hf.label_eq]
    rfl
  | .function sp hd b, loops, out, hloops, hfits, hnames, h => by
    simp only [Stmt.gather, List.mem_append] at hfits
    obtain ⟨b', hb, rfl⟩ := h
    have hb' := block_withoutFlags hdisj _ [] none (by simp [flagsOf]) b loops b' hloops
      (fun i hi => hfits i (.inr hi)) (Node.every_function.1 hnames).2.2 hb
    rw [allWithoutFlags_cons rfl, Stmt.withoutFlags, hb']
    rfl
  | .klass sp hd b, loops, out, hloops, hfits, hnames, h => by
    simp only [Stmt.gather, List.mem_append] at hfits
    obtain ⟨b', hb, rfl⟩ := h
    have hb' := block_withoutFlags hdisj _ [] none (by simp [flagsOf]) b loops b' hloops
      (fun i hi => hfits i (.inr hi)) (Node.every_klass.1 hnames).2.2 hb
    rw [allWithoutFlags_cons rfl, Stmt.withoutFlags, hb']
    rfl
  | .withItems sp a is b, loops, out, hloops, hfits, hnames, h => by
    simp only [Stmt.gather, List.mem_append] at hfits
    obtain ⟨b', hb, rfl⟩ := h
    have hb' := block_withoutFlags hdisj env fs none hfs b loops b' hloops
      (fun i hi => hfits i (.inr hi)) (Node.every_withItems.1 hnames).2.2 hb
    rw [allWithoutFlags_cons rfl, Stmt.withoutFlags, hb']
    rfl
  | .attempt sp star b hs o f, loops, out, hloops, hfits, hnames, h => by
    simp only [Stmt.gather, List.mem_append] at hfits
    obtain ⟨-, hnb, hnh, hno, hnf⟩ := Node.every_attempt.1 hnames
    obtain ⟨l₁, l₂, l₃, l₄, b', hs', o', f', hb, hh, ho, hf, rfl, rfl⟩ := h
    simp only [flagsOf, List.flatMap_append, List.append_subset] at hloops
    obtain ⟨hl₁, hl₂, hl₃, hl₄⟩ := hloops
    have hb' := block_withoutFlags hdisj env fs none hfs b l₁ b' hl₁
      (fun i hi => hfits i (.inr (.inl (.inl (.inl hi))))) hnb hb
    have hh' := handlers_withoutFlags hdisj env fs hfs hs l₂ hs' hl₂
      (fun i hi => hfits i (.inr (.inl (.inl (.inr hi))))) hnh hh
    have ho' := block_withoutFlags hdisj env fs none hfs o l₃ o' hl₃
      (fun i hi => hfits i (.inr (.inl (.inr hi)))) hno ho
    have hf' := block_withoutFlags hdisj env fs none hfs f l₄ f' hl₄
      (fun i hi => hfits i (.inr (.inr hi))) hnf hf
    rw [allWithoutFlags_cons rfl, Stmt.withoutFlags, hb', hh', ho', hf']
    rfl
  | .select sp e cs, loops, out, hloops, hfits, hnames, h => by
    simp only [Stmt.gather, List.mem_append] at hfits
    obtain ⟨cs', hcs, rfl⟩ := h
    have hcs' := cases_withoutFlags hdisj env fs hfs cs loops cs' hloops
      (fun i hi => hfits i (.inr hi)) (Node.every_select.1 hnames).2.2 hcs
    rw [allWithoutFlags_cons rfl, Stmt.withoutFlags, hcs']
    rfl
termination_by structural s => s

theorem block_withoutFlags (hdisj : ∀ x ∈ users, x ∉ flags) (env : Env) (fs : List Frame)
    (label : Option String) (hfs : flagsOf fs ⊆ flags) :
    ∀ (b : List (Stmt Empty)) (loops : List Frame) (out : List (Stmt Empty)),
      flagsOf loops ⊆ flags →
      (∀ i ∈ Stmt.gatherAll package calls env b, Fits i) →
      NamedIn users (Node.ofStmts (Stmt.expandAll package env b)) →
      Stmt.BlockLowersBy Allowed fs label loops out (Stmt.expandAll package env b) →
      Stmt.allWithoutFlags flags out = Stmt.allReplaced package env (fs.map Frame.label) label b
  | [], _, _, _, _, _, h => by
    rw [h.2]
    rfl
  | s :: rest, loops, out, hloops, hfits, hnames, h => by
    simp only [Stmt.gatherAll, List.mem_append] at hfits
    obtain ⟨hns, hnr⟩ := Node.every_ofStmts_cons.1 hnames
    obtain ⟨l₁, l₂, first, more, hs, hrest, rfl, rfl⟩ := h
    rw [flagsOf, List.flatMap_append, List.append_subset] at hloops
    have hs' := stmt_withoutFlags hdisj env fs label hfs s l₁ first hloops.1
      (fun i hi => hfits i (.inl hi)) hns hs
    have hlabel := SourceMeaning.label_expand package (s := s) fun i hi =>
      hfits i (.inl (Stmt.gather.eq_def package calls env s ▸ List.mem_append_left _ hi))
    rw [hlabel] at hrest
    have hr' := block_withoutFlags hdisj env fs _ hfs rest l₂ more hloops.2
      (fun i hi => hfits i (.inr hi)) hnr hrest
    rw [allWithoutFlags_append, hs', hr']
    rfl
termination_by structural b => b

theorem handlers_withoutFlags (hdisj : ∀ x ∈ users, x ∉ flags) (env : Env) (fs : List Frame)
    (hfs : flagsOf fs ⊆ flags) :
    ∀ (hs : List (Handler Empty)) (loops : List Frame) (out : List (Handler Empty)),
      flagsOf loops ⊆ flags →
      (∀ i ∈ Handler.gatherAll package calls env hs, Fits i) →
      NamedIn users ((Handler.expandAll package env hs).map .handler) →
      Handler.LowerBy Allowed fs loops out (Handler.expandAll package env hs) →
      Handler.allWithoutFlags flags out = Handler.allReplaced package env (fs.map Frame.label) hs
  | [], _, _, _, _, _, h => by
    rw [h.2]
    rfl
  | .mk p t n b :: hs, loops, out, hloops, hfits, hnames, h => by
    simp only [Handler.gatherAll, List.mem_append] at hfits
    obtain ⟨-, -, hnb, hnh⟩ := Node.every_handlers.1 hnames
    obtain ⟨l₁, l₂, b', hs', hb, hh, rfl, rfl⟩ := h
    rw [flagsOf, List.flatMap_append, List.append_subset] at hloops
    have hb' := block_withoutFlags hdisj env fs none hfs b l₁ b' hloops.1
      (fun i hi => hfits i (.inl hi)) hnb hb
    have hh' := handlers_withoutFlags hdisj env fs hfs hs l₂ hs' hloops.2
      (fun i hi => hfits i (.inr hi)) hnh hh
    rw [Handler.allWithoutFlags, hb', hh']
    rfl
termination_by structural hs => hs

theorem cases_withoutFlags (hdisj : ∀ x ∈ users, x ∉ flags) (env : Env) (fs : List Frame)
    (hfs : flagsOf fs ⊆ flags) :
    ∀ (cs : List (Case Empty)) (loops : List Frame) (out : List (Case Empty)),
      flagsOf loops ⊆ flags →
      (∀ i ∈ Case.gatherAll package calls env cs, Fits i) →
      NamedIn users ((Case.expandAll package env cs).map .case) →
      Case.LowerBy Allowed fs loops out (Case.expandAll package env cs) →
      Case.allWithoutFlags flags out = Case.allReplaced package env (fs.map Frame.label) cs
  | [], _, _, _, _, _, h => by
    rw [h.2]
    rfl
  | .mk p g b :: cs, loops, out, hloops, hfits, hnames, h => by
    simp only [Case.gatherAll, List.mem_append] at hfits
    obtain ⟨-, -, -, hnb, hnc⟩ := Node.every_cases.1 hnames
    obtain ⟨l₁, l₂, b', cs', hb, hcs, rfl, rfl⟩ := h
    rw [flagsOf, List.flatMap_append, List.append_subset] at hloops
    have hb' := block_withoutFlags hdisj env fs none hfs b l₁ b' hloops.1
      (fun i hi => hfits i (.inl hi)) hnb hb
    have hcs' := cases_withoutFlags hdisj env fs hfs cs l₂ cs' hloops.2
      (fun i hi => hfits i (.inr hi)) hnc hcs
    rw [Case.allWithoutFlags, hb', hcs']
    rfl
termination_by structural cs => cs

end

end

/-! ## Whole modules -/

section

variable {s : Settings} {file : Option String} {m : Module Empty} {e : Expanded}

/-- What an expanded module lowers to. The flags of its loops are all different, and no name of
the user is one of them. -/
theorem Expands.lowersBy (h : Expands s file m e) : ∃ loops : List Frame,
    Stmt.BlockLowersBy (IsFlagFor (m.userNames s) s.flagPrefix) [] none loops e.module.body
        (m.expand s).body ∧
      (flagsOf loops).Nodup ∧ ∀ x ∈ m.userNames s, x ∉ flagsOf loops := by
  obtain ⟨loops, hlow, hnodup, hfresh⟩ := (m.expand s).lower_lowersBy s file
  exact ⟨loops, h.module_eq ▸ hlow, hnodup, fun x hx hflag => hfresh x hflag hx⟩

/-- Without the generated statements an expanded module is the source with its calls replaced. -/
theorem Expands.withoutFlags (h : Expands s file m e) {loops : List Frame}
    (hlow : Stmt.BlockLowersBy (IsFlagFor (m.userNames s) s.flagPrefix) [] none loops
      e.module.body (m.expand s).body)
    (hdisj : ∀ x ∈ m.userNames s, x ∉ flagsOf loops) :
    Stmt.allWithoutFlags (flagsOf loops) e.module.body =
      Stmt.allReplaced s.package (.ofTable (moduleTable s m)) [] none m.body :=
  block_withoutFlags hdisj _ [] none (by simp [flagsOf]) m.body loops e.module.body
    (List.Subset.refl _) h.fits (Node.namedIn_namesIn _) hlow

end

/-- **Nothing of the user's program is lost, duplicated or reordered.** An expanded module without
the statements that set or check the flags of its loops is the source with its macro calls
replaced. If there are none it is the source. -/
theorem expandModule_keeps_program {s : Settings} {file : Option String} {m : Module Empty}
    {e : Expanded} (h : expandModule s file m = .ok e) :
    (∃ loops : List Frame,
      Stmt.BlockLowersBy (IsFlagFor (m.userNames s) s.flagPrefix) [] none loops e.module.body
        (m.expand s).body ∧
      Stmt.allWithoutFlags (flagsOf loops) e.module.body =
        Stmt.allReplaced s.package (.ofTable (moduleTable s m)) [] none m.body) ∧
    ((∀ v ∈ m.visits, v.macroName? s = none) → e.module = m) := by
  have hexp := expands_of_ok h
  obtain ⟨loops, hlow, -, hdisj⟩ := hexp.lowersBy
  refine ⟨⟨loops, hlow, hexp.withoutFlags hlow hdisj⟩, fun hnone => ?_⟩
  rw [expandModule_of_no_calls file hnone] at h
  split at h
  · cases h
  · exact congrArg Expanded.module (Except.ok.inj h).symm

theorem Nested.moduleTable_made :
    moduleTable .default Nested.made = [("label", "label"), ("break_if", "break_if")] := by
  with_unfolding_all decide

/-- What is left of two loops with a jump out of both: a `break` where the call was. -/
theorem expandModule_keeps_program_made : ∃ e loops,
    expandModule .default none Nested.made = .ok e ∧
      Stmt.allWithoutFlags (flagsOf loops) e.module.body =
        [.simple (Nested.line 1) Nested.importing,
          Nested.loops [.branch (Nested.line 6) (Nested.var "p")
            [.simple (Nested.line 6) .breaks] []]] := by
  obtain ⟨e, he⟩ := Nested.made_expands
  obtain ⟨⟨loops, -, hleft⟩, -⟩ := expandModule_keeps_program he
  exact ⟨e, loops, he, by rw [hleft, Nested.moduleTable_made]; rfl⟩

end JumpMacros
