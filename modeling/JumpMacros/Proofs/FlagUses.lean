import JumpMacros.Proofs.NameCounts
import JumpMacros.Proofs.StrayJumps

/-!
# Where flags occur

**Theorem (`lower_lays_out_jumps`).** If lowering reports nothing, the module is laid out as
`Stmt.BlockLaysOut` says, and the places that are listed there are all there are. A flag occurs once
as a reset, once for each jump that sets it, and once for each loop that such a jump leaves. No
`break` or `continue` is outside of a loop that was not there before.

The count is by induction on the tree. Inside of a loop, the flag belongs to the loop itself, to a
loop around, or to one further in, so each step compares the three; `jumpOf?` tells which jump
around has the flag, if one has.
-/

namespace JumpMacros

open Node (ofStmts ofExprs NamedIn)
open Lower (plainJump setFlag check labelOf?)

/-! ## The jump that has a flag -/

/-- The jump to a loop that has a flag of the loop. -/
def Frame.jumpOf? (x : String) (f : Frame) : Option NamedJump :=
  f.label.bind fun name =>
    if f.flag .breaks = some x then some (.breaks, name)
    else if f.flag .continues = some x then some (.continues, name)
    else none

/-- The jump to one of some loops that has a flag. -/
def jumpOf? (x : String) : List Frame → Option NamedJump
  | [] => none
  | f :: fs => (f.jumpOf? x).or ((jumpOf? x fs).filter fun j => f.label != some j.2)

theorem Frame.jumpOf?_eq_some {f : Frame} (h : f.flags.Nodup) {x : String} {j : NamedJump} :
    f.jumpOf? x = some j ↔ f.label = some j.2 ∧ f.flag j.1 = some x := by
  have hkind {k k' : JumpKind} (hk : f.flag k = some x) (hk' : f.flag k' = some x) : k' = k :=
    Frame.flag_injective h hk hk'
  unfold Frame.jumpOf?
  cases hl : f.label with
  | none => simp
  | some name =>
    rw [Option.bind_some]
    by_cases hb : f.flag .breaks = some x
    · rw [if_pos hb]
      constructor
      · rintro ⟨⟩
        exact ⟨rfl, hb⟩
      · rintro ⟨hname, hj⟩
        rw [Option.some.inj hname, ← hkind hb hj]
    · rw [if_neg hb]
      by_cases hc : f.flag .continues = some x
      · rw [if_pos hc]
        constructor
        · rintro ⟨⟩
          exact ⟨rfl, hc⟩
        · rintro ⟨hname, hj⟩
          rw [Option.some.inj hname, ← hkind hc hj]
      · rw [if_neg hc]
        constructor
        · exact nofun
        · rintro ⟨-, hj⟩
          obtain ⟨_ | _, _⟩ := j
          · exact absurd hj hb
          · exact absurd hj hc

/-- `jumpOf?` is the inverse of `flagOf?`. -/
theorem jumpOf?_eq_some {fs : List Frame} (h : (flagsOf fs).Nodup) {x : String} {j : NamedJump} :
    jumpOf? x fs = some j ↔ flagOf? fs j = some x := by
  induction fs generalizing j with
  | nil => simp [jumpOf?, flagOf?]
  | cons f fs ih =>
    rw [flagsOf_cons, List.nodup_append'] at h
    obtain ⟨hown, hrest, hdisj⟩ := h
    unfold jumpOf? flagOf?
    cases hf : f.jumpOf? x with
    | some j' =>
      obtain ⟨hl, hx⟩ := (Frame.jumpOf?_eq_some hown).1 hf
      have hmem : x ∈ f.flags := Frame.mem_flags.2 ⟨_, hx⟩
      rw [Option.some_or]
      constructor
      · rintro ⟨⟩
        rw [if_pos hl, hx]
      · intro hj
        split at hj
        · rename_i hl'
          rw [← hf, Frame.jumpOf?_eq_some hown]
          exact ⟨hl', hj⟩
        · exact absurd (mem_flagsOf_of_flagOf? hj) (hdisj hmem)
    | none =>
      rw [Option.none_or, Option.filter_eq_some_iff, ih hrest]
      by_cases hl : f.label = some j.2
      · have hno : f.flag j.1 ≠ some x := by
          intro hx
          rw [(Frame.jumpOf?_eq_some hown).2 ⟨hl, hx⟩] at hf
          cases hf
        simp [hl, hno]
      · simp [hl]

theorem jumpOf?_eq_none {fs : List Frame} (h : (flagsOf fs).Nodup) {x : String}
    (hx : x ∉ flagsOf fs) : jumpOf? x fs = none := by
  by_contra hne
  obtain ⟨j, hj⟩ := Option.ne_none_iff_exists'.1 hne
  exact hx (mem_flagsOf_of_flagOf? ((jumpOf?_eq_some h).1 hj))

/-! ## What a jump has to do with a statement -/

mutual

/-- The number of loops in a statement with a label whose body a jump leaves, on its way out of the
statement. -/
def Stmt.loopsLeft (j : NamedJump) (label : Option String) : Stmt Placeholder → Nat
  | .simple _ _ => 0
  | .hole _ _ => 0
  | .branch _ _ b o => Stmt.blockLoopsLeft j none b + Stmt.blockLoopsLeft j none o
  | .loop _ _ b o =>
    (if label = some j.2 then 0
      else (if j ∈ Stmt.blockJumps none b then 1 else 0) + Stmt.blockLoopsLeft j none b) +
      Stmt.blockLoopsLeft j none o
  | .function _ _ _ => 0
  | .klass _ _ _ => 0
  | .withItems _ _ _ b => Stmt.blockLoopsLeft j none b
  | .attempt _ _ b hs o f =>
    Stmt.blockLoopsLeft j none b + Handler.loopsLeft j hs + Stmt.blockLoopsLeft j none o +
      Stmt.blockLoopsLeft j none f
  | .select _ _ cs => Case.loopsLeft j cs

/-- The number of loops that a jump leaves in a block whose first statement has a label. -/
def Stmt.blockLoopsLeft (j : NamedJump) (label : Option String) : List (Stmt Placeholder) → Nat
  | [] => 0
  | s :: rest => s.loopsLeft j label + Stmt.blockLoopsLeft j (Layer.labelFrom (some s)) rest

def Handler.loopsLeft (j : NamedJump) : List (Handler Placeholder) → Nat
  | [] => 0
  | .mk _ _ _ b :: hs => Stmt.blockLoopsLeft j none b + Handler.loopsLeft j hs

def Case.loopsLeft (j : NamedJump) : List (Case Placeholder) → Nat
  | [] => 0
  | .mk _ _ b :: cs => Stmt.blockLoopsLeft j none b + Case.loopsLeft j cs

end

/-- How often the flag of a jump occurs that comes from the body of its loop: once where it is
reset, once for each jump that sets it, and once for each check. -/
def flagUses (j : NamedJump) (body : List (Stmt Placeholder)) : Nat :=
  1 + (Stmt.blockCrossings none body).count j + Stmt.blockLoopsLeft j none body

/-- How often a name occurs as a flag of the loops that are laid out. -/
def usesOfLoops (x : String) (laid : List LaidLoop) : Nat :=
  (laid.map fun l => (l.1.jumpOf? x).elim 0 fun j => flagUses j l.2).sum

@[simp] theorem usesOfLoops_nil (x : String) : usesOfLoops x [] = 0 := rfl

@[simp] theorem usesOfLoops_cons (x : String) (l : LaidLoop) (laid : List LaidLoop) :
    usesOfLoops x (l :: laid) =
      ((l.1.jumpOf? x).elim 0 fun j => flagUses j l.2) + usesOfLoops x laid := by
  simp [usesOfLoops]

@[simp] theorem usesOfLoops_append (x : String) (l₁ l₂ : List LaidLoop) :
    usesOfLoops x (l₁ ++ l₂) = usesOfLoops x l₁ + usesOfLoops x l₂ := by
  simp [usesOfLoops]

/-- How often a name occurs as a flag of the loops `fs` in statements inside of them, which have the
jumps `js`, of which `cs` cross a loop in the statements, and leave `left` loops there. Jumps to
the innermost loop set its flag only if they cross a loop. -/
def usesAround (x : String) (fs : List Frame) (cs js : List NamedJump) (left : NamedJump → Nat) :
    Nat :=
  (jumpOf? x fs).elim 0 fun j => (if namesHead fs j.2 then cs else js).count j + left j

theorem usesAround_append (x : String) (fs : List Frame) (cs cs' js js' : List NamedJump)
    (left left' : NamedJump → Nat) :
    usesAround x fs (cs ++ cs') (js ++ js') (fun j => left j + left' j) =
      usesAround x fs cs js left + usesAround x fs cs' js' left' := by
  unfold usesAround
  cases jumpOf? x fs with
  | none => rfl
  | some j =>
    simp only [Option.elim_some]
    split <;> rw [List.count_append] <;> omega

@[simp] theorem usesAround_none (x : String) (fs : List Frame) :
    usesAround x fs [] [] (fun _ => 0) = 0 := by
  unfold usesAround
  cases jumpOf? x fs <;> simp

@[simp] theorem usesAround_nil (x : String) (cs js : List NamedJump) (left : NamedJump → Nat) :
    usesAround x [] cs js left = 0 := rfl

/-! ## Flags of different loops -/

/-- No two of the loops around and the loops that are laid out have a flag in common. -/
def Distinct (fs : List Frame) (laid : List LaidLoop) : Prop :=
  (flagsOf (fs ++ laid.map Prod.fst)).Nodup

theorem flagsOf_append (fs gs : List Frame) : flagsOf (fs ++ gs) = flagsOf fs ++ flagsOf gs := by
  simp [flagsOf]

theorem distinct_iff {fs : List Frame} {laid : List LaidLoop} :
    Distinct fs laid ↔ (flagsOf fs ++ flagsOf (laid.map Prod.fst)).Nodup := by
  rw [Distinct, flagsOf_append]

theorem Distinct.around {fs : List Frame} {laid : List LaidLoop} (h : Distinct fs laid) :
    (flagsOf fs).Nodup := (distinct_iff.1 h).of_append_left

theorem Distinct.left {fs : List Frame} {l₁ l₂ : List LaidLoop} (h : Distinct fs (l₁ ++ l₂)) :
    Distinct fs l₁ := by
  rw [distinct_iff, List.map_append, flagsOf_append] at h
  exact distinct_iff.2 (h.sublist ((List.sublist_append_left _ _).append_left _))

theorem Distinct.right {fs : List Frame} {l₁ l₂ : List LaidLoop} (h : Distinct fs (l₁ ++ l₂)) :
    Distinct fs l₂ := by
  rw [distinct_iff, List.map_append, flagsOf_append] at h
  exact distinct_iff.2 (h.sublist ((List.sublist_append_right _ _).append_left _))

theorem Distinct.inner {fs : List Frame} {l : LaidLoop} {laid : List LaidLoop}
    (h : Distinct fs (l :: laid)) : Distinct (l.1 :: fs) laid :=
  (List.perm_middle.flatMap_right _).nodup_iff.1 h

theorem Distinct.scope {fs : List Frame} {laid : List LaidLoop} (h : Distinct fs laid) :
    Distinct [] laid := (distinct_iff.1 h).of_append_right

/-! ## One loop -/

/-- A check for a flag stands after a loop if the jump with the flag leaves the loop's body. -/
theorem LoopLayout.mem_exits {fs : List Frame} {label : Option String}
    {b : List (Stmt Placeholder)} {f : Frame} (h : LoopLayout fs label b f)
    (hfs : (flagsOf fs).Nodup) {x : String} :
    x ∈ f.exits.map Prod.fst ↔
      ∃ j, jumpOf? x fs = some j ∧ j ∈ Stmt.blockJumps none b ∧ label ≠ some j.2 := by
  rw [List.mem_map]
  constructor
  · rintro ⟨⟨y, a⟩, he, rfl⟩
    obtain ⟨k, name, inner, target, hj, hl, ht, hx, -⟩ := (h.exit_iff y a).1 he
    exact ⟨(k, name), (jumpOf?_eq_some hfs).2 (flagOf?_eq_some.2 ⟨inner, target, ht, hx⟩), hj, hl⟩
  · rintro ⟨⟨k, name⟩, hjump, hj, hl⟩
    obtain ⟨inner, target, ht, hx⟩ := flagOf?_eq_some.1 ((jumpOf?_eq_some hfs).1 hjump)
    exact ⟨(x, _), (h.exit_iff x _).2 ⟨k, name, inner, target, hj, hl, ht, hx, rfl⟩, rfl⟩

theorem count_leaving {label : Option String} {js : List NamedJump} {j : NamedJump} :
    (leaving label js).count j = if label = some j.2 then 0 else js.count j := by
  unfold leaving
  split
  · rename_i hl
    exact List.count_eq_zero.2 fun hmem => by simp [hl] at hmem
  · rename_i hl
    exact List.count_filter (by simpa using hl)

/-- The resets, the body and the checks of a loop use a flag as often as the loop, the loops in its
body and the jumps to the loops around ask for. -/
theorem LoopLayout.uses {fs : List Frame} {label : Option String} {b : List (Stmt Placeholder)}
    {f : Frame} (h : LoopLayout fs label b f) (hfs : (flagsOf (f :: fs)).Nodup) (x : String) :
    (if f.flag .breaks = some x then 1 else 0) + (if f.flag .continues = some x then 1 else 0) +
        usesAround x (f :: fs) (Stmt.blockCrossings none b) (Stmt.blockJumps none b)
          (Stmt.blockLoopsLeft · none b) + (if x ∈ f.exits.map Prod.fst then 1 else 0) =
      ((f.jumpOf? x).elim 0 fun j => flagUses j b) +
        usesAround x fs (leaving label (Stmt.blockJumps none b))
          (leaving label (Stmt.blockJumps none b)) (fun j => if label = some j.2 then 0 else
            (if j ∈ Stmt.blockJumps none b then 1 else 0) + Stmt.blockLoopsLeft j none b) := by
  rw [flagsOf_cons, List.nodup_append'] at hfs
  obtain ⟨hown, hrest, hdisj⟩ := hfs
  simp only [h.mem_exits hrest]
  unfold usesAround
  rw [jumpOf?]
  cases hf : f.jumpOf? x with
  | some j =>
    -- The flag is the loop's own.
    obtain ⟨hl, hx⟩ := (Frame.jumpOf?_eq_some hown).1 hf
    have hout : jumpOf? x fs = none :=
      jumpOf?_eq_none hrest (hdisj (Frame.mem_flags.2 ⟨_, hx⟩))
    have hreset : (if f.flag .breaks = some x then 1 else 0) +
        (if f.flag .continues = some x then 1 else 0) = 1 := by
      have hkind (k : JumpKind) : f.flag k = some x ↔ k = j.1 :=
        ⟨Frame.flag_injective hown hx, fun hk => hk ▸ hx⟩
      simp only [hkind]
      cases j.1 <;> rfl
    have hhead : namesHead (f :: fs) j.2 = true := by simp [namesHead, hl]
    simp [hreset, hout, hhead, flagUses, Nat.add_assoc]
  | none =>
    have hno (k : JumpKind) : f.flag k ≠ some x := by
      intro hx
      obtain ⟨name, hname, -⟩ := (h.flag_iff k).1 (by rw [hx]; rfl)
      have hj := (Frame.jumpOf?_eq_some (j := (k, name)) hown).2 ⟨h.label_eq.trans hname, hx⟩
      rw [hf] at hj
      cases hj
    rw [if_neg (hno _), if_neg (hno _), Option.none_or]
    cases hout : jumpOf? x fs with
    | none => simp
    | some j =>
      -- The flag is that of a jump to a loop around, if that is not caught here.
      by_cases hl : label = some j.2
      · simp [h.label_eq, hl, count_leaving, Option.filter_some]
      · have hhead : namesHead (f :: fs) j.2 = false := by simp [namesHead, h.label_eq, hl]
        simp [h.label_eq, hl, count_leaving, hhead, Option.filter_some]
        omega

/-! ## The traversal -/

section

variable {names : List String} {x : String}

/-- How often a name occurs in expressions that the user wrote. -/
theorem uses_exprs (hx : x ∉ names) {es : List Expr}
    (h : NamedIn names (ofExprs es : List (Node Placeholder))) :
    Node.uses x (ofExprs es : List (Node Empty)) = 0 :=
  (Node.namedIn_exprs h).uses_eq_zero hx

theorem uses_expr (hx : x ∉ names) {e : Expr}
    (h : NamedIn names [(.expr e : Node Placeholder)]) :
    Node.uses x [(.expr e : Node Empty)] = 0 :=
  (Node.namedIn_expr e h).uses_eq_zero hx

/-- A simple statement has the same names in either tree. -/
theorem namedIn_simple {sp : Span} {st : Simple}
    (h : NamedIn names [(.stmt (.simple sp st) : Node Placeholder)]) :
    NamedIn names [(.stmt (.simple sp st) : Node Empty)] := by
  obtain ⟨hown, hexprs⟩ := Node.every_simple.1 h
  refine Node.every_simple.2 ⟨?_, Node.namedIn_exprs hexprs⟩
  have hsame : (Node.stmt (.simple sp st) : Node Empty).ownNames =
      (Node.stmt (.simple sp st) : Node Placeholder).ownNames := by
    cases st <;> rfl
  exact hsame ▸ hown

/-- A jump uses the flag that it sets, if it crosses a loop. -/
theorem JumpLaysOut.uses {fs : List Frame} {sp : Span} {k : JumpKind} {l : Expr}
    {out : List (Stmt Empty)} (h : JumpLaysOut fs sp k l out) (hfs : (flagsOf fs).Nodup) :
    Node.uses x (ofStmts out) =
      usesAround x fs [] ((labelOf? l).toList.map (k, ·)) (fun _ => 0) := by
  obtain ⟨name, inner, target, hl, ht, hcase⟩ := h
  have hjump (j : NamedJump) : jumpOf? x fs = some j ↔ flagOf? fs j = some x := jumpOf?_eq_some hfs
  have hother {j : NamedJump} (hne : (k, name) ≠ j) :
      ((if namesHead fs j.2 then [] else [(k, name)]) : List NamedJump).count j = 0 := by
    split <;> simp [hne]
  rw [hl, usesAround, Option.toList_some, List.map_singleton]
  rcases hcase with ⟨hin, rfl⟩ | ⟨hin, y, hy, rfl⟩
  · have hhead := ht.namesHead.2 hin
    rw [uses_plainJump]
    cases hj : jumpOf? x fs with
    | none => rfl
    | some j =>
      by_cases hname : (k, name) = j
      · simp [← hname, hhead]
      · rw [Option.elim_some, hother hname]
  · have hhead : namesHead fs name = false := by simpa [← ht.namesHead] using hin
    have hbreak : Node.uses x (ofStmts [(.simple sp .breaks : Stmt Empty)]) = 0 :=
      uses_plainJump .breaks
    rw [← List.singleton_append, Node.uses_ofStmts_append, uses_setFlag, hbreak]
    have hflag := ht.flagOf? k
    rw [hy] at hflag
    by_cases hyx : y = x
    · subst hyx
      simp [(hjump _).2 hflag, hhead]
    · rw [if_neg hyx]
      cases hj : jumpOf? x fs with
      | none => rfl
      | some j =>
        have hne : (k, name) ≠ j := by
          rintro rfl
          exact hyx (Option.some.inj (hflag.symm.trans ((hjump _).1 hj)))
        rw [Option.elim_some, hother hne]

mutual

/-- In a statement that is laid out, a name that the user does not use occurs as a flag of the loops
in it and of the loops around. -/
theorem stmt_uses (hx : x ∉ names) (fs : List Frame) (label : Option String) :
    ∀ (s : Stmt Placeholder) (laid : List LaidLoop) (out : List (Stmt Empty)),
      s.LaysOut fs label laid out → Distinct fs laid → NamedIn names [.stmt s] →
      Node.uses x (ofStmts out) =
        usesAround x fs (s.crossings label) (s.jumps label) (s.loopsLeft · label) +
          usesOfLoops x laid
  | .simple sp st, _, _, ⟨hlaid, hout⟩, _, hn => by
    subst hlaid hout
    rw [ofStmts, List.map_singleton, (namedIn_simple hn).uses_eq_zero hx]
    simp [Stmt.crossings, Stmt.jumps, Stmt.loopsLeft]
  | .hole sp (.jump k l), _, _, ⟨hlaid, hjump⟩, hd, _ => by
    subst hlaid
    rw [hjump.uses hd.around]
    rfl
  | .hole _ (.loopLabel _), _, _, ⟨hlaid, hout⟩, _, _ => by
    subst hlaid hout
    simp [Stmt.crossings, Stmt.jumps, Stmt.loopsLeft, ofStmts]
  | .branch sp t b o, _, _, ⟨l₁, l₂, b', o', hb, ho, hlaid, hout⟩, hd, hn => by
    subst hlaid hout
    obtain ⟨-, ht, hnb, hno⟩ := Node.every_branch.1 hn
    rw [ofStmts, List.map_singleton, uses_branch, uses_expr hx ht,
      block_uses hx fs none b l₁ b' hb hd.left hnb, block_uses hx fs none o l₂ o' ho hd.right hno,
      Stmt.crossings, Stmt.jumps]
    simp only [Stmt.loopsLeft, usesAround_append, usesOfLoops_append]
    omega
  | .loop sp h b o, _, _, ⟨f, l₁, l₂, b', o', hb, ho, hf, hlaid, hout⟩, hd, hn => by
    subst hlaid hout
    obtain ⟨-, hh, hnb, hno⟩ := Node.every_loop.1 hn
    have hin : Distinct (f :: fs) (l₁ ++ l₂) := hd.inner
    have hb' := block_uses hx (f :: fs) none b l₁ b' hb hin.left hnb
    have ho' := block_uses hx fs none o l₂ o' ho hd.right hno
    have hone := hf.uses hin.around x
    rw [Node.uses_ofStmts_append, ← List.singleton_append, Node.uses_ofStmts_append,
      uses_checks hf.once, uses_resets]
    rw [show ofStmts [Stmt.loop sp h (resets sp (f.flag .continues) ++ b') o'] = [.stmt _] from rfl,
      uses_loop, uses_exprs hx hh, Node.uses_ofStmts_append, uses_resets, hb', ho', Stmt.crossings,
      Stmt.jumps]
    simp only [Stmt.loopsLeft, usesAround_append, usesOfLoops_append, usesOfLoops_cons,
      List.cons_append]
    omega
  | .function sp h b, laid, _, ⟨b', hb, hout⟩, hd, hn => by
    subst hout
    obtain ⟨hown, hh, hnb⟩ := Node.every_function.1 hn
    have hnames : x ∉ h.name :: h.params.names := fun hmem => hx (hown x hmem)
    rw [ofStmts, List.map_singleton, uses_function, uses_exprs hx hh, List.count_eq_zero.2 hnames,
      block_uses hx [] none b laid b' hb hd.scope hnb]
    simp [Stmt.crossings, Stmt.jumps, Stmt.loopsLeft]
  | .klass sp h b, laid, _, ⟨b', hb, hout⟩, hd, hn => by
    subst hout
    obtain ⟨hown, hh, hnb⟩ := Node.every_klass.1 hn
    have hname : x ∉ [h.name] := fun hmem => hx (hown x hmem)
    rw [ofStmts, List.map_singleton, uses_klass, uses_exprs hx hh, List.count_eq_zero.2 hname,
      block_uses hx [] none b laid b' hb hd.scope hnb]
    simp [Stmt.crossings, Stmt.jumps, Stmt.loopsLeft]
  | .withItems sp a is b, laid, _, ⟨b', hb, hout⟩, hd, hn => by
    subst hout
    obtain ⟨-, hi, hnb⟩ := Node.every_withItems.1 hn
    rw [ofStmts, List.map_singleton, uses_withItems, uses_exprs hx hi,
      block_uses hx fs none b laid b' hb hd hnb, Nat.zero_add]
    rfl
  | .attempt sp star b hs o f, _, _,
      ⟨l₁, l₂, l₃, l₄, b', hs', o', f', hb, hh, ho, hf, hlaid, hout⟩, hd, hn => by
    subst hlaid hout
    obtain ⟨-, hnb, hnh, hno, hnf⟩ := Node.every_attempt.1 hn
    have hd₂ := hd.right
    rw [ofStmts, List.map_singleton, uses_attempt,
      block_uses hx fs none b l₁ b' hb hd.left hnb,
      handlers_uses hx fs hs l₂ hs' hh hd₂.left hnh,
      block_uses hx fs none o l₃ o' ho hd₂.right.left hno,
      block_uses hx fs none f l₄ f' hf hd₂.right.right hnf, Stmt.crossings, Stmt.jumps]
    simp only [Stmt.loopsLeft, usesAround_append, usesOfLoops_append]
    omega
  | .select sp e cs, laid, _, ⟨cs', hcs, hout⟩, hd, hn => by
    subst hout
    obtain ⟨-, he, hnc⟩ := Node.every_select.1 hn
    rw [ofStmts, List.map_singleton, uses_select, uses_expr hx he,
      cases_uses hx fs cs laid cs' hcs hd hnc, Nat.zero_add]
    rfl

theorem block_uses (hx : x ∉ names) (fs : List Frame) (label : Option String) :
    ∀ (b : List (Stmt Placeholder)) (laid : List LaidLoop) (out : List (Stmt Empty)),
      Stmt.BlockLaysOut fs label laid out b → Distinct fs laid → NamedIn names (ofStmts b) →
      Node.uses x (ofStmts out) =
        usesAround x fs (Stmt.blockCrossings label b) (Stmt.blockJumps label b)
          (Stmt.blockLoopsLeft · label b) + usesOfLoops x laid
  | [], _, _, ⟨hlaid, hout⟩, _, _ => by
    subst hlaid hout
    simp [Stmt.blockCrossings, Stmt.blockJumps, Stmt.blockLoopsLeft, ofStmts]
  | s :: rest, _, _, ⟨l₁, l₂, first, more, hs, hrest, hlaid, hout⟩, hd, hn => by
    subst hlaid hout
    obtain ⟨hns, hnr⟩ := Node.every_ofStmts_cons.1 hn
    rw [Node.uses_ofStmts_append, stmt_uses hx fs label s l₁ first hs hd.left hns,
      block_uses hx fs _ rest l₂ more hrest hd.right hnr, Stmt.blockCrossings, Stmt.blockJumps]
    simp only [Stmt.blockLoopsLeft, usesAround_append, usesOfLoops_append]
    omega

theorem handlers_uses (hx : x ∉ names) (fs : List Frame) :
    ∀ (hs : List (Handler Placeholder)) (laid : List LaidLoop) (out : List (Handler Empty)),
      Handler.LayOut fs laid out hs → Distinct fs laid → NamedIn names (hs.map .handler) →
      Node.uses x (out.map .handler) =
        usesAround x fs (Handler.crossings hs) (Handler.jumps hs) (Handler.loopsLeft · hs) +
          usesOfLoops x laid
  | [], _, _, ⟨hlaid, hout⟩, _, _ => by
    subst hlaid hout
    simp [Handler.crossings, Handler.jumps, Handler.loopsLeft]
  | .mk p t n b :: hs, _, _, ⟨l₁, l₂, b', hs', hb, hh, hlaid, hout⟩, hd, hn => by
    subst hlaid hout
    obtain ⟨hown, ht, hnb, hnh⟩ := Node.every_handlers.1 hn
    have hname : x ∉ n.toList := by
      cases n with
      | none => exact List.not_mem_nil
      | some n => exact fun hmem => hx (hown x hmem)
    rw [uses_handlers, uses_exprs hx ht, List.count_eq_zero.2 hname,
      block_uses hx fs none b l₁ b' hb hd.left hnb, handlers_uses hx fs hs l₂ hs' hh hd.right hnh,
      Handler.crossings, Handler.jumps]
    simp only [Handler.loopsLeft, usesAround_append, usesOfLoops_append]
    omega

theorem cases_uses (hx : x ∉ names) (fs : List Frame) :
    ∀ (cs : List (Case Placeholder)) (laid : List LaidLoop) (out : List (Case Empty)),
      Case.LayOut fs laid out cs → Distinct fs laid → NamedIn names (cs.map .case) →
      Node.uses x (out.map .case) =
        usesAround x fs (Case.crossings cs) (Case.jumps cs) (Case.loopsLeft · cs) +
          usesOfLoops x laid
  | [], _, _, ⟨hlaid, hout⟩, _, _ => by
    subst hlaid hout
    simp [Case.crossings, Case.jumps, Case.loopsLeft]
  | .mk p g b :: cs, _, _, ⟨l₁, l₂, b', cs', hb, hcs, hlaid, hout⟩, hd, hn => by
    subst hlaid hout
    obtain ⟨-, hp, hg, hnb, hnc⟩ := Node.every_cases.1 hn
    rw [uses_cases, (Node.namedIn_pattern p hp).uses_eq_zero hx, uses_exprs hx hg,
      block_uses hx fs none b l₁ b' hb hd.left hnb, cases_uses hx fs cs l₂ cs' hcs hd.right hnc,
      Case.crossings, Case.jumps]
    simp only [Case.loopsLeft, usesAround_append, usesOfLoops_append]
    omega

end

end

/-! ## Whole modules -/

namespace Module

/-- Without diagnostics a module is laid out, and no two flags of its loops are the same. -/
theorem lower_laysOut {s : Settings} {file : Option String} {m : Module Placeholder}
    (hds : (m.lower s file).diagnostics = []) (hw : (m.lower s file).unwritable = none) :
    ∃ laid : List LaidLoop,
      Stmt.BlockLaysOut [] none laid (m.lower s file).module.body m.body ∧
      (flagsOf (laid.map Prod.fst)).Nodup ∧
        ∀ x ∈ flagsOf (laid.map Prod.fst), x ∉ namesIn m.body := by
  have hfaults : Lower.Faultless (Stmt.blockSites [] none m.body) :=
    lower_succeeds_iff.1 ⟨hw, hds⟩
  obtain ⟨-, hadv, loops, hown, hout⟩ :=
    Lower.block_laysOut ⟨file, s.flagPrefix⟩ (namesIn m.body) [] none m.body
      ⟨[], namesIn m.body, [], none⟩ ⟨.nil _, by simp [flagsOf], List.Subset.refl _⟩
  -- No loop is around a module, before or after.
  have hnone := List.forall₂_nil_left_iff.1 hadv.frames
  obtain ⟨laid, rfl, hlaid⟩ := hout [] ⟨by rw [hnone]; exact .nil, .nil _⟩ rfl hfaults
  exact ⟨laid, hlaid, hown.nodup, hown.fresh⟩

end Module

theorem usesOfLoops_eq_zero {x : String} {laid : List LaidLoop}
    (h : x ∉ flagsOf (laid.map Prod.fst)) (hn : (flagsOf (laid.map Prod.fst)).Nodup) :
    usesOfLoops x laid = 0 := by
  induction laid with
  | nil => rfl
  | cons l laid ih =>
    rw [List.map_cons, flagsOf_cons] at h hn
    rw [List.mem_append, not_or] at h
    rw [List.nodup_append'] at hn
    have hno : l.1.jumpOf? x = none := by
      by_contra hne
      obtain ⟨j, hj⟩ := Option.ne_none_iff_exists'.1 hne
      exact h.1 (Frame.mem_flags.2 ⟨_, ((Frame.jumpOf?_eq_some hn.1).1 hj).2⟩)
    rw [usesOfLoops_cons, hno, ih h.2 hn.2.1]
    rfl

/-- A flag of one loop is used for that loop only. -/
theorem usesOfLoops_eq {x : String} {laid : List LaidLoop} {f : Frame}
    {body : List (Stmt Placeholder)} {j : NamedJump}
    (hn : (flagsOf (laid.map Prod.fst)).Nodup) (hmem : (f, body) ∈ laid)
    (hl : f.label = some j.2) (hx : f.flag j.1 = some x) :
    usesOfLoops x laid = flagUses j body := by
  induction laid with
  | nil => cases hmem
  | cons l laid ih =>
    rw [List.map_cons, flagsOf_cons, List.nodup_append'] at hn
    obtain ⟨hown, hrest, hdisj⟩ := hn
    rw [usesOfLoops_cons]
    rcases List.mem_cons.1 hmem with rfl | hmem
    · have hflag : x ∉ flagsOf (laid.map Prod.fst) := hdisj (Frame.mem_flags.2 ⟨_, hx⟩)
      rw [(Frame.jumpOf?_eq_some hown).2 ⟨hl, hx⟩, usesOfLoops_eq_zero hflag hrest]
      rfl
    · have hflag : x ∈ flagsOf (laid.map Prod.fst) :=
        List.mem_flatMap.2 ⟨f, List.mem_map_of_mem hmem, Frame.mem_flags.2 ⟨_, hx⟩⟩
      have hno : l.1.jumpOf? x = none := by
        by_contra hne
        obtain ⟨i, hi⟩ := Option.ne_none_iff_exists'.1 hne
        exact hdisj (Frame.mem_flags.2 ⟨_, ((Frame.jumpOf?_eq_some hown).1 hi).2⟩) hflag
      rw [hno, ih hrest hmem]
      exact Nat.zero_add _

end JumpMacros
