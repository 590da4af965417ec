import JumpMacros.Proofs.FlagNames
import JumpMacros.Proofs.LabelDiagnostics

/-!
# What lowering makes of a tree

`Stmt.LowersTo` says which statements stand for a statement after lowering, given the final frames
of the loops around it. Each jump is resolved to the innermost loop of its name: it becomes a
plain jump if that is the innermost loop of all, and otherwise sets the loop's flag and breaks.
Each loop is followed by the checks for the jumps that leave it.

That lowering gives such statements is shown in `JumpMacros.Proofs.FrameGrowth`.
-/

namespace JumpMacros

/-! ## Jumps that leave a statement -/

/-- The jumps that a loop with a label does not catch. -/
def leaving (label : Option String) (js : List NamedJump) : List NamedJump :=
  js.filter fun j => label != some j.2

@[simp] theorem leaving_append (label : Option String) (js js' : List NamedJump) :
    leaving label (js ++ js') = leaving label js ++ leaving label js' := by
  simp [leaving]

theorem mem_leaving {label : Option String} {js : List NamedJump} {j : NamedJump} :
    j ∈ leaving label js ↔ j ∈ js ∧ label ≠ some j.2 := by
  simp [leaving]

mutual

/-- The jumps in a statement that leave it, in source order. A loop catches the jumps of its body
to its own label; nothing leaves a definition. -/
def Stmt.jumps (label : Option String) : Stmt Placeholder → List NamedJump
  | .simple _ _ => []
  | .hole _ (.jump k l) => (Lower.labelOf? l).toList.map (k, ·)
  | .hole _ (.loopLabel _) => []
  | .branch _ _ b o => Stmt.blockJumps none b ++ Stmt.blockJumps none o
  | .loop _ _ b o => leaving label (Stmt.blockJumps none b) ++ Stmt.blockJumps none o
  | .function _ _ _ => []
  | .klass _ _ _ => []
  | .withItems _ _ _ b => Stmt.blockJumps none b
  | .attempt _ _ b hs o f =>
    Stmt.blockJumps none b ++ Handler.jumps hs ++ Stmt.blockJumps none o ++
      Stmt.blockJumps none f
  | .select _ _ cs => Case.jumps cs

/-- The jumps that leave a block whose first statement has a label. -/
def Stmt.blockJumps (label : Option String) : List (Stmt Placeholder) → List NamedJump
  | [] => []
  | s :: rest => s.jumps label ++ Stmt.blockJumps (Layer.labelFrom (some s)) rest

def Handler.jumps : List (Handler Placeholder) → List NamedJump
  | [] => []
  | .mk _ _ _ b :: hs => Stmt.blockJumps none b ++ Handler.jumps hs

def Case.jumps : List (Case Placeholder) → List NamedJump
  | [] => []
  | .mk _ _ b :: cs => Stmt.blockJumps none b ++ Case.jumps cs

end

/-! ## Frames -/

/-- The flag of the innermost loop with a jump's name. -/
def flagOf? : List Frame → NamedJump → Option String
  | [], _ => none
  | f :: fs, j => if f.label = some j.2 then f.flag j.1 else flagOf? fs j

/-- Whether the innermost loop has a name. -/
def namesHead (fs : List Frame) (name : String) : Bool :=
  (fs.head?.bind Frame.label) == some name

/-- The check for a jump next to the loops `fs` that are left to go: it does what was asked for if
the innermost of them is the target, and leaves otherwise. -/
def exitOf? (fs : List Frame) (j : NamedJump) : Option Exit :=
  (flagOf? fs j).map fun x => (x, if namesHead fs j.2 then j.1 else .breaks)

/-- Adds a check, unless it is there already. -/
def addCheck (es : List Exit) (e : Exit) : List Exit := if es.contains e then es else es ++ [e]

theorem Frame.addExit_exits (f : Frame) (e : Exit) : (f.addExit e).exits = addCheck f.exits e := by
  unfold Frame.addExit addCheck
  split <;> rfl

theorem Frame.addExit_label (f : Frame) (e : Exit) : (f.addExit e).label = f.label := by
  unfold Frame.addExit
  split <;> rfl

theorem Frame.addExit_flag (f : Frame) (e : Exit) (k : JumpKind) :
    (f.addExit e).flag k = f.flag k := by
  unfold Frame.addExit
  split <;> cases k <;> rfl

/-- The flags of a frame. -/
def Frame.flags (f : Frame) : List String := f.breakFlag.toList ++ f.continueFlag.toList

theorem Frame.mem_flags {f : Frame} {x : String} : x ∈ f.flags ↔ ∃ k, f.flag k = some x := by
  constructor
  · intro h
    rcases List.mem_append.1 h with h | h
    · exact ⟨.breaks, by simpa [Frame.flag] using h⟩
    · exact ⟨.continues, by simpa [Frame.flag] using h⟩
  · rintro ⟨k, h⟩
    cases k with
    | breaks => exact List.mem_append_left _ (by simpa [Frame.flag] using h)
    | continues => exact List.mem_append_right _ (by simpa [Frame.flag] using h)

theorem Frame.flag_injective {f : Frame} (h : f.flags.Nodup) {k k' : JumpKind} {x : String}
    (hk : f.flag k = some x) (hk' : f.flag k' = some x) : k' = k := by
  cases k <;> cases k' <;> simp_all [Frame.flags, Frame.flag]

/-- All flags of some loops. -/
def flagsOf (fs : List Frame) : List String := fs.flatMap Frame.flags

@[simp] theorem flagsOf_cons (f : Frame) (fs : List Frame) :
    flagsOf (f :: fs) = f.flags ++ flagsOf fs := rfl

/-- The flags of some loops are in order: no two are the same, and each is allowed for its
jumps. -/
structure FlagsOk (Allowed : JumpKind → String → String → Prop) (fs : List Frame) : Prop where
  nodup : (flagsOf fs).Nodup
  allowed : ∀ f ∈ fs, ∀ k x, f.flag k = some x → ∃ name, f.label = some name ∧ Allowed k name x

theorem FlagsOk.nil (Allowed : JumpKind → String → String → Prop) : FlagsOk Allowed [] :=
  ⟨.nil, by simp⟩

theorem flagsOk_cons {Allowed : JumpKind → String → String → Prop} {f : Frame}
    {fs : List Frame} :
    FlagsOk Allowed (f :: fs) ↔ FlagsOk Allowed [f] ∧ FlagsOk Allowed fs ∧
      ∀ x ∈ f.flags, x ∉ flagsOf fs := by
  constructor
  · rintro ⟨hn, ha⟩
    rw [flagsOf_cons, List.nodup_append'] at hn
    refine ⟨⟨by simpa [flagsOf] using hn.1, ?_⟩, ⟨hn.2.1, ?_⟩, hn.2.2⟩
    · exact fun g hg => ha g (by simp_all)
    · exact fun g hg => ha g (List.mem_cons_of_mem _ hg)
  · rintro ⟨⟨hn, ha⟩, ⟨hns, has⟩, hd⟩
    refine ⟨?_, fun g hg => ?_⟩
    · rw [flagsOf_cons, List.nodup_append']
      exact ⟨by simpa [flagsOf] using hn, hns, hd⟩
    · rcases List.mem_cons.1 hg with rfl | hg
      · exact ha g List.mem_cons_self
      · exact has g hg

/-- What a loop's frame says in the end, given the loops around it and the jumps of its body. -/
structure FrameOk (Allowed : JumpKind → String → String → Prop) (js : List NamedJump)
    (label : Option String) (f : Frame) (fs : List Frame) : Prop where
  label_eq : f.label = label
  flags : FlagsOk Allowed (f :: fs)
  exits : f.exits = ((leaving label js).filterMap (exitOf? fs)).foldl addCheck []

theorem mem_flagsOf_of_flagOf? {fs : List Frame} {j : NamedJump} {x : String}
    (h : flagOf? fs j = some x) :
    x ∈ flagsOf fs := by
  induction fs with
  | nil => cases h
  | cons f fs ih =>
    unfold flagOf? at h
    split at h
    · exact List.mem_append_left _ (Frame.mem_flags.2 ⟨_, h⟩)
    · exact List.mem_append_right _ (ih h)

theorem mem_foldl_addCheck {e : Exit} {es acc : List Exit} (h : e ∈ es.foldl addCheck acc) :
    e ∈ acc ∨ e ∈ es := by
  induction es generalizing acc with
  | nil => exact .inl h
  | cons e' es ih =>
    rcases ih h with h | h
    · unfold addCheck at h
      split at h
      · exact .inl h
      · rcases List.mem_append.1 h with h | h
        · exact .inl h
        · exact .inr (List.mem_singleton.1 h ▸ List.mem_cons_self)
    · exact .inr (List.mem_cons_of_mem _ h)

/-- The checks after a loop are of flags of the loops around. -/
theorem FrameOk.mem_flagsOf {Allowed : JumpKind → String → String → Prop} {js : List NamedJump}
    {label : Option String} {f : Frame} {fs : List Frame} (h : FrameOk Allowed js label f fs)
    {e : Exit} (he : e ∈ f.exits) : e.1 ∈ flagsOf fs := by
  rw [h.exits] at he
  rcases mem_foldl_addCheck he with he | he
  · cases he
  · obtain ⟨j, -, hj⟩ := List.mem_filterMap.1 he
    obtain ⟨x, hx, rfl⟩ := Option.map_eq_some_iff.1 hj
    exact mem_flagsOf_of_flagOf? hx

/-! ## The lowered tree -/

open Lower (plainJump setFlag assemble labelOf?)

/-- What a jump lowers to inside of some loops: it is resolved to the innermost one of its
name. -/
def JumpLowersTo (fs : List Frame) (sp : Span) (k : JumpKind) (l : Expr)
    (out : List (Stmt Empty)) : Prop :=
  match labelOf? l with
  | none => out = [plainJump sp k]
  | some name =>
    if !(fs.map Frame.label).contains (some name) || namesHead fs name then
      out = [plainJump sp k]
    else ∃ x, flagOf? fs (k, name) = some x ∧ out = [setFlag sp x true, .simple sp .breaks]

section

variable (Allowed : JumpKind → String → String → Prop)

mutual

/-- The statements `out` stand for a statement inside of the loops `fs`. -/
def Stmt.LowersTo (fs : List Frame) (label : Option String) (out : List (Stmt Empty)) :
    Stmt Placeholder → Prop
  | .simple sp s => out = [.simple sp s]
  | .hole sp (.jump k l) => JumpLowersTo fs sp k l out
  | .hole _ (.loopLabel _) => out = []
  | .branch sp t b o => ∃ b' o', Stmt.BlockLowersTo fs none b' b ∧
      Stmt.BlockLowersTo fs none o' o ∧ out = [.branch sp t b' o']
  | .loop sp h b o => ∃ f b' o', Stmt.BlockLowersTo (f :: fs) none b' b ∧
      Stmt.BlockLowersTo fs none o' o ∧ FrameOk Allowed (Stmt.blockJumps none b) label f fs ∧
      out = assemble sp h b' o' f
  | .function sp h b => ∃ b', Stmt.BlockLowersTo [] none b' b ∧ out = [.function sp h b']
  | .klass sp h b => ∃ b', Stmt.BlockLowersTo [] none b' b ∧ out = [.klass sp h b']
  | .withItems sp a is b => ∃ b', Stmt.BlockLowersTo fs none b' b ∧ out = [.withItems sp a is b']
  | .attempt sp star b hs o f => ∃ b' hs' o' f', Stmt.BlockLowersTo fs none b' b ∧
      Handler.LowerTo fs hs' hs ∧ Stmt.BlockLowersTo fs none o' o ∧
      Stmt.BlockLowersTo fs none f' f ∧ out = [.attempt sp star b' hs' o' f']
  | .select sp e cs => ∃ cs', Case.LowerTo fs cs' cs ∧ out = [.select sp e cs']

/-- The statements `out` stand for a block whose first statement has a label. -/
def Stmt.BlockLowersTo (fs : List Frame) (label : Option String) (out : List (Stmt Empty)) :
    List (Stmt Placeholder) → Prop
  | [] => out = []
  | s :: rest => ∃ first more, s.LowersTo fs label first ∧
      Stmt.BlockLowersTo fs (Layer.labelFrom (some s)) more rest ∧ out = first ++ more

def Handler.LowerTo (fs : List Frame) (out : List (Handler Empty)) :
    List (Handler Placeholder) → Prop
  | [] => out = []
  | .mk p t n b :: hs => ∃ b' hs', Stmt.BlockLowersTo fs none b' b ∧ Handler.LowerTo fs hs' hs ∧
      out = .mk p t n b' :: hs'

def Case.LowerTo (fs : List Frame) (out : List (Case Empty)) : List (Case Placeholder) → Prop
  | [] => out = []
  | .mk p g b :: cs => ∃ b' cs', Stmt.BlockLowersTo fs none b' b ∧ Case.LowerTo fs cs' cs ∧
      out = .mk p g b' :: cs'

end

/-! ## The loops of a lowered tree

`Stmt.LowersBy` is `Stmt.LowersTo` with a list of what is chosen there: the final frames of the
loops in the statement, in source order. -/

mutual

/-- The statements `out` stand for a statement inside of the loops `fs`, and the loops in it have
the frames `loops` in the end. -/
def Stmt.LowersBy (fs : List Frame) (label : Option String) (loops : List Frame)
    (out : List (Stmt Empty)) : Stmt Placeholder → Prop
  | .simple sp s => loops = [] ∧ out = [.simple sp s]
  | .hole sp (.jump k l) => loops = [] ∧ JumpLowersTo fs sp k l out
  | .hole _ (.loopLabel _) => loops = [] ∧ out = []
  | .branch sp t b o => ∃ l₁ l₂ b' o', Stmt.BlockLowersBy fs none l₁ b' b ∧
      Stmt.BlockLowersBy fs none l₂ o' o ∧ loops = l₁ ++ l₂ ∧ out = [.branch sp t b' o']
  | .loop sp h b o => ∃ f l₁ l₂ b' o', Stmt.BlockLowersBy (f :: fs) none l₁ b' b ∧
      Stmt.BlockLowersBy fs none l₂ o' o ∧ FrameOk Allowed (Stmt.blockJumps none b) label f fs ∧
      loops = f :: l₁ ++ l₂ ∧ out = assemble sp h b' o' f
  | .function sp h b => ∃ b', Stmt.BlockLowersBy [] none loops b' b ∧ out = [.function sp h b']
  | .klass sp h b => ∃ b', Stmt.BlockLowersBy [] none loops b' b ∧ out = [.klass sp h b']
  | .withItems sp a is b => ∃ b', Stmt.BlockLowersBy fs none loops b' b ∧
      out = [.withItems sp a is b']
  | .attempt sp star b hs o f => ∃ l₁ l₂ l₃ l₄ b' hs' o' f', Stmt.BlockLowersBy fs none l₁ b' b ∧
      Handler.LowerBy fs l₂ hs' hs ∧ Stmt.BlockLowersBy fs none l₃ o' o ∧
      Stmt.BlockLowersBy fs none l₄ f' f ∧ loops = l₁ ++ (l₂ ++ (l₃ ++ l₄)) ∧
      out = [.attempt sp star b' hs' o' f']
  | .select sp e cs => ∃ cs', Case.LowerBy fs loops cs' cs ∧ out = [.select sp e cs']

def Stmt.BlockLowersBy (fs : List Frame) (label : Option String) (loops : List Frame)
    (out : List (Stmt Empty)) : List (Stmt Placeholder) → Prop
  | [] => loops = [] ∧ out = []
  | s :: rest => ∃ l₁ l₂ first more, s.LowersBy fs label l₁ first ∧
      Stmt.BlockLowersBy fs (Layer.labelFrom (some s)) l₂ more rest ∧ loops = l₁ ++ l₂ ∧
      out = first ++ more

def Handler.LowerBy (fs : List Frame) (loops : List Frame) (out : List (Handler Empty)) :
    List (Handler Placeholder) → Prop
  | [] => loops = [] ∧ out = []
  | .mk p t n b :: hs => ∃ l₁ l₂ b' hs', Stmt.BlockLowersBy fs none l₁ b' b ∧
      Handler.LowerBy fs l₂ hs' hs ∧ loops = l₁ ++ l₂ ∧ out = .mk p t n b' :: hs'

def Case.LowerBy (fs : List Frame) (loops : List Frame) (out : List (Case Empty)) :
    List (Case Placeholder) → Prop
  | [] => loops = [] ∧ out = []
  | .mk p g b :: cs => ∃ l₁ l₂ b' cs', Stmt.BlockLowersBy fs none l₁ b' b ∧
      Case.LowerBy fs l₂ cs' cs ∧ loops = l₁ ++ l₂ ∧ out = .mk p g b' :: cs'

end

mutual

/-- The frames of the loops can be left out. -/
theorem Stmt.LowersBy.lowersTo {fs : List Frame} {label : Option String} {loops : List Frame}
    {out : List (Stmt Empty)} : ∀ {s : Stmt Placeholder},
    s.LowersBy Allowed fs label loops out → s.LowersTo Allowed fs label out
  | .simple _ _, h => h.2
  | .hole _ (.jump _ _), h => h.2
  | .hole _ (.loopLabel _), h => h.2
  | .branch _ _ _ _, ⟨_, _, b', o', hb, ho, _, hout⟩ =>
    ⟨b', o', Stmt.BlockLowersBy.lowersTo hb, Stmt.BlockLowersBy.lowersTo ho, hout⟩
  | .loop _ _ _ _, ⟨f, _, _, b', o', hb, ho, hf, _, hout⟩ =>
    ⟨f, b', o', Stmt.BlockLowersBy.lowersTo hb, Stmt.BlockLowersBy.lowersTo ho, hf, hout⟩
  | .function _ _ _, ⟨b', hb, hout⟩ => ⟨b', Stmt.BlockLowersBy.lowersTo hb, hout⟩
  | .klass _ _ _, ⟨b', hb, hout⟩ => ⟨b', Stmt.BlockLowersBy.lowersTo hb, hout⟩
  | .withItems _ _ _ _, ⟨b', hb, hout⟩ => ⟨b', Stmt.BlockLowersBy.lowersTo hb, hout⟩
  | .attempt _ _ _ _ _ _, ⟨_, _, _, _, b', hs', o', f', hb, hh, ho, hf, _, hout⟩ =>
    ⟨b', hs', o', f', Stmt.BlockLowersBy.lowersTo hb, Handler.LowerBy.lowerTo hh,
      Stmt.BlockLowersBy.lowersTo ho, Stmt.BlockLowersBy.lowersTo hf, hout⟩
  | .select _ _ _, ⟨cs', hcs, hout⟩ => ⟨cs', Case.LowerBy.lowerTo hcs, hout⟩

theorem Stmt.BlockLowersBy.lowersTo {fs : List Frame} {label : Option String} {loops : List Frame}
    {out : List (Stmt Empty)} : ∀ {b : List (Stmt Placeholder)},
    Stmt.BlockLowersBy Allowed fs label loops out b → Stmt.BlockLowersTo Allowed fs label out b
  | [], h => h.2
  | _ :: _, ⟨_, _, first, more, hs, hrest, _, hout⟩ =>
    ⟨first, more, Stmt.LowersBy.lowersTo hs, Stmt.BlockLowersBy.lowersTo hrest, hout⟩

theorem Handler.LowerBy.lowerTo {fs : List Frame} {loops : List Frame}
    {out : List (Handler Empty)} : ∀ {hs : List (Handler Placeholder)},
    Handler.LowerBy Allowed fs loops out hs → Handler.LowerTo Allowed fs out hs
  | [], h => h.2
  | .mk _ _ _ _ :: _, ⟨_, _, b', hs', hb, hh, _, hout⟩ =>
    ⟨b', hs', Stmt.BlockLowersBy.lowersTo hb, Handler.LowerBy.lowerTo hh, hout⟩

theorem Case.LowerBy.lowerTo {fs : List Frame} {loops : List Frame} {out : List (Case Empty)} :
    ∀ {cs : List (Case Placeholder)},
    Case.LowerBy Allowed fs loops out cs → Case.LowerTo Allowed fs out cs
  | [], h => h.2
  | .mk _ _ _ :: _, ⟨_, _, b', cs', hb, hcs, _, hout⟩ =>
    ⟨b', cs', Stmt.BlockLowersBy.lowersTo hb, Case.LowerBy.lowerTo hcs, hout⟩

end

end

end JumpMacros
