import JumpMacros.Proofs.FlagDemand

/-!
# Lowered trees are determined by their flags

**Theorem (`Module.lower_settles`).** Lowering makes of a module what `Stmt.SettlesTo` says, with or
without faults in its labels.

`Stmt.LowersBy` leaves it open which flags the loops have; `Stmt.SettlesTo` says that too: a loop
has a flag for a kind of jump exactly if some jump of that kind crosses another loop on its way to
it. Only the names of the flags are left to choose, which is what two lowered trees are compared by.
-/

namespace JumpMacros

open Lower (assemble)

/-- What the frame of a loop comes to be, given the loops around it: it has the flags that jumps to
it need, and the checks of the jumps that leave it. -/
structure Frame.Settled (label : Option String) (body : List (Stmt Placeholder)) (fs : List Frame)
    (f : Frame) : Prop where
  label_eq : f.label = label
  flagged : ∀ k, (f.flag k).isSome = true ↔
    ∃ name, label = some name ∧ (k, name) ∈ Stmt.blockCrossings none body
  exits : f.exits = ((leaving label (Stmt.blockJumps none body)).filterMap (exitOf? fs)).foldl
    addCheck []

mutual

/-- The statements `out`, with the loop frames `loops` in source order, are what lowering makes of a
statement inside of the loops `fs`. -/
def Stmt.SettlesTo (fs : List Frame) (label : Option String) (loops : List Frame)
    (out : List (Stmt Empty)) : Stmt Placeholder → Prop
  | .simple sp s => loops = [] ∧ out = [.simple sp s]
  | .hole sp (.jump k l) => loops = [] ∧ JumpLowersTo fs sp k l out
  | .hole _ (.loopLabel _) => loops = [] ∧ out = []
  | .branch sp t b o => ∃ l₁ l₂ b' o', Stmt.BlockSettlesTo fs none l₁ b' b ∧
      Stmt.BlockSettlesTo fs none l₂ o' o ∧ loops = l₁ ++ l₂ ∧ out = [.branch sp t b' o']
  | .loop sp h b o => ∃ f l₁ l₂ b' o', Stmt.BlockSettlesTo (f :: fs) none l₁ b' b ∧
      Stmt.BlockSettlesTo fs none l₂ o' o ∧ f.Settled label b fs ∧ loops = f :: l₁ ++ l₂ ∧
      out = assemble sp h b' o' f
  | .function sp h b => ∃ b', Stmt.BlockSettlesTo [] none loops b' b ∧ out = [.function sp h b']
  | .klass sp h b => ∃ b', Stmt.BlockSettlesTo [] none loops b' b ∧ out = [.klass sp h b']
  | .withItems sp a is b => ∃ b', Stmt.BlockSettlesTo fs none loops b' b ∧
      out = [.withItems sp a is b']
  | .attempt sp star b hs o f => ∃ l₁ l₂ l₃ l₄ b' hs' o' f', Stmt.BlockSettlesTo fs none l₁ b' b ∧
      Handler.SettleTo fs l₂ hs' hs ∧ Stmt.BlockSettlesTo fs none l₃ o' o ∧
      Stmt.BlockSettlesTo fs none l₄ f' f ∧ loops = l₁ ++ (l₂ ++ (l₃ ++ l₄)) ∧
      out = [.attempt sp star b' hs' o' f']
  | .select sp e cs => ∃ cs', Case.SettleTo fs loops cs' cs ∧ out = [.select sp e cs']

/-- The same for a block whose first statement has a label. -/
def Stmt.BlockSettlesTo (fs : List Frame) (label : Option String) (loops : List Frame)
    (out : List (Stmt Empty)) : List (Stmt Placeholder) → Prop
  | [] => loops = [] ∧ out = []
  | s :: rest => ∃ l₁ l₂ first more, s.SettlesTo fs label l₁ first ∧
      Stmt.BlockSettlesTo fs (Layer.labelFrom (some s)) l₂ more rest ∧ loops = l₁ ++ l₂ ∧
      out = first ++ more

def Handler.SettleTo (fs : List Frame) (loops : List Frame) (out : List (Handler Empty)) :
    List (Handler Placeholder) → Prop
  | [] => loops = [] ∧ out = []
  | .mk p t n b :: hs => ∃ l₁ l₂ b' hs', Stmt.BlockSettlesTo fs none l₁ b' b ∧
      Handler.SettleTo fs l₂ hs' hs ∧ loops = l₁ ++ l₂ ∧ out = .mk p t n b' :: hs'

def Case.SettleTo (fs : List Frame) (loops : List Frame) (out : List (Case Empty)) :
    List (Case Placeholder) → Prop
  | [] => loops = [] ∧ out = []
  | .mk p g b :: cs => ∃ l₁ l₂ b' cs', Stmt.BlockSettlesTo fs none l₁ b' b ∧
      Case.SettleTo fs l₂ cs' cs ∧ loops = l₁ ++ l₂ ∧ out = .mk p g b' :: cs'

end

/-! ## Lowering -/

namespace Lower

variable {users : List String} {flagPrefix : String} {α : Type}

/-- Inside of one more loop: its frame comes out settled. -/
theorem Builds.settled_insideLoop {ctx : LowerContext} {label : Option String}
    {body : List (Stmt Placeholder)} {P : List Frame → List Frame → List (Stmt Empty) → Prop}
    (hm : Builds users flagPrefix (Stmt.blockJumps none body) (block ctx none body) P) :
    Builds users flagPrefix (leaving label (Stmt.blockJumps none body))
      (Lower.insideLoop label (block ctx none body)) fun fin loops r =>
        ∃ l, loops = r.2 :: l ∧ P (r.2 :: fin) l r.1 ∧ r.2.Settled label body fin := by
  intro s hs
  have hloop : Builds users flagPrefix (leaving label (Stmt.blockJumps none body))
    (Lower.insideLoop label (block ctx none body)) _ := hm.insideLoop
  obtain ⟨hv, hadv, loops, hown, hP⟩ := hloop s hs
  refine ⟨hv, hadv, loops, hown, fun fin hfin => ?_⟩
  obtain ⟨l, hloops, hbody, hok⟩ := hP fin hfin
  exact ⟨l, hloops, hbody, hok.label_eq, (block_marks ctx none body).flag_insideLoop s, hok.exits⟩

mutual

/-- Lowering a statement that is no marker settles it. -/
theorem stmt_settles (ctx : LowerContext) (users : List String) (label : Option String) :
    ∀ s : Stmt Placeholder, Builds users ctx.flagPrefix (s.jumps label) (stmt ctx label s)
      fun fin loops out => s.SettlesTo fin label loops out
  | .simple _ _ => Builds.pure _ fun _ => ⟨rfl, rfl⟩
  | .hole sp (.jump k l) => builds_jump sp k l
  | .hole _ (.loopLabel _) => Builds.pure _ fun _ => ⟨rfl, rfl⟩
  | .branch _ _ b o => by
    refine (block_settles ctx users none b).bind fun b' => ?_
    exact (block_settles ctx users none o).map fun _ l₂ o' ho l₁ hb =>
      ⟨l₁, l₂, b', o', hb, ho, rfl, rfl⟩
  | .loop _ _ b o => by
    refine (block_settles ctx users none b).settled_insideLoop.bind fun r => ?_
    refine (block_settles ctx users none o).map fun _ l₂ o' ho _ ⟨l₁, hloops, hb, hf⟩ => ?_
    exact ⟨r.2, l₁, l₂, r.1, o', hb, ho, hf, by rw [hloops], rfl⟩
  | .function _ _ b =>
    (block_settles ctx users none b).withFrames.map fun _ _ b' hb => ⟨b', hb, rfl⟩
  | .klass _ _ b =>
    (block_settles ctx users none b).withFrames.map fun _ _ b' hb => ⟨b', hb, rfl⟩
  | .withItems _ _ _ b => (block_settles ctx users none b).map fun _ _ b' hb => ⟨b', hb, rfl⟩
  | .attempt _ _ b hs o f => by
    rw [Stmt.jumps, List.append_assoc, List.append_assoc]
    refine (block_settles ctx users none b).bind fun b' => ?_
    refine (handlers_settle ctx users hs).bind fun hs' => ?_
    refine (block_settles ctx users none o).bind fun o' => ?_
    exact (block_settles ctx users none f).map fun _ l₄ f' hf l₃ ho l₂ hh l₁ hb =>
      ⟨l₁, l₂, l₃, l₄, b', hs', o', f', hb, hh, ho, hf, rfl, rfl⟩
  | .select _ _ cs => (cases_settle ctx users cs).map fun _ _ cs' hc => ⟨cs', hc, rfl⟩

/-- **Lowering a block settles it**, for whatever the frames around become later. -/
theorem block_settles (ctx : LowerContext) (users : List String) (label : Option String) :
    ∀ b : List (Stmt Placeholder),
      Builds users ctx.flagPrefix (Stmt.blockJumps label b) (block ctx label b)
        fun fin loops out => Stmt.BlockSettlesTo fin label loops out b
  | [] => Builds.pure _ fun _ => ⟨rfl, rfl⟩
  | s :: rest => by
    unfold block
    split
    · rename_i sp l hs
      obtain rfl : s = .hole sp (.loopLabel l) := by
        unfold loopLabel? at hs
        split at hs <;> simp_all
      exact builds_marker sp l ((block_settles ctx users (labelOf? l) rest).imp
        fun fin loops out hout => ⟨[], loops, [], out, ⟨rfl, rfl⟩, hout, rfl, rfl⟩)
    · rename_i hs
      rw [Stmt.blockJumps, labelFrom_eq_none hs]
      refine (stmt_settles ctx users label s).bind fun first => ?_
      refine (block_settles ctx users none rest).map fun _ l₂ more hmore l₁ hfirst => ?_
      exact ⟨l₁, l₂, first, more, hfirst, (labelFrom_eq_none hs).symm ▸ hmore, rfl, rfl⟩

theorem handlers_settle (ctx : LowerContext) (users : List String) :
    ∀ hs : List (Handler Placeholder),
      Builds users ctx.flagPrefix (Handler.jumps hs) (handlers ctx hs)
        fun fin loops out => Handler.SettleTo fin loops out hs
  | [] => Builds.pure _ fun _ => ⟨rfl, rfl⟩
  | .mk _ _ _ b :: hs => by
    refine (block_settles ctx users none b).bind fun b' => ?_
    exact (handlers_settle ctx users hs).map fun _ l₂ hs' hh l₁ hb =>
      ⟨l₁, l₂, b', hs', hb, hh, rfl, rfl⟩

theorem cases_settle (ctx : LowerContext) (users : List String) :
    ∀ cs : List (Case Placeholder),
      Builds users ctx.flagPrefix (Case.jumps cs) (cases ctx cs)
        fun fin loops out => Case.SettleTo fin loops out cs
  | [] => Builds.pure _ fun _ => ⟨rfl, rfl⟩
  | .mk _ _ b :: cs => by
    refine (block_settles ctx users none b).bind fun b' => ?_
    exact (cases_settle ctx users cs).map fun _ l₂ cs' hc l₁ hb =>
      ⟨l₁, l₂, b', cs', hb, hc, rfl, rfl⟩

end

end Lower

/-- **What lowering makes of a module.** The flags of its loops are all different, and none is a
name of the module. -/
theorem Module.lower_settles (s : Settings) (file : Option String) (m : Module Placeholder) :
    ∃ loops : List Frame,
      Stmt.BlockSettlesTo [] none loops (m.lower s file).module.body m.body ∧
        (flagsOf loops).Nodup ∧ ∀ x ∈ flagsOf loops, x ∉ namesIn m.body := by
  obtain ⟨-, hadv, loops, hown, hout⟩ :=
    Lower.block_settles ⟨file, s.flagPrefix⟩ (namesIn m.body) none m.body
      ⟨[], namesIn m.body, [], none⟩ ⟨.nil _, by simp [flagsOf], List.Subset.refl _⟩
  refine ⟨loops, hout [] ⟨?_, .nil _⟩, hown.nodup, hown.fresh⟩
  -- No loop is around a module, before or after.
  rw [List.forall₂_nil_left_iff.1 hadv.frames]
  exact .nil

end JumpMacros
