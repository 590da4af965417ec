import JumpMacros.Proofs.AlikeTrees
import JumpMacros.Proofs.DeterminedTree
import JumpMacros.Proofs.JumpLayout
import JumpMacros.Proofs.EveryNode
import Mathlib.Data.Set.Function
import Mathlib.Logic.Equiv.Basic

/-!
# Flags can be renamed

**Theorem (`Comparison.block_reflagged`).** If two blocks are alike up to a renaming of their
labels, what they are lowered to is alike up to a renaming of the flags.

Both lowerings have the same loops in the same order, and a loop and its partner have flags for the
same kinds of jumps. So flags can be paired loop by loop (`Renamable`). As the flags of a module are
all different, and none is a name of the module, the pairs extend to one permutation of names that
leaves alone what occurs in both modules (`Renamable.exists_perm`).

A `Comparison` may set some definitions apart. Nothing is asked of their bodies: no jump leaves
them, so they do not matter to the loops around.
-/

namespace JumpMacros

open Node (NamedIn ofStmts)
open Lower (plainJump setFlag check labelOf? setFlag_eq check_eq)

/-! ## Pairs of flags -/

/-- Names that are paired one to one can be exchanged by a permutation that moves no others. -/
theorem exists_perm_of_nodup {ρ : List (String × String)} (h₁ : (ρ.map Prod.fst).Nodup)
    (h₂ : (ρ.map Prod.snd).Nodup) : ∃ σ : Equiv.Perm String, (∀ p ∈ ρ, σ p.1 = p.2) ∧
      ∀ x, x ∉ ρ.map Prod.fst → x ∉ ρ.map Prod.snd → σ x = x := by
  induction ρ with
  | nil => exact ⟨Equiv.refl _, by simp, fun _ _ _ => rfl⟩
  | cons p ρ ih =>
    obtain ⟨a, b⟩ := p
    obtain ⟨ha, h₁⟩ := List.nodup_cons.1 h₁
    obtain ⟨hb, h₂⟩ := List.nodup_cons.1 h₂
    obtain ⟨σ, hpairs, hfix⟩ := ih h₁ h₂
    refine ⟨σ.trans (Equiv.swap (σ a) b), fun q hq => ?_, fun x hx hx' => ?_⟩
    · rcases List.mem_cons.1 hq with rfl | hq
      · exact Equiv.swap_apply_left _ _
      · have hqa : q.1 ≠ a := ne_of_mem_of_not_mem (List.mem_map_of_mem hq) ha
        have hqb : q.2 ≠ b := ne_of_mem_of_not_mem (List.mem_map_of_mem hq) hb
        rw [Equiv.trans_apply, hpairs q hq]
        refine Equiv.swap_apply_of_ne_of_ne (fun h => hqa (σ.injective ?_)) hqb
        rw [hpairs q hq, h]
    · simp only [List.map_cons, List.mem_cons, not_or] at hx hx'
      rw [Equiv.trans_apply, hfix x hx.2 hx'.2]
      refine Equiv.swap_apply_of_ne_of_ne (fun h => hx.1 (σ.injective ?_)) hx'.1
      rw [hfix x hx.2 hx'.2, h]

/-- Some flags of the loops can be paired so that every renaming that follows the pairs, and leaves
alone the names that both users have, has the property `Q`. -/
def Renamable (users users' : List String) (loops loops' : List Frame)
    (Q : (String → String) → Prop) : Prop :=
  ∃ ρ : List (String × String), (ρ.map Prod.fst).Sublist (flagsOf loops) ∧
    (ρ.map Prod.snd).Sublist (flagsOf loops') ∧
    ∀ σ : String → String, Function.Injective σ → (∀ p ∈ ρ, σ p.1 = p.2) →
      (∀ x ∈ users, x ∈ users' → σ x = x) → Q σ

namespace Renamable

variable {users users' : List String} {l₁ l₁' l₂ l₂' : List Frame}
  {Q R : (String → String) → Prop}

theorem pure (h : ∀ σ, (∀ x ∈ users, x ∈ users' → σ x = x) → Q σ) :
    Renamable users users' l₁ l₁' Q :=
  ⟨[], List.nil_sublist _, List.nil_sublist _, fun σ _ _ hσ => h σ hσ⟩

theorem imp (h : Renamable users users' l₁ l₁' Q)
    (hQ : ∀ σ, Function.Injective σ → (∀ x ∈ users, x ∈ users' → σ x = x) → Q σ → R σ) :
    Renamable users users' l₁ l₁' R :=
  let ⟨ρ, h₁, h₂, hρ⟩ := h
  ⟨ρ, h₁, h₂, fun σ hinj hpairs hσ => hQ σ hinj hσ (hρ σ hinj hpairs hσ)⟩

theorem and (h : Renamable users users' l₁ l₁' Q) (h' : Renamable users users' l₂ l₂' R) :
    Renamable users users' (l₁ ++ l₂) (l₁' ++ l₂') fun σ => Q σ ∧ R σ := by
  obtain ⟨ρ, h₁, h₂, hρ⟩ := h
  obtain ⟨ρ', h₁', h₂', hρ'⟩ := h'
  refine ⟨ρ ++ ρ', ?_, ?_, fun σ hinj hpairs hσ => ?_⟩
  · simpa [flagsOf] using h₁.append h₁'
  · simpa [flagsOf] using h₂.append h₂'
  · obtain ⟨hp, hp'⟩ := List.forall_mem_append.1 hpairs
    exact ⟨hρ σ hinj hp hσ, hρ' σ hinj hp' hσ⟩

theorem sublist (h : Renamable users users' l₁ l₁' Q) (hl : (flagsOf l₁).Sublist (flagsOf l₂))
    (hl' : (flagsOf l₁').Sublist (flagsOf l₂')) : Renamable users users' l₂ l₂' Q :=
  let ⟨ρ, h₁, h₂, hρ⟩ := h
  ⟨ρ, h₁.trans hl, h₂.trans hl', hρ⟩

/-- If all flags are different and new there is such a renaming. -/
theorem exists_perm (h : Renamable users users' l₁ l₁' Q) (hl : (flagsOf l₁).Nodup)
    (hl' : (flagsOf l₁').Nodup) (hnew : ∀ x ∈ flagsOf l₁, x ∉ users)
    (hnew' : ∀ x ∈ flagsOf l₁', x ∉ users') :
    ∃ σ : Equiv.Perm String, (∀ x ∈ users, x ∈ users' → σ x = x) ∧ Q σ := by
  obtain ⟨ρ, h₁, h₂, hρ⟩ := h
  obtain ⟨σ, hpairs, hfix⟩ := exists_perm_of_nodup (hl.sublist h₁) (hl'.sublist h₂)
  have hσ : ∀ x ∈ users, x ∈ users' → σ x = x := fun x hx hx' =>
    hfix x (fun h => hnew x (h₁.subset h) hx) fun h => hnew' x (h₂.subset h) hx'
  exact ⟨σ, hσ, hρ σ σ.injective hpairs hσ⟩

end Renamable

/-- The flags of two loops that have flags for the same kinds of jumps. -/
theorem renamable_frame {users users' : List String} {f g : Frame}
    (h : ∀ k, (f.flag k).isSome = (g.flag k).isSome) :
    Renamable users users' [f] [g] fun σ => ∀ k, g.flag k = (f.flag k).map σ := by
  obtain ⟨_, fb, fc, _⟩ := f
  obtain ⟨_, gb, gc, _⟩ := g
  have hb : fb.isSome = gb.isSome := h .breaks
  have hc : fc.isSome = gc.isSome := h .continues
  refine ⟨(fb.toList.zip gb.toList) ++ (fc.toList.zip gc.toList), ?_, ?_, fun σ _ hpairs _ k => ?_⟩
  · cases fb <;> cases gb <;> cases fc <;> cases gc <;> simp_all [flagsOf, Frame.flags]
  · cases fb <;> cases gb <;> cases fc <;> cases gc <;> simp_all [flagsOf, Frame.flags]
  · cases k <;> cases fb <;> cases gb <;> cases fc <;> cases gc <;> simp_all [Frame.flag]

/-! ## Jumps to corresponding labels -/

section

variable {labels : Set String} {ren : String → String}

theorem NamesAlike.none : NamesAlike labels ren none none := ⟨rfl, by simp⟩

theorem NamesAlike.eq_some_iff (hinj : Set.InjOn ren labels) {n n' : Option String}
    (h : NamesAlike labels ren n n') {x : String} (hx : x ∈ labels) :
    n' = some (ren x) ↔ n = some x := by
  obtain ⟨rfl, hmem⟩ := h
  cases n with
  | none => simp
  | some y => simpa using hinj.eq_iff (hmem y rfl) hx

theorem NamesAlike.some_mem_iff (hinj : Set.InjOn ren labels) {ns ns' : List (Option String)}
    (h : List.Forall₂ (NamesAlike labels ren) ns ns') {x : String} (hx : x ∈ labels) :
    some (ren x) ∈ ns' ↔ some x ∈ ns := by
  induction h with
  | nil => simp
  | cons hn _ ih =>
    rw [List.mem_cons, List.mem_cons, ih, eq_comm, hn.eq_some_iff hinj hx, eq_comm]

variable (labels ren) in
/-- Jumps of the same kinds to corresponding labels. -/
structure JumpsAlike (js js' : List NamedJump) : Prop where
  eq_map : js' = js.map (Prod.map id ren)
  mem : ∀ j ∈ js, j.2 ∈ labels

theorem JumpsAlike.nil : JumpsAlike labels ren [] [] := ⟨rfl, by simp⟩

theorem JumpsAlike.append {js js' hs hs' : List NamedJump} (h : JumpsAlike labels ren js js')
    (h' : JumpsAlike labels ren hs hs') : JumpsAlike labels ren (js ++ hs) (js' ++ hs') :=
  ⟨by rw [h.eq_map, h'.eq_map, List.map_append], List.forall_mem_append.2 ⟨h.mem, h'.mem⟩⟩

theorem JumpsAlike.leaving (hinj : Set.InjOn ren labels) {n n' : Option String}
    (hn : NamesAlike labels ren n n') {js js' : List NamedJump}
    (h : JumpsAlike labels ren js js') :
    JumpsAlike labels ren (leaving n js) (leaving n' js') := by
  refine ⟨?_, fun j hj => h.mem j (mem_leaving.1 hj).1⟩
  rw [h.eq_map, JumpMacros.leaving, JumpMacros.leaving, List.filter_map]
  refine congrArg _ (List.filter_congr fun j hj => ?_)
  have hiff := not_congr (hn.eq_some_iff hinj (h.mem j hj))
  exact Bool.eq_iff_iff.2 (by simpa using hiff)

theorem jumps_of_isDefinition {s : Stmt Placeholder} (h : s.isDefinition = true)
    (n : Option String) : s.jumps n = [] ∧ s.crossings n = [] := by
  cases s <;> simp_all [Stmt.isDefinition, Stmt.jumps, Stmt.crossings]

theorem labelFrom_of_isDefinition {s : Stmt Placeholder} (h : s.isDefinition = true) :
    Layer.labelFrom (some s) = none := by
  cases s <;> simp_all [Stmt.isDefinition, Layer.labelFrom]

end

/-! ## Comparisons -/

/-- What two modules are compared by, before and after lowering. The statements that are set apart
are definitions, and what they lower to is set apart again. -/
structure Comparison where
  users : List String
  users' : List String
  labels : Set String
  ren : String → String
  span : Span → Span → Prop
  apart : Stmt Placeholder → Stmt Placeholder → Prop
  apartAfter : (String → String) → Stmt Empty → Stmt Empty → Prop
  injOn : Set.InjOn ren labels
  start_eq : ∀ {sp sp'}, span sp sp' → sp'.start = sp.start
  definitions : ∀ {s t}, apart s t → s.isDefinition = true ∧ t.isDefinition = true
  settles : ∀ {s t fs gs n n' loops loops' out out'}, apart s t → s.SettlesTo fs n loops out →
    t.SettlesTo gs n' loops' out' → NamedIn users [.stmt s] → NamedIn users' [.stmt t] →
    Renamable users users' loops loops' fun σ =>
      ∃ s' t', out = [s'] ∧ out' = [t'] ∧ apartAfter σ s' t'

namespace Comparison

variable (c : Comparison)

/-- Alike before lowering. -/
def before : Likeness Placeholder := .relabelled c.labels c.ren c.span c.apart

/-- Alike after lowering. -/
def after (σ : String → String) : Likeness Empty := .reflagged σ c.span (c.apartAfter σ)

variable {c}

theorem labelFrom_alike {s t : Stmt Placeholder} (h : c.apart s t ∨ s.Like c.before t) :
    NamesAlike c.labels c.ren (Layer.labelFrom (some s)) (Layer.labelFrom (some t)) := by
  rcases h with h | h
  · obtain ⟨hs, ht⟩ := c.definitions h
    rw [labelFrom_of_isDefinition hs, labelFrom_of_isDefinition ht]
    exact .none
  · cases s with
    | simple sp x =>
      obtain ⟨_, _, rfl, -⟩ := h
      exact .none
    | hole sp x =>
      obtain ⟨_, _, rfl, -, hx⟩ := h
      cases x with
      | jump k l =>
        obtain ⟨l', rfl, -⟩ := hx
        exact .none
      | loopLabel l =>
        obtain ⟨l', rfl, hl⟩ := hx
        exact hl.names
    | branch sp e b o =>
      obtain ⟨_, _, _, _, rfl, -⟩ := h
      exact .none
    | loop sp hd b o =>
      obtain ⟨_, _, _, rfl, -⟩ := h
      exact .none
    | function sp hd b =>
      obtain ⟨_, _, rfl, -⟩ := h
      exact .none
    | klass sp hd b =>
      obtain ⟨_, _, rfl, -⟩ := h
      exact .none
    | withItems sp a is b =>
      obtain ⟨_, _, rfl, -⟩ := h
      exact .none
    | attempt sp star b hs o f =>
      obtain ⟨_, _, _, _, _, rfl, -⟩ := h
      exact .none
    | select sp e cs =>
      obtain ⟨_, _, rfl, -⟩ := h
      exact .none

/-- Two lists of jumps, the second of those that cross a loop, correspond to two others. -/
abbrev JumpsMatch (c : Comparison) (js js' cs cs' : List NamedJump) : Prop :=
  JumpsAlike c.labels c.ren js js' ∧ JumpsAlike c.labels c.ren cs cs'

theorem JumpsMatch.nil : c.JumpsMatch [] [] [] [] := ⟨.nil, .nil⟩

theorem JumpsMatch.append {js js' cs cs' hs hs' ds ds' : List NamedJump}
    (h : c.JumpsMatch js js' cs cs') (h' : c.JumpsMatch hs hs' ds ds') :
    c.JumpsMatch (js ++ hs) (js' ++ hs') (cs ++ ds) (cs' ++ ds') :=
  ⟨h.1.append h'.1, h.2.append h'.2⟩

mutual

/-- Statements that are alike have corresponding jumps. -/
theorem stmt_jumpsMatch {n n' : Option String} (hn : NamesAlike c.labels c.ren n n') :
    ∀ {s t : Stmt Placeholder}, s.Like c.before t →
      c.JumpsMatch (s.jumps n) (t.jumps n') (s.crossings n) (t.crossings n')
  | .simple _ _, _, ⟨_, _, rfl, _⟩ => JumpsMatch.nil
  | .hole _ (.jump k l), _, ⟨_, _, rfl, _, l', rfl, hl⟩ => by
    refine ⟨⟨?_, fun j hj => ?_⟩, .nil⟩
    · simp only [Stmt.jumps, hl.names.eq_map]
      cases labelOf? l <;> rfl
    · obtain ⟨x, hx, rfl⟩ := List.mem_map.1 hj
      exact hl.names.mem x (Option.mem_toList.1 hx)
  | .hole _ (.loopLabel _), _, ⟨_, _, rfl, _, _, rfl, _⟩ => JumpsMatch.nil
  | .branch _ _ _ _, _, ⟨_, _, _, _, rfl, _, _, hb, ho⟩ =>
    (block_jumpsMatch .none hb).append (block_jumpsMatch .none ho)
  | .loop _ _ _ _, _, ⟨_, _, _, rfl, _, hb, ho⟩ =>
    have hleave := (block_jumpsMatch .none hb).1.leaving c.injOn hn
    JumpsMatch.append ⟨hleave, hleave⟩ (block_jumpsMatch .none ho)
  | .function _ _ _, _, ⟨_, _, rfl, _⟩ => JumpsMatch.nil
  | .klass _ _ _, _, ⟨_, _, rfl, _⟩ => JumpsMatch.nil
  | .withItems _ _ _ _, _, ⟨_, _, rfl, _, hb⟩ => block_jumpsMatch .none hb
  | .attempt _ _ _ _ _ _, _, ⟨_, _, _, _, _, rfl, _, hb, hh, ho, hf⟩ =>
    (((block_jumpsMatch .none hb).append (handlers_jumpsMatch hh)).append
      (block_jumpsMatch .none ho)).append (block_jumpsMatch .none hf)
  | .select _ _ _, _, ⟨_, _, rfl, _, hc⟩ => cases_jumpsMatch hc
termination_by structural s => s

theorem block_jumpsMatch {n n' : Option String} (hn : NamesAlike c.labels c.ren n n') :
    ∀ {b b' : List (Stmt Placeholder)}, Stmt.AllLike c.before b b' →
      c.JumpsMatch (Stmt.blockJumps n b) (Stmt.blockJumps n' b') (Stmt.blockCrossings n b)
        (Stmt.blockCrossings n' b')
  | [], _, h => by
    obtain rfl := h
    exact JumpsMatch.nil
  | s :: rest, _, ⟨t, ts, rfl, hs, hrest⟩ => by
    have hfirst : c.JumpsMatch (s.jumps n) (t.jumps n') (s.crossings n) (t.crossings n') := by
      rcases hs with hs | hs
      · obtain ⟨hd, hd'⟩ := c.definitions hs
        obtain ⟨hj, hc⟩ := jumps_of_isDefinition hd n
        obtain ⟨hj', hc'⟩ := jumps_of_isDefinition hd' n'
        rw [hj, hc, hj', hc']
        exact JumpsMatch.nil
      · exact stmt_jumpsMatch hn hs
    exact hfirst.append (block_jumpsMatch (labelFrom_alike hs) hrest)
termination_by structural b => b

theorem handlers_jumpsMatch : ∀ {hs hs' : List (Handler Placeholder)},
    Handler.AllLike c.before hs hs' → c.JumpsMatch (Handler.jumps hs) (Handler.jumps hs')
      (Handler.crossings hs) (Handler.crossings hs')
  | [], _, h => by
    obtain rfl := h
    exact JumpsMatch.nil
  | .mk _ _ _ _ :: _, _, ⟨_, _, rfl, hb, hh⟩ =>
    (block_jumpsMatch .none hb).append (handlers_jumpsMatch hh)
termination_by structural hs => hs

theorem cases_jumpsMatch : ∀ {cs cs' : List (Case Placeholder)},
    Case.AllLike c.before cs cs' → c.JumpsMatch (Case.jumps cs) (Case.jumps cs')
      (Case.crossings cs) (Case.crossings cs')
  | [], _, h => by
    obtain rfl := h
    exact JumpsMatch.nil
  | .mk _ _ _ :: _, _, ⟨_, _, rfl, hb, hc⟩ =>
    (block_jumpsMatch .none hb).append (cases_jumpsMatch hc)
termination_by structural cs => cs

end

end Comparison

/-! ## Frames with corresponding flags -/

section

variable (labels : Set String) (ren σ : String → String)

/-- A loop and its partner: their names correspond, and so do their flags. -/
structure Frame.Alike (f g : Frame) : Prop where
  label : NamesAlike labels ren f.label g.label
  flag : ∀ k, g.flag k = (f.flag k).map σ

/-- The same for all loops around. -/
abbrev FramesAlike : List Frame → List Frame → Prop := List.Forall₂ (Frame.Alike labels ren σ)

end

namespace FramesAlike

variable {labels : Set String} {ren σ : String → String} {fs gs : List Frame} {x : String}

theorem mem_labels (h : FramesAlike labels ren σ fs gs) (hinj : Set.InjOn ren labels)
    (hx : x ∈ labels) : some (ren x) ∈ gs.map Frame.label ↔ some x ∈ fs.map Frame.label := by
  refine NamesAlike.some_mem_iff hinj ?_ hx
  rw [List.forall₂_map_left_iff, List.forall₂_map_right_iff]
  exact h.imp fun _ _ hf => hf.label

theorem namesHead (h : FramesAlike labels ren σ fs gs) (hinj : Set.InjOn ren labels)
    (hx : x ∈ labels) : namesHead gs (ren x) = namesHead fs x := by
  cases h with
  | nil => rfl
  | cons hf _ =>
    have := hf.label.eq_some_iff hinj hx
    simp only [JumpMacros.namesHead, List.head?_cons, Option.bind_some]
    exact Bool.eq_iff_iff.2 (by simpa using this)

theorem flagOf? (h : FramesAlike labels ren σ fs gs) (hinj : Set.InjOn ren labels)
    (hx : x ∈ labels) (k : JumpKind) : flagOf? gs (k, ren x) = (flagOf? fs (k, x)).map σ := by
  induction h with
  | nil => rfl
  | cons hf _ ih =>
    simp only [JumpMacros.flagOf?, hf.label.eq_some_iff hinj hx]
    split
    · exact hf.flag k
    · exact ih

theorem exitOf? (h : FramesAlike labels ren σ fs gs) (hinj : Set.InjOn ren labels)
    (hx : x ∈ labels) (k : JumpKind) :
    exitOf? gs (k, ren x) = (exitOf? fs (k, x)).map (Prod.map σ id) := by
  rw [JumpMacros.exitOf?, JumpMacros.exitOf?, h.flagOf? hinj hx, h.namesHead hinj hx,
    Option.map_map, Option.map_map]
  rfl

end FramesAlike

theorem addCheck_map {g : Exit → Exit} (hg : Function.Injective g) (es : List Exit) (e : Exit) :
    addCheck (es.map g) (g e) = (addCheck es e).map g := by
  have hmem : (es.map g).contains (g e) = es.contains e := by
    rw [List.contains_eq_mem, List.contains_eq_mem]
    exact decide_eq_decide.2 (List.mem_map_of_injective hg)
  rw [addCheck, addCheck, hmem]
  split <;> simp

theorem foldl_addCheck_map {g : Exit → Exit} (hg : Function.Injective g) (es acc : List Exit) :
    (es.map g).foldl addCheck (acc.map g) = (es.foldl addCheck acc).map g := by
  induction es generalizing acc with
  | nil => rfl
  | cons e es ih => rw [List.map_cons, List.foldl_cons, List.foldl_cons, addCheck_map hg, ih]

/-- The checks after a loop and its partner are of corresponding flags. -/
theorem Frame.Settled.exits_alike {labels : Set String} {ren σ : String → String}
    (hinj : Set.InjOn ren labels) (hσ : Function.Injective σ) {fs gs : List Frame}
    (hfs : FramesAlike labels ren σ fs gs) {n n' : Option String}
    (hn : NamesAlike labels ren n n') {b b' : List (Stmt Placeholder)}
    (hb : JumpsAlike labels ren (Stmt.blockJumps none b) (Stmt.blockJumps none b')) {f g : Frame}
    (hf : f.Settled n b fs) (hg : g.Settled n' b' gs) :
    g.exits = f.exits.map (Prod.map σ id) := by
  have hj := hb.leaving hinj hn
  have hexit : (leaving n' (Stmt.blockJumps none b')).filterMap (JumpMacros.exitOf? gs) =
      ((leaving n (Stmt.blockJumps none b)).filterMap (JumpMacros.exitOf? fs)).map
        (Prod.map σ id) := by
    rw [hj.eq_map, List.filterMap_map, List.map_filterMap]
    exact List.filterMap_congr fun j hmem => hfs.exitOf? hinj (hj.mem j hmem) j.1
  rw [hg.exits, hf.exits, hexit]
  exact foldl_addCheck_map (hσ.prodMap Function.injective_id) _ []

/-- A loop and its partner have flags for the same kinds of jumps. -/
theorem Frame.Settled.isSome_flag {labels : Set String} {ren : String → String}
    (hinj : Set.InjOn ren labels) {fs gs : List Frame} {n n' : Option String}
    (hn : NamesAlike labels ren n n') {b b' : List (Stmt Placeholder)}
    (hb : JumpsAlike labels ren (Stmt.blockCrossings none b) (Stmt.blockCrossings none b'))
    {f g : Frame} (hf : f.Settled n b fs) (hg : g.Settled n' b' gs) (k : JumpKind) :
    (f.flag k).isSome = (g.flag k).isSome := by
  rw [Bool.eq_iff_iff, hf.flagged, hg.flagged, hb.eq_map]
  simp only [List.mem_map, Prod.exists, Prod.map_apply, id_eq, Prod.mk.injEq]
  constructor
  · rintro ⟨x, hx, hmem⟩
    exact ⟨ren x, (hn.eq_some_iff hinj (hb.mem _ hmem)).2 hx, k, x, hmem, rfl, rfl⟩
  · rintro ⟨_, hx, _, x, hmem, rfl, rfl⟩
    exact ⟨x, (hn.eq_some_iff hinj (hb.mem _ hmem)).1 hx, hmem⟩

/-! ## Generated statements -/

namespace Comparison

variable {c : Comparison} {σ : String → String} {sp sp' : Span}

theorem setFlag_like (h : c.span sp sp') (x : String) (v : Bool) :
    (setFlag sp x v).Like (c.after σ) (setFlag sp' (σ x) v) := by
  rw [setFlag_eq, setFlag_eq]
  exact ⟨sp', _, rfl, h, by rw [c.start_eq h]; rfl⟩

theorem plainJump_like (h : c.span sp sp') (k : JumpKind) :
    (plainJump sp k).Like (c.after σ) (plainJump sp' k) := by
  cases k <;> exact ⟨sp', _, rfl, h, rfl⟩

theorem check_like (h : c.span sp sp') (e : Exit) :
    (check sp e).Like (c.after σ) (check sp' (Prod.map σ id e)) := by
  rw [check_eq, check_eq]
  exact ⟨sp', _, _, _, rfl, h, by rw [c.start_eq h]; rfl,
    Stmt.allLike_cons (.inr (plainJump_like h e.2)) rfl, rfl⟩

theorem resets_alike (h : c.span sp sp') (x : Option String) :
    Stmt.AllLike (c.after σ) (resets sp x) (resets sp' (x.map σ)) := by
  cases x with
  | none => rfl
  | some x => exact Stmt.allLike_cons (.inr (setFlag_like h x false)) rfl

theorem checks_alike (h : c.span sp sp') (es : List Exit) :
    Stmt.AllLike (c.after σ) (es.map (check sp))
      ((es.map (Prod.map σ id)).map (check sp')) := by
  induction es with
  | nil => rfl
  | cons e es ih => exact Stmt.allLike_cons (.inr (check_like h e)) ih

/-- Loops are laid out alike if their frames and blocks are. -/
theorem assemble_alike (h : c.span sp sp') (hd : LoopHead) {b b' o o' : List (Stmt Empty)}
    (hb : Stmt.AllLike (c.after σ) b b') (ho : Stmt.AllLike (c.after σ) o o') {f g : Frame}
    (hflag : ∀ k, g.flag k = (f.flag k).map σ) (hexits : g.exits = f.exits.map (Prod.map σ id)) :
    Stmt.AllLike (c.after σ) (Lower.assemble sp hd b o f) (Lower.assemble sp' hd b' o' g) := by
  rw [assemble_eq, assemble_eq, hflag, hflag, hexits]
  refine (resets_alike h _).append (Stmt.allLike_cons (.inr ?_) (checks_alike h _))
  exact ⟨sp', _, _, rfl, h, (resets_alike h _).append hb, ho⟩

/-- Jumps to corresponding labels, inside of corresponding loops. -/
theorem jump_alike (h : c.span sp sp') {k : JumpKind} {l l' : Expr}
    (hl : LabelsAlike c.labels c.ren l l') {fs gs : List Frame}
    (hfs : FramesAlike c.labels c.ren σ fs gs) {out out' : List (Stmt Empty)}
    (ho : JumpLowersTo fs sp k l out) (ho' : JumpLowersTo gs sp' k l' out') :
    Stmt.AllLike (c.after σ) out out' := by
  have hplain : Stmt.AllLike (c.after σ) [plainJump sp k] [plainJump sp' k] :=
    Stmt.allLike_cons (.inr (plainJump_like h k)) rfl
  unfold JumpLowersTo at ho ho'
  rw [hl.names.eq_map] at ho'
  cases hname : labelOf? l with
  | none =>
    rw [hname] at ho ho'
    exact ho ▸ ho' ▸ hplain
  | some name =>
    have hmem : name ∈ c.labels := hl.names.mem name hname
    rw [hname] at ho ho'
    simp only [Option.map_some, List.contains_eq_mem, hfs.mem_labels c.injOn hmem,
      hfs.namesHead c.injOn hmem, hfs.flagOf? c.injOn hmem] at ho ho'
    split at ho
    · rename_i hc
      rw [if_pos hc] at ho'
      exact ho ▸ ho' ▸ hplain
    · rename_i hc
      rw [if_neg hc] at ho'
      obtain ⟨x, hx, rfl⟩ := ho
      obtain ⟨x', hx', rfl⟩ := ho'
      rw [hx] at hx'
      obtain rfl := Option.some.inj hx'
      exact Stmt.allLike_cons (.inr (setFlag_like h x true))
        (Stmt.allLike_cons (.inr ⟨sp', _, rfl, h, rfl⟩) rfl)

end Comparison

/-! ## What users wrote stays -/

section

variable {users users' : List String} {σ : String → String}

theorem reflagged_simple (hσ : ∀ x ∈ users, x ∈ users' → σ x = x) {sp sp' : Span} {x : Simple}
    (h : NamedIn users [.stmt (.simple sp x : Stmt Placeholder)])
    (h' : NamedIn users' [.stmt (.simple sp' x : Stmt Placeholder)]) : x.reflagged σ = x := by
  unfold Simple.reflagged
  split
  · rename_i p y q v
    have hmem {names : List String} {sp : Span}
        (h : NamedIn names [.stmt (.simple sp (.assign [.name p y .store] (.const q (.bool v))) :
          Stmt Placeholder)]) : y ∈ names := by
      have hchildren := (Node.every_singleton.1 h).2
      simp only [Node.children, Node.ofStmt, Simple.exprs, Node.ofExprs, List.map_cons,
        List.map_nil, List.cons_append, List.nil_append] at hchildren
      exact (Node.every_cons.1 hchildren).1 y (by simp [Node.ownNames])
    rw [hσ y (hmem h) (hmem h')]
  · rfl

theorem reflagged_expr (hσ : ∀ x ∈ users, x ∈ users' → σ x = x) {e : Expr}
    (h : NamedIn users [(.expr e : Node Placeholder)])
    (h' : NamedIn users' [(.expr e : Node Placeholder)]) : e.reflagged σ = e := by
  unfold Expr.reflagged
  split
  · rename_i p y
    have hmem {names : List String}
        (h : NamedIn names [(.expr (.name p y .load) : Node Placeholder)]) : y ∈ names :=
      (Node.every_cons.1 h).1 y (by simp [Node.ownNames])
    rw [hσ y (hmem h) (hmem h')]
  · rfl

end

/-! ## The traversal -/

namespace Comparison

variable {c : Comparison}

/-- Two results with the loops in them are alike for all renamings that follow some pairs of flags,
if the loops around are. -/
def Matches (c : Comparison) (fs gs loops loops' : List Frame)
    (P : (String → String) → Prop) : Prop :=
  Renamable c.users c.users' loops loops' fun σ => FramesAlike c.labels c.ren σ fs gs → P σ

/-- In a definition no loop is around. -/
theorem Matches.inner {fs gs loops loops' : List Frame} {P Q : (String → String) → Prop}
    (h : c.Matches [] [] loops loops' P) (hP : ∀ σ, P σ → Q σ) : c.Matches fs gs loops loops' Q :=
  h.imp fun σ _ _ hp _ => hP σ (hp .nil)

theorem Matches.imp {fs gs loops loops' : List Frame} {P Q : (String → String) → Prop}
    (h : c.Matches fs gs loops loops' P) (hP : ∀ σ, P σ → Q σ) : c.Matches fs gs loops loops' Q :=
  Renamable.imp h fun σ _ _ hp hfs => hP σ (hp hfs)

theorem Matches.and {fs gs l₁ l₁' l₂ l₂' : List Frame} {P Q : (String → String) → Prop}
    (h : c.Matches fs gs l₁ l₁' P) (h' : c.Matches fs gs l₂ l₂' Q) :
    c.Matches fs gs (l₁ ++ l₂) (l₁' ++ l₂') fun σ => P σ ∧ Q σ :=
  (Renamable.and h h').imp fun _ _ _ hp hfs => ⟨hp.1 hfs, hp.2 hfs⟩

/-- A statement that is kept as one. -/
theorem Matches.one {fs gs loops loops' : List Frame} {P : (String → String) → Prop}
    {s' t' : Stmt Empty} (h : c.Matches fs gs loops loops' P)
    (hP : ∀ σ, P σ → s'.Like (c.after σ) t') :
    c.Matches fs gs loops loops' fun σ => Stmt.AllLike (c.after σ) [s'] [t'] :=
  h.imp fun σ hp => Stmt.allLike_cons (.inr (hP σ hp)) rfl

mutual

/-- Statements that are alike lower to statements that are alike up to their flags. -/
theorem stmt_reflagged {fs gs loops loops' : List Frame} {n n' : Option String}
    {out out' : List (Stmt Empty)} (hn : NamesAlike c.labels c.ren n n') :
    ∀ {s t : Stmt Placeholder}, s.Like c.before t → s.SettlesTo fs n loops out →
      t.SettlesTo gs n' loops' out' → NamedIn c.users [.stmt s] → NamedIn c.users' [.stmt t] →
      c.Matches fs gs loops loops' fun σ => Stmt.AllLike (c.after σ) out out'
  | .simple sp x, _, ⟨sp', _, rfl, hsp, rfl⟩, ⟨_, ho⟩, ⟨_, ho'⟩, hu, hu' => by
    subst ho ho'
    refine Renamable.pure fun σ hσ _ => Stmt.allLike_cons (.inr ⟨sp', _, rfl, hsp, ?_⟩) rfl
    exact (reflagged_simple hσ hu hu').symm
  | .hole _ (.jump _ _), _, ⟨_, _, rfl, hsp, _, rfl, hl⟩, ⟨_, ho⟩, ⟨_, ho'⟩, _, _ =>
    Renamable.pure fun _ _ hfs => jump_alike hsp hl hfs ho ho'
  | .hole _ (.loopLabel _), _, ⟨_, _, rfl, _, _, rfl, _⟩, ⟨_, ho⟩, ⟨_, ho'⟩, _, _ => by
    subst ho ho'
    exact Renamable.pure fun _ _ _ => rfl
  | .branch sp e _ _, _, ⟨sp', _, _, _, rfl, hsp, rfl, hb, ho⟩,
      ⟨_, _, x, y, sb, so, hl, hx⟩, ⟨_, _, x', y', sb', so', hl', hx'⟩, hu, hu' => by
    subst hl hl' hx hx'
    obtain ⟨-, hue, hub, huo⟩ := Node.every_branch.1 hu
    obtain ⟨-, hue', hub', huo'⟩ := Node.every_branch.1 hu'
    have hblocks := (block_reflagged .none hb sb sb' hub hub').and
      (block_reflagged .none ho so so' huo huo')
    refine Renamable.imp hblocks fun σ _ hσ h hfs => ?_
    obtain ⟨hx, hy⟩ := h hfs
    refine Stmt.allLike_cons (.inr ⟨sp', _, x', y', rfl, hsp, ?_, hx, hy⟩) rfl
    exact (reflagged_expr hσ hue hue').symm
  | .loop _ hd _ _, _, ⟨_, _, _, rfl, hsp, hb, ho⟩,
      ⟨f, _, _, x, y, sb, so, hf, hl, hx⟩, ⟨g, _, _, x', y', sb', so', hg, hl', hx'⟩, hu, hu' => by
    subst hl hl' hx hx'
    obtain ⟨-, -, hub, huo⟩ := Node.every_loop.1 hu
    obtain ⟨-, -, hub', huo'⟩ := Node.every_loop.1 hu'
    obtain ⟨hj, hc⟩ := block_jumpsMatch .none hb
    have hframe : Renamable c.users c.users' [f] [g] fun σ => ∀ k, g.flag k = (f.flag k).map σ :=
      renamable_frame (hf.isSome_flag c.injOn hn hc hg)
    have hbody := block_reflagged .none hb sb sb' hub hub'
    have horelse := block_reflagged .none ho so so' huo huo'
    refine ((hframe.and hbody).and horelse).imp fun σ hinj _ ⟨⟨hflag, hx⟩, hy⟩ hfs => ?_
    have hlabel : NamesAlike c.labels c.ren f.label g.label := by rwa [hf.label_eq, hg.label_eq]
    exact assemble_alike hsp hd (hx (.cons ⟨hlabel, hflag⟩ hfs)) (hy hfs) hflag
      (hf.exits_alike c.injOn hinj hfs hn hj hg)
  | .function _ _ _, _, ⟨_, _, rfl, hsp, hb⟩, ⟨_, sb, ho⟩, ⟨_, sb', ho'⟩, hu, hu' => by
    subst ho ho'
    have hbody := block_reflagged .none hb sb sb' (Node.every_function.1 hu).2.2
      (Node.every_function.1 hu').2.2
    exact hbody.inner fun σ hx => Stmt.allLike_cons (.inr ⟨_, _, rfl, hsp, hx⟩) rfl
  | .klass _ _ _, _, ⟨_, _, rfl, hsp, hb⟩, ⟨_, sb, ho⟩, ⟨_, sb', ho'⟩, hu, hu' => by
    subst ho ho'
    have hbody := block_reflagged .none hb sb sb' (Node.every_klass.1 hu).2.2
      (Node.every_klass.1 hu').2.2
    exact hbody.inner fun σ hx => Stmt.allLike_cons (.inr ⟨_, _, rfl, hsp, hx⟩) rfl
  | .withItems _ _ _ _, _, ⟨_, _, rfl, hsp, hb⟩, ⟨_, sb, ho⟩, ⟨_, sb', ho'⟩, hu, hu' => by
    subst ho ho'
    have hbody := block_reflagged .none hb sb sb' (Node.every_withItems.1 hu).2.2
      (Node.every_withItems.1 hu').2.2
    exact hbody.one fun σ hx => ⟨_, _, rfl, hsp, hx⟩
  | .attempt _ _ _ _ _ _, _, ⟨_, _, _, _, _, rfl, hsp, hb, hh, ho, hf⟩,
      ⟨_, _, _, _, _, _, _, _, sb, sh, so, sf, hl, hx⟩,
      ⟨_, _, _, _, _, _, _, _, sb', sh', so', sf', hl', hx'⟩, hu, hu' => by
    subst hl hl' hx hx'
    obtain ⟨-, hub, huh, huo, huf⟩ := Node.every_attempt.1 hu
    obtain ⟨-, hub', huh', huo', huf'⟩ := Node.every_attempt.1 hu'
    have hparts := (block_reflagged .none hb sb sb' hub hub').and
      ((handlers_reflagged hh sh sh' huh huh').and
        ((block_reflagged .none ho so so' huo huo').and
          (block_reflagged .none hf sf sf' huf huf')))
    exact hparts.one fun σ ⟨hx, hy, hz, hw⟩ => ⟨_, _, _, _, _, rfl, hsp, hx, hy, hz, hw⟩
  | .select _ _ _, _, ⟨_, _, rfl, hsp, hc⟩, ⟨_, sc, ho⟩, ⟨_, sc', ho'⟩, hu, hu' => by
    subst ho ho'
    have hcases := cases_reflagged hc sc sc' (Node.every_select.1 hu).2.2
      (Node.every_select.1 hu').2.2
    exact hcases.one fun σ hx => ⟨_, _, rfl, hsp, hx⟩
termination_by structural s => s

/-- **Blocks that are alike lower to blocks that are alike up to their flags.** -/
theorem block_reflagged {fs gs loops loops' : List Frame} {n n' : Option String}
    {out out' : List (Stmt Empty)} (hn : NamesAlike c.labels c.ren n n') :
    ∀ {b b' : List (Stmt Placeholder)}, Stmt.AllLike c.before b b' →
      Stmt.BlockSettlesTo fs n loops out b → Stmt.BlockSettlesTo gs n' loops' out' b' →
      NamedIn c.users (ofStmts b) → NamedIn c.users' (ofStmts b') →
      c.Matches fs gs loops loops' fun σ => Stmt.AllLike (c.after σ) out out'
  | [], _, h, ⟨_, ho⟩, hs', _, _ => by
    obtain rfl := h
    obtain ⟨-, ho'⟩ := hs'
    subst ho ho'
    exact Renamable.pure fun _ _ _ => rfl
  | s :: rest, _, ⟨t, ts, rfl, hs, hrest⟩, ⟨l₁, _, first, _, hfirst, hmore, hl, ho⟩,
      ⟨l₁', _, first', _, hfirst', hmore', hl', ho'⟩, hu, hu' => by
    subst hl hl' ho ho'
    obtain ⟨hus, hur⟩ := Node.every_ofStmts_cons.1 hu
    obtain ⟨hus', hur'⟩ := Node.every_ofStmts_cons.1 hu'
    have hhead : c.Matches fs gs l₁ l₁' fun σ => Stmt.AllLike (c.after σ) first first' := by
      rcases hs with hs | hs
      · refine (c.settles hs hfirst hfirst' hus hus').imp ?_
        rintro σ - - ⟨s', t', rfl, rfl, h⟩ -
        exact Stmt.allLike_cons (.inl h) rfl
      · exact stmt_reflagged hn hs hfirst hfirst' hus hus'
    have htail := block_reflagged (labelFrom_alike hs) hrest hmore hmore' hur hur'
    exact (hhead.and htail).imp fun σ h => h.1.append h.2
termination_by structural b => b

theorem handlers_reflagged {fs gs loops loops' : List Frame} {out out' : List (Handler Empty)} :
    ∀ {hs hs' : List (Handler Placeholder)}, Handler.AllLike c.before hs hs' →
      Handler.SettleTo fs loops out hs → Handler.SettleTo gs loops' out' hs' →
      NamedIn c.users (hs.map .handler) → NamedIn c.users' (hs'.map .handler) →
      c.Matches fs gs loops loops' fun σ => Handler.AllLike (c.after σ) out out'
  | [], _, h, ⟨_, ho⟩, hs', _, _ => by
    obtain rfl := h
    obtain ⟨-, ho'⟩ := hs'
    subst ho ho'
    exact Renamable.pure fun _ _ _ => rfl
  | .mk _ _ _ _ :: _, _, ⟨_, _, rfl, hb, hh⟩, ⟨_, _, _, _, sb, sh, hl, ho⟩,
      ⟨_, _, _, _, sb', sh', hl', ho'⟩, hu, hu' => by
    subst hl hl' ho ho'
    obtain ⟨-, -, hub, huh⟩ := Node.every_handlers.1 hu
    obtain ⟨-, -, hub', huh'⟩ := Node.every_handlers.1 hu'
    have hparts := (block_reflagged .none hb sb sb' hub hub').and
      (handlers_reflagged hh sh sh' huh huh')
    exact hparts.imp fun σ h => ⟨_, _, rfl, h.1, h.2⟩
termination_by structural hs => hs

theorem cases_reflagged {fs gs loops loops' : List Frame} {out out' : List (Case Empty)} :
    ∀ {cs cs' : List (Case Placeholder)}, Case.AllLike c.before cs cs' →
      Case.SettleTo fs loops out cs → Case.SettleTo gs loops' out' cs' →
      NamedIn c.users (cs.map .case) → NamedIn c.users' (cs'.map .case) →
      c.Matches fs gs loops loops' fun σ => Case.AllLike (c.after σ) out out'
  | [], _, h, ⟨_, ho⟩, hs', _, _ => by
    obtain rfl := h
    obtain ⟨-, ho'⟩ := hs'
    subst ho ho'
    exact Renamable.pure fun _ _ _ => rfl
  | .mk _ _ _ :: _, _, ⟨_, _, rfl, hb, hc⟩, ⟨_, _, _, _, sb, sc, hl, ho⟩,
      ⟨_, _, _, _, sb', sc', hl', ho'⟩, hu, hu' => by
    subst hl hl' ho ho'
    obtain ⟨-, -, -, hub, huc⟩ := Node.every_cases.1 hu
    obtain ⟨-, -, -, hub', huc'⟩ := Node.every_cases.1 hu'
    have hparts := (block_reflagged .none hb sb sb' hub hub').and
      (cases_reflagged hc sc sc' huc huc')
    exact hparts.imp fun σ h => ⟨_, _, rfl, h.1, h.2⟩
termination_by structural cs => cs

end

/-- **Modules that are alike lower to modules that are alike up to their flags**, by a permutation
that moves no name of both modules. -/
theorem exists_reflagging (c : Comparison) (s : Settings) (file : Option String)
    {m m' : Module Placeholder} (h : Stmt.AllLike c.before m.body m'.body)
    (hu : c.users = namesIn m.body) (hu' : c.users' = namesIn m'.body) :
    ∃ σ : Equiv.Perm String, (∀ x ∈ namesIn m.body, x ∈ namesIn m'.body → σ x = x) ∧
      Stmt.AllLike (c.after σ) (m.lower s file).module.body (m'.lower s file).module.body := by
  obtain ⟨loops, hset, hnodup, hnew⟩ := m.lower_settles s file
  obtain ⟨loops', hset', hnodup', hnew'⟩ := m'.lower_settles s file
  rw [← hu] at hnew ⊢
  rw [← hu'] at hnew' ⊢
  have hmatch := block_reflagged .none h hset hset' (hu ▸ Node.namedIn_namesIn m.body)
    (hu' ▸ Node.namedIn_namesIn m'.body)
  obtain ⟨σ, hσ, halike⟩ := Renamable.exists_perm hmatch hnodup hnodup' hnew hnew'
  exact ⟨σ, hσ, halike .nil⟩

end Comparison

end JumpMacros
