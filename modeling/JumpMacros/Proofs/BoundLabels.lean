import JumpMacros.Proofs.FlagRenaming
import JumpMacros.Proofs.LabelResolution
import JumpMacros.Proofs.MeaningPreservation

/-!
# Labels are bound names

**Theorem (`lower_of_relabelled`).** If the labels of a module are renamed one to one, and each is
written as a name or as a string at will, lowering gives the same module up to a renaming of its
flags, and the same diagnostics up to their wording.

The two modules have other names taken from the start, since a label that is a name is a name of the
tree and a string is not. So flags are allocated differently, and nothing can be said of one name
alone; `Comparison.exists_reflagging` compares all flags at once. What is at fault with a label
depends on the names of the loops around it, which correspond.
-/

namespace JumpMacros

/-! ## Faults -/

/-- The same fault, of corresponding labels. -/
def LabelFault.Alike : LabelFault → LabelFault → Prop
  | .invalid l, f => f = .invalid l
  | .withoutLoop, f => f = .withoutLoop
  | .unknown _, f => ∃ n, f = .unknown n

/-- Corresponding faults at the same places. -/
abbrev FaultsAlike : List (Span × LabelFault) → List (Span × LabelFault) → Prop :=
  List.Forall₂ fun f g => g.1.start = f.1.start ∧ f.2.Alike g.2

/-- What a diagnostic says without its wording: the code and the place. -/
def Diagnostic.place (d : Diagnostic) : String × Option String × Option Int × Option Int :=
  (d.cause.code, d.file, d.line, d.col)

theorem LabelFault.Alike.diagnostic? {f g : LabelFault} (h : f.Alike g) (file : Option String)
    {sp sp' : Span} (hsp : sp'.start = sp.start) :
    (g.diagnostic? file sp').map Diagnostic.place = (f.diagnostic? file sp).map Diagnostic.place ∧
      g.unwritable? = f.unwritable? := by
  cases f with
  | invalid l =>
    obtain rfl := h
    simp [LabelFault.diagnostic?, hsp]
  | withoutLoop =>
    obtain rfl := h
    simp [LabelFault.diagnostic?, hsp]
  | unknown n =>
    obtain ⟨n', rfl⟩ := h
    simp [LabelFault.diagnostic?, LabelFault.cause?, LabelFault.unwritable?, hsp,
      Diagnostic.place, Diagnostic.located, Cause.code]

theorem FaultsAlike.append {fs fs' gs gs' : List (Span × LabelFault)} (h : FaultsAlike fs gs)
    (h' : FaultsAlike fs' gs') : FaultsAlike (fs ++ fs') (gs ++ gs') :=
  List.rel_append h h'

theorem FaultsAlike.diagnostics {fs gs : List (Span × LabelFault)} (h : FaultsAlike fs gs)
    (file : Option String) :
    (gs.filterMap fun f => f.2.diagnostic? file f.1).map Diagnostic.place =
        (fs.filterMap fun f => f.2.diagnostic? file f.1).map Diagnostic.place ∧
      (gs.findSome? fun f => f.2.unwritable?) = fs.findSome? fun f => f.2.unwritable? := by
  induction h with
  | nil => exact ⟨rfl, rfl⟩
  | cons hfg _ ih =>
    obtain ⟨hd, hu⟩ := hfg.2.diagnostic? file hfg.1
    rw [List.map_filterMap, List.map_filterMap] at ih ⊢
    rw [List.filterMap_cons, List.filterMap_cons, List.findSome?_cons, List.findSome?_cons, hd, hu,
      ih.1, ih.2]
    exact ⟨rfl, rfl⟩

namespace Comparison

variable {c : Comparison}

/-- The names of the loops around two places correspond. -/
abbrev LoopsAlike (c : Comparison) (around around' : List Layer) : Prop :=
  List.Forall₂ (NamesAlike c.labels c.ren) (Layer.loopLabels around) (Layer.loopLabels around')

theorem reaches_iff {around around' : List Layer} (h : c.LoopsAlike around around') {x : String}
    (hx : x ∈ c.labels) {sp sp' : Span} {k k' : Placeholder}
    {after after' : Option (Stmt Placeholder)} :
    Site.Reaches ⟨sp', k', after', around'⟩ (c.ren x) ↔ Site.Reaches ⟨sp, k, after, around⟩ x := by
  unfold Site.Reaches
  rw [← Layer.mem_loopLabels, ← Layer.mem_loopLabels]
  exact NamesAlike.some_mem_iff c.injOn h hx

theorem isLoop_eq {s t : Stmt Placeholder} (h : c.apart s t ∨ s.Like c.before t) :
    t.isLoop = s.isLoop := by
  rcases h with h | h
  · obtain ⟨hs, ht⟩ := c.definitions h
    cases s <;> cases t <;> simp_all [Stmt.isDefinition, Stmt.isLoop]
  · cases s <;> simp only [Stmt.Like] at h <;> grind [Stmt.isLoop]

theorem isLoop_head? {b b' : List (Stmt Placeholder)} (h : Stmt.AllLike c.before b b') :
    (b'.head?.map Stmt.isLoop) = b.head?.map Stmt.isLoop := by
  cases b with
  | nil =>
    obtain rfl := h
    rfl
  | cons s ss =>
    obtain ⟨t, ts, rfl, hs, -⟩ := h
    exact congrArg some (isLoop_eq hs)

theorem labelFaults_alike {l l' : Expr} (h : LabelsAlike c.labels c.ren l l') {sp sp' : Span}
    (hsp : sp'.start = sp.start) :
    FaultsAlike ((Site.labelFaults l).map (sp, ·)) ((Site.labelFaults l').map (sp', ·)) := by
  unfold Site.labelFaults
  rw [h.names.eq_map, Option.isNone_map]
  cases hl : Lower.labelOf? l with
  | none =>
    rw [h.eq_of_none hl]
    exact .cons ⟨hsp, rfl⟩ .nil
  | some x => exact .nil

/-- Corresponding placeholders have corresponding faults. -/
theorem site_faults_alike {around around' : List Layer} (h : c.LoopsAlike around around')
    {sp sp' : Span} (hsp : sp'.start = sp.start) {p p' : Placeholder}
    (hp : p.Alike c.labels c.ren p') {after after' : Option (Stmt Placeholder)}
    (hafter : after'.map Stmt.isLoop = after.map Stmt.isLoop) :
    FaultsAlike (Site.allFaults [⟨sp, p, after, around⟩])
      (Site.allFaults [⟨sp', p', after', around'⟩]) := by
  simp only [Site.allFaults, List.flatMap_cons, List.flatMap_nil, List.append_nil]
  cases p with
  | jump k l =>
    obtain ⟨l', rfl, hl⟩ := hp
    simp only [Site.faults, hl.names.eq_map]
    cases hname : Lower.labelOf? l with
    | none =>
      rw [hl.eq_of_none hname]
      exact .cons ⟨hsp, rfl⟩ .nil
    | some x =>
      have hreach : Site.Reaches ⟨sp', .jump k l', after', around'⟩ (c.ren x) ↔
          Site.Reaches ⟨sp, .jump k l, after, around⟩ x := reaches_iff h (hl.names.mem x hname)
      simp only [Option.map_some, hreach]
      split
      · exact .nil
      · exact .cons ⟨hsp, _, rfl⟩ .nil
  | loopLabel l =>
    obtain ⟨l', rfl, hl⟩ := hp
    have hloop : Site.beforeLoop ⟨sp', .loopLabel l', after', around'⟩ =
        Site.beforeLoop ⟨sp, .loopLabel l, after, around⟩ := by
      simp only [Site.beforeLoop, hafter]
    simp only [Site.faults, List.map_append, hloop]
    refine (labelFaults_alike hl hsp).append ?_
    split
    · exact .nil
    · exact .cons ⟨hsp, rfl⟩ .nil

mutual

/-- Statements that are alike have corresponding faults, if none is set apart. -/
theorem stmt_faults_alike (hno : ∀ s t, ¬ c.apart s t) {around around' : List Layer}
    (h : c.LoopsAlike around around') {before before' after after' : Option (Stmt Placeholder)}
    (hbefore : NamesAlike c.labels c.ren (Layer.labelFrom before) (Layer.labelFrom before'))
    (hafter : after'.map Stmt.isLoop = after.map Stmt.isLoop) :
    ∀ {s t : Stmt Placeholder}, s.Like c.before t →
      FaultsAlike (Site.allFaults (s.sites around before after))
        (Site.allFaults (t.sites around' before' after'))
  | .simple _ _, _, ⟨_, _, rfl, _⟩ => .nil
  | .hole _ _, _, ⟨_, _, rfl, hsp, hp⟩ => site_faults_alike h (c.start_eq hsp) hp hafter
  | .branch sp e b o, _, ⟨sp', e', b', o', rfl, _, _, hb, ho⟩ => by
    have hb := block_faults_alike hno (⟨before, .branch sp e b o, .body⟩ :: around)
      (⟨before', .branch sp' e' b' o', .body⟩ :: around') none none h .none hb
    have ho := block_faults_alike hno (⟨before, .branch sp e b o, .orelse⟩ :: around)
      (⟨before', .branch sp' e' b' o', .orelse⟩ :: around') none none h .none ho
    simp only [Stmt.sites, Site.allFaults_append]
    exact hb.append ho
  | .loop sp hd b o, _, ⟨sp', b', o', rfl, _, hb, ho⟩ => by
    have hb := block_faults_alike hno (⟨before, .loop sp hd b o, .body⟩ :: around)
      (⟨before', .loop sp' hd b' o', .body⟩ :: around') none none (.cons hbefore h) .none hb
    have ho := block_faults_alike hno (⟨before, .loop sp hd b o, .orelse⟩ :: around)
      (⟨before', .loop sp' hd b' o', .orelse⟩ :: around') none none h .none ho
    simp only [Stmt.sites, Site.allFaults_append]
    exact hb.append ho
  | .function sp hd b, _, ⟨sp', b', rfl, _, hb⟩ =>
    block_faults_alike hno (⟨before, .function sp hd b, .body⟩ :: around)
      (⟨before', .function sp' hd b', .body⟩ :: around') none none .nil .none hb
  | .klass sp hd b, _, ⟨sp', b', rfl, _, hb⟩ =>
    block_faults_alike hno (⟨before, .klass sp hd b, .body⟩ :: around)
      (⟨before', .klass sp' hd b', .body⟩ :: around') none none .nil .none hb
  | .withItems sp a is b, _, ⟨sp', b', rfl, _, hb⟩ =>
    block_faults_alike hno (⟨before, .withItems sp a is b, .body⟩ :: around)
      (⟨before', .withItems sp' a is b', .body⟩ :: around') none none h .none hb
  | .attempt sp star b hs o f, _, ⟨sp', b', hs', o', f', rfl, _, hb, hh, ho, hf⟩ => by
    have hb := block_faults_alike hno (⟨before, .attempt sp star b hs o f, .body⟩ :: around)
      (⟨before', .attempt sp' star b' hs' o' f', .body⟩ :: around') none none h .none hb
    have hh := handlers_faults_alike hno (⟨before, .attempt sp star b hs o f, .handler⟩ :: around)
      (⟨before', .attempt sp' star b' hs' o' f', .handler⟩ :: around') h hh
    have ho := block_faults_alike hno (⟨before, .attempt sp star b hs o f, .orelse⟩ :: around)
      (⟨before', .attempt sp' star b' hs' o' f', .orelse⟩ :: around') none none h .none ho
    have hf := block_faults_alike hno (⟨before, .attempt sp star b hs o f, .final⟩ :: around)
      (⟨before', .attempt sp' star b' hs' o' f', .final⟩ :: around') none none h .none hf
    simp only [Stmt.sites, Site.allFaults_append]
    exact ((hb.append hh).append ho).append hf
  | .select sp e cs, _, ⟨sp', cs', rfl, _, hc⟩ =>
    cases_faults_alike hno (⟨before, .select sp e cs, .case⟩ :: around)
      (⟨before', .select sp' e cs', .case⟩ :: around') h hc
termination_by structural s => s

theorem block_faults_alike (hno : ∀ s t, ¬ c.apart s t) (around around' : List Layer)
    (before before' : Option (Stmt Placeholder)) (h : c.LoopsAlike around around')
    (hbefore : NamesAlike c.labels c.ren (Layer.labelFrom before) (Layer.labelFrom before')) :
    ∀ {b b' : List (Stmt Placeholder)}, Stmt.AllLike c.before b b' →
      FaultsAlike (Site.allFaults (Stmt.blockSites around before b))
        (Site.allFaults (Stmt.blockSites around' before' b'))
  | [], _, hb => by
    obtain rfl := hb
    exact .nil
  | s :: _, _, ⟨t, _, rfl, hs, hrest⟩ => by
    have hlike : s.Like c.before t := hs.resolve_left (hno s t)
    simp only [Stmt.blockSites, Site.allFaults_append]
    exact (stmt_faults_alike hno h hbefore (isLoop_head? hrest) hlike).append
      (block_faults_alike hno around around' (some s) (some t) h (labelFrom_alike hs) hrest)
termination_by structural b => b

theorem handlers_faults_alike (hno : ∀ s t, ¬ c.apart s t) (around around' : List Layer)
    (h : c.LoopsAlike around around') :
    ∀ {hs hs' : List (Handler Placeholder)}, Handler.AllLike c.before hs hs' →
      FaultsAlike (Site.allFaults (Handler.sites around hs))
        (Site.allFaults (Handler.sites around' hs'))
  | [], _, hh => by
    obtain rfl := hh
    exact .nil
  | .mk _ _ _ _ :: _, _, ⟨_, _, rfl, hb, hh⟩ => by
    simp only [Handler.sites, Site.allFaults_append]
    exact (block_faults_alike hno around around' none none h .none hb).append
      (handlers_faults_alike hno around around' h hh)
termination_by structural hs => hs

theorem cases_faults_alike (hno : ∀ s t, ¬ c.apart s t) (around around' : List Layer)
    (h : c.LoopsAlike around around') :
    ∀ {cs cs' : List (Case Placeholder)}, Case.AllLike c.before cs cs' →
      FaultsAlike (Site.allFaults (Case.sites around cs))
        (Site.allFaults (Case.sites around' cs'))
  | [], _, hc => by
    obtain rfl := hc
    exact .nil
  | .mk _ _ _ :: _, _, ⟨_, _, rfl, hb, hc⟩ => by
    simp only [Case.sites, Site.allFaults_append]
    exact (block_faults_alike hno around around' none none h .none hb).append
      (cases_faults_alike hno around around' h hc)
termination_by structural cs => cs

end

/-- Modules in which the labels correspond, and nothing else differs. -/
def ofLabels (m m' : Module Placeholder) {labels : Set String} {ren : String → String}
    (hren : Set.InjOn ren labels) : Comparison where
  users := namesIn m.body
  users' := namesIn m'.body
  labels := labels
  ren := ren
  span := (· = ·)
  apart _ _ := False
  apartAfter _ _ _ := False
  injOn := hren
  start_eq h := congrArg Span.start h.symm
  definitions := False.elim
  settles := False.elim

end Comparison

/-- **Labels are bound names.** If the names in all labels are renamed one to one, and each label is
written as a name or as a string at will, the lowered module is the same up to a permutation of
names that moves no name of both modules, so up to its flags. The diagnostics have the same codes
and places. -/
theorem lower_of_relabelled (s : Settings) (file : Option String) {m m' : Module Placeholder}
    {labels : Set String} {ren : String → String} (hren : Set.InjOn ren labels)
    (h : Stmt.AllLike (.relabelled labels ren (· = ·) fun _ _ => False) m.body m'.body) :
    (∃ σ : Equiv.Perm String, (∀ x ∈ namesIn m.body, x ∈ namesIn m'.body → σ x = x) ∧
      Stmt.AllLike (.reflagged σ (· = ·) fun _ _ => False) (m.lower s file).module.body
        (m'.lower s file).module.body) ∧
    (m'.lower s file).diagnostics.map Diagnostic.place =
      (m.lower s file).diagnostics.map Diagnostic.place ∧
    (m'.lower s file).unwritable = (m.lower s file).unwritable := by
  let c := Comparison.ofLabels m m' hren
  have hfaults : FaultsAlike m.labelFaults m'.labelFaults :=
    Comparison.block_faults_alike (c := c) (fun _ _ => id) [] [] none none .nil .none h
  obtain ⟨hd, hu⟩ := hfaults.diagnostics file
  obtain ⟨hd₁, hu₁⟩ := m.lower_reports s file
  obtain ⟨hd₂, hu₂⟩ := m'.lower_reports s file
  refine ⟨c.exists_reflagging s file h rfl rfl, ?_, ?_⟩
  · rw [hd₁, hd₂, hd]
  · rw [hu₁, hu₂]
    exact hu

namespace Nested

/-- Two nested loops with a jump out of both, to a label that is written in two ways. -/
def leaving (marker label : Expr) : Module Placeholder :=
  ⟨[.hole (line 2) (.loopLabel marker), loops [.hole (line 6) (.jump .breaks label)]]⟩

def quoted (x : String) : Expr := .const ⟨0, 0⟩ (.str (.ofString x) false)

theorem leaving_alike {labels : Set String} {ren : String → String} {l₁ l₂ l₁' l₂' : Expr}
    (h₁ : LabelsAlike labels ren l₁ l₁') (h₂ : LabelsAlike labels ren l₂ l₂') :
    Stmt.AllLike (.relabelled labels ren (· = ·) fun _ _ => False) (leaving l₁ l₂).body
      (leaving l₁' l₂').body := by
  refine Stmt.allLike_cons (.inr ⟨_, _, rfl, rfl, l₁', rfl, h₁⟩)
    (Stmt.allLike_cons (.inr ⟨_, _, _, rfl, rfl, ?_, rfl⟩) rfl)
  refine Stmt.allLike_cons (.inr ⟨_, _, _, rfl, rfl, ?_, rfl⟩)
    (Stmt.allLike_cons (.inr ⟨_, _, rfl, rfl, rfl⟩) rfl)
  exact Stmt.allLike_cons (.inr ⟨_, _, rfl, rfl, l₂', rfl, h₂⟩) rfl

end Nested

/-- The label `outer` gets the name of a variable. It is a name at the loop and a string at the
jump, and then the other way round. -/
theorem lower_of_relabelled_leaving :
    ∃ σ : Equiv.Perm String, σ "xs" = "xs" ∧
      let m := Nested.leaving (Nested.var "outer") (Nested.quoted "outer")
      let m' := Nested.leaving (Nested.quoted "xs") (Nested.var "xs")
      Stmt.AllLike (.reflagged σ (· = ·) fun _ _ => False) (m.lower .default none).module.body
        (m'.lower .default none).module.body := by
  have halike {l l' : Expr} (hl : Lower.labelOf? l = some "outer")
      (hl' : Lower.labelOf? l' = some "xs") : LabelsAlike {"outer"} (fun _ => "xs") l l' :=
    ⟨⟨by rw [hl, hl']; rfl, by simp [hl]⟩, by simp [hl]⟩
  have hname (x : String) : Lower.labelOf? (Nested.var x) = some x := rfl
  have hxs : Lower.labelOf? (Nested.quoted "xs") = some "xs" := by decide
  have houter : Lower.labelOf? (Nested.quoted "outer") = some "outer" := by decide
  have hbodies := Nested.leaving_alike
    (halike (hname "outer") hxs) (halike houter (hname "xs"))
  obtain ⟨⟨σ, hσ, hbody⟩, -⟩ := lower_of_relabelled .default none (by simp) hbodies
  exact ⟨σ, hσ "xs" (by with_unfolding_all decide) (by with_unfolding_all decide), hbody⟩

end JumpMacros
