import JumpMacros.Parse.Module
import JumpMacros.Proofs.JoinedNames
import JumpMacros.Proofs.NameUses
import JumpMacros.Proofs.ReadTrees
import JumpMacros.Proofs.SettingsFiles

/-!
# Flags in the printed text

An expanded module is used as a tree and as a text. Who reads the text normalises identifiers, so
the two are the same program only if the flags are in normal form.

**Theorem (`expandModule_flags_printed`).** All flags are identifiers, and in the text a flag stands
for the flag of the normalised prefix and label. If the prefix of flags is in normal form, and so
are the labels that are written as strings, the flags are in normal form too: they are kept apart in
the text as in the tree, and the text is read as the tree.

**Counterexample (`flag_clashes_in_text`).** A label that is written as a string need not be in
normal form. Then the text can have a flag for a name of the user.
-/

namespace JumpMacros

open Text (isIdentifier normalForm)
open Node (Every Filled every_iff_all every_nil every_ofStmts_cons ofStmts)
open Lower (labelOf?)

/-! ## The prefix of flags -/

/-- **The prefix of flags is an identifier**, whatever settings were loaded. -/
theorem Settings.isIdentifier_flagPrefix {files : FileTree} {path : Option String} {s : Settings}
    (h : Settings.load files path = .ok s) : isIdentifier s.flagPrefix = true :=
  (Settings.wellFormed_of_load h).flagPrefix

/-! ## Labels -/

/-- The name that a marker gives to its loop, if the label is written as a string. -/
def Node.quotedLabel? : Node Placeholder → Option String
  | .stmt (.hole _ (.loopLabel (.const p (.str v u)))) => labelOf? (.const p (.str v u))
  | _ => none

/-- The labels that are written as strings are in normal form. -/
def Module.QuotedLabelsNormal (m : Module Placeholder) : Prop :=
  ∀ n ∈ Node.all (ofStmts m.body), ∀ name ∈ n.quotedLabel?, normalForm name = name

instance (m : Module Placeholder) : Decidable m.QuotedLabelsNormal :=
  inferInstanceAs (Decidable (∀ n ∈ Node.all (ofStmts m.body), ∀ name ∈ n.quotedLabel?,
    normalForm name = name))

/-- Every node under a node of a tree is a node of the tree. -/
theorem Node.Every.below {Hole : Type} [HasExprs Hole] {Q : Node Hole → Prop}
    {ns : List (Node Hole)} (h : Every Q ns) : ∀ n ∈ Node.all ns, Every Q [n] :=
  Node.forall_mem_all (fun _ hn => Node.every_iff_forall.1 (Node.every_singleton.1 hn).2)
    (Node.every_iff_forall.1 h)

/-- The labels of a tree as it is read are identifiers. They are in normal form, unless they are
written as strings. -/
theorem marksBy_of_asRead {m : Module Placeholder} (h : Every Node.AsRead (ofStmts m.body)) :
    Every (Node.MarksBy fun name => isIdentifier name = true ∧
      (m.QuotedLabelsNormal → normalForm name = name)) (ofStmts m.body) := by
  refine every_iff_all.2 fun n hn => ?_
  rintro sp l rfl name hname
  have hlabel : (Node.expr l : Node Placeholder).AsRead := by
    have hchildren := (Node.every_singleton.1 (h.below _ hn)).2
    exact (Node.every_singleton.1 (Node.every_ofExprs.1 hchildren l List.mem_cons_self)).1
  unfold labelOf? at hname
  split at hname
  · rename_i p x u
    obtain rfl := Option.some.inj hname
    exact ⟨hlabel.named x rfl, fun _ => hlabel.normal x List.mem_cons_self⟩
  · rename_i p v u
    exact ⟨(Option.filter_eq_some_iff.1 hname).2, fun hnormal => hnormal _ hn name hname⟩
  · cases hname

/-! ## Tree and text -/

/-- The text of an expanded module is read as its tree, up to places, with the identifiers spelled
as `f` says. -/
def Expanded.ReadsBack (f : String → String) (e : Expanded) : Prop :=
  ∃ t, Module.parse e.source = .ok t ∧ t.bareNodes id = e.module.bareNodes f

/-- A text that is read as the tree but for normal forms is read as the tree, if all identifiers are
in normal form. -/
theorem Expanded.ReadsBack.exact {e : Expanded} (h : e.ReadsBack normalForm)
    (hnormal : Every (Node.SpelledBy fun x => normalForm x = x) (ofStmts e.module.body)) :
    e.ReadsBack id := by
  obtain ⟨t, hparse, hbare⟩ := h
  refine ⟨t, hparse, hbare.trans ?_⟩
  exact List.map_congr_left fun n hn => Node.bare_congr (every_iff_all.1 hnormal n hn)

/-- **Tree and text.** The flags of an expanded module are identifiers. A reader who normalises
identifiers takes a flag for the flag of the normalised prefix and label. If prefix and labels are
in normal form, that is the flag itself: the flags are kept apart from each other and from the names
of the user, and what such a reader makes of the text is the tree. Labels that are written as names
are always in normal form. -/
theorem expandModule_flags_printed {files : FileTree} {path : Option String} {s : Settings}
    {file : Option String} {m : Module Empty} {e : Expanded}
    (hs : Settings.load files path = .ok s) (hm : m.AsRead)
    (h : expandModule s file m = .ok e) : ∃ loops : List Frame,
    Stmt.BlockLowersBy (IsFlagFor (m.userNames s) s.flagPrefix) [] none loops e.module.body
      (m.expand s).body ∧
    (∀ f ∈ loops, ∀ k x, f.flag k = some x → isIdentifier x = true ∧ ∃ name i,
      f.label = some name ∧ x = flagCandidate (flagBase s.flagPrefix k.name name) i ∧
        normalForm x =
          flagCandidate (flagBase (normalForm s.flagPrefix) k.name (normalForm name)) i) ∧
    e.module.written = .ok e.source ∧ Filled (ofStmts e.module.body) ∧
    (normalForm s.flagPrefix = s.flagPrefix → (m.expand s).QuotedLabelsNormal →
      (∀ x ∈ flagsOf loops, normalForm x = x) ∧
      ((flagsOf loops).map normalForm).Nodup ∧
      (∀ x ∈ flagsOf loops, ∀ y ∈ m.userNames s, normalForm x ≠ normalForm y) ∧
      (e.ReadsBack normalForm → e.ReadsBack id)) := by
  have hsucc := succeeds_of_ok h
  obtain ⟨loops, hlow, hnodup, hdisj⟩ := hsucc.expands.lowersBy
  have hread : Every Node.AsRead (ofStmts (m.expand s).body) := block_asRead _ m.body hm
  have hnamed := hlow.namedBy (by simp) (marksBy_of_asRead hread)
  have hfilled : Filled (ofStmts e.module.body) := by
    rw [hsucc.module_eq]
    exact (((m.expand s).lower_lowersTo s file).filled
      (Module.inPlace_of_no_diagnostics hsucc.labelled) (hread.imp fun _ _ h => h.filled)).1
  refine ⟨loops, hlow, fun f hf k x hx => ?_, hsucc.written, hfilled, fun hpre hlabels => ?_⟩
  · obtain ⟨name, hlabel, ⟨hname, -⟩, -, i, rfl⟩ := hnamed f hf k x hx
    exact ⟨isIdentifier_flagCandidate (Settings.isIdentifier_flagPrefix hs) hname k i, name, i,
      hlabel, rfl, normalForm_flagCandidate s.flagPrefix name k i⟩
  · have hflags : ∀ x ∈ flagsOf loops, normalForm x = x := by
      intro x hx
      obtain ⟨f, hf, hmem⟩ := List.mem_flatMap.1 hx
      obtain ⟨k, hk⟩ := Frame.mem_flags.1 hmem
      obtain ⟨name, -, ⟨-, hnormal⟩, -, i, rfl⟩ := hnamed f hf k x hk
      rw [normalForm_flagCandidate, hpre, hnormal hlabels]
    have husers : ∀ y ∈ m.userNames s, normalForm y = y := by
      intro y hy
      obtain ⟨n, hn, hmem⟩ := List.mem_flatMap.1 hy
      exact (every_iff_all.1 hread n hn).normal y (n.ownNames_subset_identifiers hmem)
    refine ⟨hflags, ?_, fun x hx y hy heq => ?_, fun hback => hback.exact ?_⟩
    · rwa [List.map_congr_left hflags, List.map_id']
    · rw [hflags x hx, husers y hy] at heq
      exact hdisj y hy (heq ▸ hx)
    · exact hlow.spelled (by simp [flagsOf]) hflags (hread.imp fun _ _ h => h.normal)

namespace Nested

/-- A label that is written as a string. -/
def textLabel (l : String) : Expr := .const ⟨0, 0⟩ (.str (.ofString l) false)

/-- Two loops, of which the outer has a label in quotes, and a variable of the user. -/
def textLabelled (l : String) : Module Empty :=
  ⟨[.simple (line 1) importing,
    .simple (line 2) (.assign [target "_flow_break_fi"] (.const ⟨0, 0⟩ .none)),
    .simple (line 2) (call "label" [textLabel l]),
    loops [.simple (line 6) (call "break_if" [var "p", textLabel l])]]⟩

end Nested

/-- A quoted label in normal form, and a variable that could be the flag of another one. -/
theorem expandModule_flags_printed_quoted : ∃ e loops,
    Settings.load .empty none = .ok .default ∧ (Nested.textLabelled "outer").AsRead ∧
      expandModule .default none (Nested.textLabelled "outer") = .ok e ∧
      ((Nested.textLabelled "outer").expand .default).QuotedLabelsNormal ∧
      "_flow_break_outer" ∈ flagsOf loops ∧
      (∀ x ∈ flagsOf loops, normalForm x = x ∧ normalForm x ≠ normalForm "_flow_break_fi") ∧
      (e.ReadsBack normalForm → e.ReadsBack id) := by
  have hread : (Nested.textLabelled "outer").AsRead := by with_unfolding_all decide
  have hlabels : ((Nested.textLabelled "outer").expand .default).QuotedLabelsNormal := by
    with_unfolding_all decide
  obtain ⟨e, he⟩ : ∃ e, expandModule .default none (Nested.textLabelled "outer") = .ok e :=
    Nested.ok_of_toOption (by with_unfolding_all decide)
  obtain ⟨loops, hlow, -, -, -, hprinted⟩ :=
    expandModule_flags_printed (rfl : Settings.load .empty none = .ok .default) hread he
  obtain ⟨hflags, -, husers, hback⟩ := hprinted (by decide) hlabels
  have hflag : "_flow_break_outer" ∈ flagsOf loops := by
    have hname : ((expandModule .default none (Nested.textLabelled "outer")).toOption.map fun e =>
        decide ("_flow_break_outer" ∈ namesIn e.module.body)) = some true := by
      with_unfolding_all decide
    rw [he] at hname
    obtain ⟨n, hn, hmem⟩ := List.mem_flatMap.1 (of_decide_eq_true (Option.some.inj hname))
    -- It is no identifier of the user, and lowering adds none but flags.
    have huser : ∀ n ∈ Node.all (ofStmts ((Nested.textLabelled "outer").expand .default).body),
        ∀ x ∈ n.identifiers, x ≠ "_flow_break_outer" := by with_unfolding_all decide
    have hspelled := hlow.spelled (P := fun x => x = "_flow_break_outer" → x ∈ flagsOf loops)
      (by simp [flagsOf]) (fun x hx _ => hx)
      (every_iff_all.2 fun n hn x hx heq => absurd heq (huser n hn x hx))
    exact every_iff_all.1 hspelled n hn _ (n.ownNames_subset_identifiers hmem) rfl
  have huser : "_flow_break_fi" ∈ (Nested.textLabelled "outer").userNames .default := by
    with_unfolding_all decide
  exact ⟨e, loops, rfl, hread, he, hlabels, hflag,
    fun x hx => ⟨hflags x hx, husers x hx _ huser⟩, hback⟩

/-- **A flag that is not in normal form.** The label is an identifier in quotes, and its flag is new
in the tree. In the text it is the variable of the user. -/
theorem flag_clashes_in_text : ∃ e,
    Settings.load .empty none = .ok .default ∧ (Nested.textLabelled "\ufb01").AsRead ∧
      expandModule .default none (Nested.textLabelled "\ufb01") = .ok e ∧
      "_flow_break_\ufb01" ∈ namesIn e.module.body ∧
      "_flow_break_\ufb01" ∉ (Nested.textLabelled "\ufb01").userNames .default ∧
      normalForm "_flow_break_\ufb01" = "_flow_break_fi" ∧
      "_flow_break_fi" ∈ (Nested.textLabelled "\ufb01").userNames .default := by
  have hread : (Nested.textLabelled "\ufb01").AsRead := by with_unfolding_all decide
  obtain ⟨e, he⟩ : ∃ e, expandModule .default none (Nested.textLabelled "\ufb01") = .ok e :=
    Nested.ok_of_toOption (by decide +kernel)
  have hflag : ((expandModule .default none (Nested.textLabelled "\ufb01")).toOption.map fun e =>
      decide ("_flow_break_\ufb01" ∈ namesIn e.module.body)) = some true := by decide +kernel
  rw [he] at hflag
  refine ⟨e, rfl, hread, he, of_decide_eq_true (Option.some.inj hflag), ?_, ?_, ?_⟩ <;>
    decide +kernel

end JumpMacros
