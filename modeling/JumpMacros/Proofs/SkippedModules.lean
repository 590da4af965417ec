import JumpMacros.Proofs.NoCalls
import JumpMacros.Proofs.PathNames
import JumpMacros.Proofs.ReadStmts
import JumpMacros.Proofs.ScannedNames
import JumpMacros.Proofs.ShrunkScopes
import JumpMacros.Proofs.TableLookups
import JumpMacros.Script.Eval
import Mathlib

/-!
# Modules that are not expanded

A finder declines modules whose bytes do not name the package.

**Theorem (`skipped_module_agrees`).** Such a module would be expanded to itself, if the bytes show
the package wherever the text names it, and no call is spelled by an implicit name.

Names that are read are words of the text, and a scope sees a macro only through an import or an
implicit name. So a module that cannot name the package sees no more than the implicit names do,
at every place in it (`envAt_within`).
-/

namespace JumpMacros

open Vocabulary (Joins)
open Text (Bytes)

/-! ## What is visible -/

section

variable [Vocabulary] {s : Settings}

/-- A scope that cannot name the package sees what is visible around it, at most. -/
theorem scopeTable_within_enclosing {package : String} (hpackage : ¬Joins package)
    {body : List (Stmt Empty)} (hbody : ∀ st ∈ body, st.Read) (t : Table) (params : List String) :
    (scopeTable package body t params).Within t := by
  intro sp hsp
  unfold scopeTable at hsp
  obtain ⟨hadded, -⟩ := Table.mem_spellings_without.1 hsp
  refine (Table.mem_spellings_addDenoted.1 hadded).resolve_right ?_
  rintro ⟨name, hname⟩
  exact not_denotes_of_read hbody hpackage sp name hname

/-- A scope whose statements could have been read. -/
def Scope.Read : Scope → Prop
  | .module b | .function _ b | .klass b => ∀ st ∈ b, st.Read
  | .lambda _ _ | .comprehension _ _ => True

/-- A place in such scopes. -/
def Place.Read (place : Place) : Prop := ∀ S ∈ place, S.Read

theorem envAt_within (hpackage : ¬Joins s.package) {place : Place} (h : place.Read) :
    (envAt s place).Within (.ofTable s.implicitTable) := by
  induction place with
  | nil => exact Env.Within.ofTable fun _ => id
  | cons S outer ih =>
    obtain ⟨hS, houter⟩ := List.forall_mem_cons.1 h
    have hin := ih houter
    cases S with
    | module b =>
      exact .ofTable (scopeTable_within_enclosing hpackage hS _ _)
    | function hd b =>
      have hown := scopeTable_within_enclosing hpackage hS (envAt s outer).inner hd.params.names
      exact .ofTable (hown.trans hin.inner)
    | klass b =>
      have hown := scopeTable_within_enclosing hpackage hS (envAt s outer).inner []
      exact ⟨hown.trans hin.inner, hin.inner⟩
    | lambda ps e =>
      have hown : ((envAt s outer).inner.without ps.names).Within (envAt s outer).inner :=
        fun _ hsp => (Table.mem_spellings_without.1 hsp).1
      exact .ofTable (hown.trans hin.inner)
    | comprehension parts cs => exact hin

/-! ## Places in modules -/

namespace Place

theorem read_nil : Place.Read [] := nofun

theorem Read.cons {place : Place} (h : place.Read) (S : Scope) (hS : S.Read) :
    Place.Read (S :: place) :=
  List.forall_mem_cons.2 ⟨hS, h⟩

/-- The scopes of expressions hold no statements. -/
theorem Read.placed {place : Place} (h : place.Read) {e : Expr} :
    ∀ c ∈ e.placed place, c.1.Read := by
  have hsame (es : List Expr) : ∀ c ∈ es.map (place, ·), c.1.Read :=
    List.forall_mem_map.2 fun _ _ => h
  have hclauses (parts : List Expr) (cs : List Clause) :
      ∀ c ∈ place.ofClauses parts cs, c.1.Read := by
    have hinside : Place.Read (.comprehension parts cs :: place) := h.cons _ trivial
    unfold ofClauses
    refine List.forall_mem_append.2 ⟨List.forall_mem_map.2 fun _ _ => hinside, ?_⟩
    cases cs with
    | nil => exact nofun
    | cons c cs =>
      obtain ⟨a, t, i, gs⟩ := c
      refine List.forall_mem_cons.2 ⟨hinside, List.forall_mem_cons.2 ⟨h, ?_⟩⟩
      exact List.forall_mem_map.2 fun _ _ => hinside
  unfold Expr.placed
  split
  · exact List.forall_mem_append.2 ⟨hsame _, List.forall_mem_singleton.2 (h.cons _ trivial)⟩
  · exact hclauses _ _
  · exact hclauses _ _
  · exact hsame _

end Place

theorem Expr.visits_read {place : Place} (h : place.Read) (e : Expr) :
    ∀ v ∈ e.visits place, v.place.Read := by
  rw [Expr.visits_eq]
  refine List.forall_mem_cons.2 ⟨h, List.forall_mem_flatMap.2 fun c hc => ?_⟩
  have hlt := Expr.sizeOf_placed hc
  exact Expr.visits_read (h.placed c hc) c.2
termination_by sizeOf e

theorem Stmt.ownVisits_read {place : Place} (h : place.Read) (st : Stmt Empty) :
    ∀ v ∈ st.ownVisits place, v.place.Read :=
  List.forall_mem_cons.2 ⟨h, List.forall_mem_flatMap.2 fun e _ => e.visits_read h⟩

mutual

theorem Stmt.visits_read {place : Place} (h : place.Read) : ∀ st : Stmt Empty, st.Read →
    ∀ v ∈ st.visits place, v.place.Read
  | .simple _ _, _ => by
    rw [Stmt.visits, List.append_nil]
    exact Stmt.ownVisits_read h _
  | .hole _ hole, _ => nomatch hole
  | .branch _ _ b o, .branch _ hb ho => by
    rw [Stmt.visits]
    exact List.forall_mem_append.2 ⟨Stmt.ownVisits_read h _, List.forall_mem_append.2
      ⟨Stmt.allVisits_read h b hb, Stmt.allVisits_read h o ho⟩⟩
  | .loop _ _ b o, .loop _ hb ho => by
    rw [Stmt.visits]
    exact List.forall_mem_append.2 ⟨Stmt.ownVisits_read h _, List.forall_mem_append.2
      ⟨Stmt.allVisits_read h b hb, Stmt.allVisits_read h o ho⟩⟩
  | .function _ hd b, .function _ hb => by
    rw [Stmt.visits]
    exact List.forall_mem_append.2
      ⟨Stmt.ownVisits_read h _, Stmt.allVisits_read (h.cons (.function hd b) hb) b hb⟩
  | .klass _ _ b, .klass _ hb => by
    rw [Stmt.visits]
    exact List.forall_mem_append.2
      ⟨Stmt.ownVisits_read h _, Stmt.allVisits_read (h.cons (.klass b) hb) b hb⟩
  | .withItems _ _ _ b, .withItems _ hb => by
    rw [Stmt.visits]
    exact List.forall_mem_append.2 ⟨Stmt.ownVisits_read h _, Stmt.allVisits_read h b hb⟩
  | .attempt _ _ b hs o f, .attempt hb hh ho hf => by
    rw [Stmt.visits]
    simp only [List.forall_mem_append]
    exact ⟨Stmt.ownVisits_read h _, ⟨⟨Stmt.allVisits_read h b hb, Handler.visits_read h hs hh⟩,
      Stmt.allVisits_read h o ho⟩, Stmt.allVisits_read h f hf⟩
  | .select _ _ cs, .select _ hc => by
    rw [Stmt.visits]
    exact List.forall_mem_append.2 ⟨Stmt.ownVisits_read h _, Case.visits_read h cs hc⟩

theorem Stmt.allVisits_read {place : Place} (h : place.Read) : ∀ ss : List (Stmt Empty),
    (∀ st ∈ ss, st.Read) → ∀ v ∈ Stmt.allVisits place ss, v.place.Read
  | [], _ => nofun
  | st :: ss, hss => by
    obtain ⟨hst, hss⟩ := List.forall_mem_cons.1 hss
    rw [Stmt.allVisits]
    exact List.forall_mem_append.2 ⟨Stmt.visits_read h st hst, Stmt.allVisits_read h ss hss⟩

theorem Handler.visits_read {place : Place} (h : place.Read) : ∀ hs : List (Handler Empty),
    (∀ c ∈ hs, c.Read) → ∀ v ∈ Handler.visits place hs, v.place.Read
  | [], _ => nofun
  | .mk _ _ _ b :: hs, hhs => by
    obtain ⟨⟨-, hb⟩, hhs⟩ := List.forall_mem_cons.1 hhs
    rw [Handler.visits]
    exact List.forall_mem_append.2 ⟨Stmt.allVisits_read h b hb, Handler.visits_read h hs hhs⟩

theorem Case.visits_read {place : Place} (h : place.Read) : ∀ cs : List (Case Empty),
    (∀ c ∈ cs, c.Read) → ∀ v ∈ Case.visits place cs, v.place.Read
  | [], _ => nofun
  | .mk _ _ b :: cs, hcs => by
    obtain ⟨⟨-, -, hb⟩, hcs⟩ := List.forall_mem_cons.1 hcs
    rw [Case.visits]
    exact List.forall_mem_append.2 ⟨Stmt.allVisits_read h b hb, Case.visits_read h cs hcs⟩

end

theorem Module.visits_read {m : Module Empty} (h : ∀ st ∈ m.body, st.Read) :
    ∀ v ∈ m.visits, v.place.Read :=
  Stmt.allVisits_read (Place.read_nil.cons (.module m.body) h) m.body h

/-! ## Calls -/

/-- No call of a module is spelled by an implicit name. -/
def Module.AvoidsImplicit (s : Settings) (m : Module Empty) : Prop :=
  ∀ v ∈ m.visits, ∀ f ∈ v.callee?, ∀ sp ∈ f.dotted, ∀ macroName, ¬s.Lists macroName sp

/-- A module that cannot name the package, and does not use the implicit names, calls no macro. -/
theorem Module.no_calls (hpackage : ¬Joins s.package) {m : Module Empty}
    (hread : ∀ st ∈ m.body, st.Read) (himplicit : m.AvoidsImplicit s) :
    ∀ v ∈ m.visits, v.macroName? s = none := by
  intro v hv
  cases hf : v.callee? with
  | none => simp [Visit.macroName?, hf]
  | some f =>
    have hresolve : (Env.ofTable s.implicitTable).resolve f.dotted = none := by
      cases hsp : f.dotted with
      | none => rfl
      | some sp => exact lookup_implicitTable_eq_none.2 (himplicit v hv f hf sp hsp)
    simpa [Visit.macroName?, hf] using
      (envAt_within hpackage (Module.visits_read hread v hv)).resolve hresolve

end

/-! ## Texts -/

/-- A text in which the name of the package stands as a whole, if words of the text can be joined
to it at all. -/
def Settings.SpelledOut (s : Settings) (text : String) : Prop :=
  @Joins (.ofText text) s.package → s.package.toList <:+: text.toList

/-- The name of a package that is no part of another one is spelled out in ASCII texts. -/
theorem Settings.spelledOut_of_ascii {s : Settings} {text : String}
    (hpackage : '.' ∉ s.package.toList) (htext : ∀ c ∈ text.toList, c.toNat < 0x80) :
    s.SpelledOut text := by
  rintro ⟨n, ns, hknown, hjoin⟩
  obtain rfl : ns = [] := by
    cases ns with
    | nil => rfl
    | cons n' ns =>
      refine absurd ?_ hpackage
      rw [hjoin, String.intercalate_cons_cons]
      simp
  obtain ⟨w, hin, -, hw⟩ := hknown n List.mem_cons_self
  have hascii : Text.normalForm w = w := by
    have hall : w.toList.all (·.toNat < 128) = true :=
      List.all_eq_true.2 fun c hc => decide_eq_true (htext c (hin.subset hc))
    rw [Text.normalForm, if_pos hall]
  have hname : s.package = w := by
    rw [hjoin, ← hw, hascii]
    simp
  rw [hname]
  exact hin

/-! ## Loading -/

section

variable {s : Settings} {files : FileTree} {name origin : String} {dirs : List String}
  {isPackage : Bool} {bytes : Bytes} {text : String}

/-- Expanding gives a module back, without records. It fails only if the module has no text. -/
def Module.ExpandsToItself (s : Settings) (file : String) (m : Module Empty) : Prop :=
  expandModule s (some file) m = match m.written with
    | .error u => .error (.unwritable u)
    | .ok text => .ok ⟨m, [], text⟩

theorem compileModule_eq_ok {file : String} {textNotes : Bool} {m : Module Empty} :
    compileModule file textNotes m = .ok () ↔
      m.unusableName = none ∧ m.refused textNotes = none := by
  unfold compileModule
  cases m.unusableName <;> cases m.refused textNotes <;> simp

theorem plainSource_eq_ok {tree : Module Empty} : Script.plainSource origin text = .ok tree ↔
    parseSource origin text = .ok tree ∧ tree.refused false = none := by
  unfold Script.plainSource
  cases parseSource origin text with
  | error e => cases e <;> simp
  | ok m =>
    dsimp only
    split
    · rename_i r hr
      simp only [reduceCtorEq, Except.ok.injEq, false_iff, not_and]
      rintro rfl
      simp [hr]
    · rename_i hr
      simp only [Except.ok.injEq]
      exact ⟨fun h => ⟨h, h ▸ hr⟩, And.left⟩

theorem expandSource_eq_ok {e : Expanded} : expandSource s origin text = .ok e ↔
    ∃ m, parseSource origin text = .ok m ∧ expandModule s (some origin) m = .ok e := by
  unfold expandSource
  cases parseSource origin text with
  | error f => simp [bind, Except.bind]
  | ok m => cases hm : expandModule s (some origin) m <;> simp [bind, Except.bind, hm]

theorem compileSource_eq_ok {e : Expanded} : compileSource s origin text = .ok e ↔
    expandSource s origin text = .ok e ∧ compileModule origin false e.module = .ok () := by
  unfold compileSource
  cases expandSource s origin text with
  | error f => simp [bind, Except.bind]
  | ok e' =>
    cases hc : compileModule origin false e'.module with
    | error f =>
      simp only [bind, Except.bind, hc, reduceCtorEq, Except.ok.injEq, false_iff, not_and]
      rintro rfl
      simp [hc]
    | ok u =>
      simp only [bind, Except.bind, hc, pure, Except.pure, Except.ok.injEq]
      exact ⟨fun h => ⟨h, h ▸ hc⟩, And.left⟩

theorem parseSource_eq_ok {m : Module Empty} :
    parseSource origin text = .ok m ↔ Module.parse text = .ok m := by
  unfold parseSource
  split <;> simp_all

/-- A module that is expanded to itself is loaded as if it had not been expanded, unless it has no
text. -/
theorem moduleTree_of_unchanged (hbytes : files.read (.ofString origin) = .ok bytes)
    (hdecode : Text.decodeSource bytes = .ok text)
    (hexpand : ∀ m, Module.parse text = .ok m → m.ExpandsToItself s origin) (tree : Module Empty) :
    Script.moduleTree files origin (some s) = .ok tree ↔
      Script.moduleTree files origin none = .ok tree ∧ (∃ written, tree.written = .ok written) ∧
        tree.unusableName = none := by
  have hload : Script.moduleTree files origin (some s) = .ok tree ↔
      ∃ e, compileSource s origin text = .ok e ∧ e.module = tree := by
    simp only [Script.moduleTree, loadModule, compileBytes, hbytes, hdecode]
    cases compileSource s origin text <;> simp [Except.map]
  have hplain : Script.moduleTree files origin none = Script.plainSource origin text := by
    simp only [Script.moduleTree, Script.plainModule, hbytes, hdecode]
  rw [hload, hplain, plainSource_eq_ok, parseSource_eq_ok]
  simp only [compileSource_eq_ok, compileModule_eq_ok, expandSource_eq_ok, parseSource_eq_ok]
  constructor
  · rintro ⟨e, ⟨⟨m, hm, he⟩, hname, hrefused⟩, rfl⟩
    rw [hexpand m hm] at he
    split at he
    · cases he
    · rename_i written hw
      cases he
      exact ⟨⟨hm, hrefused⟩, ⟨written, hw⟩, hname⟩
  · rintro ⟨⟨hm, hrefused⟩, ⟨written, hw⟩, hname⟩
    refine ⟨⟨tree, [], written⟩, ⟨⟨tree, hm, ?_⟩, hname, hrefused⟩, rfl⟩
    rw [hexpand tree hm, hw]

/-! ## Skipped files -/

theorem occurs_iff {pattern bs : Bytes} : occurs pattern bs = true ↔ pattern <:+: bs := by
  induction bs with
  | nil => simp [occurs]
  | cons b bs ih =>
    rw [occurs, Bool.or_eq_true, List.isPrefixOf_iff_prefix, ih, List.infix_cons_iff]

/-- The bytes of a module that is found but not taken on do not name the package. -/
theorem not_infix_of_skipped (howns : s.owns name = false)
    (hfound : searchPath files (lastPart name) dirs = .source origin isPackage)
    (hbytes : files.read (.ofString origin) = .ok bytes)
    (hskip : findModule s files name dirs = none) : ¬Text.Utf8.encode s.package <:+: bytes := by
  have hmentions : mentions s files origin = false := by
    simpa [findModule, howns, hfound] using hskip
  rw [← occurs_iff, Bool.not_eq_true]
  simpa [mentions, hbytes] using hmentions

/-- A module that is found but not taken on cannot name the package. -/
theorem not_joins_of_skipped (howns : s.owns name = false)
    (hfound : searchPath files (lastPart name) dirs = .source origin isPackage)
    (hbytes : files.read (.ofString origin) = .ok bytes)
    (hskip : findModule s files name dirs = none)
    (hdecode : Text.decodeSource bytes = .ok text)
    (hencoding : Text.sourceEncoding bytes = .ok .utf8 ∨ ∀ c ∈ s.package.toList, c.toNat < 0x80)
    (hspelled : s.SpelledOut text) : ¬@Joins (.ofText text) s.package := fun hjoins =>
  not_infix_of_skipped howns hfound hbytes hskip
    (Text.decodeSource_isInfix hdecode hencoding hjoins.no_line (hspelled hjoins))

/-- **A module that a finder declines has nothing to expand**: expanding it records nothing, and
fails only where the text cannot be read or written. -/
theorem skipped_module_agrees (howns : s.owns name = false)
    (hfound : searchPath files (lastPart name) dirs = .source origin isPackage)
    (hbytes : files.read (.ofString origin) = .ok bytes)
    (hskip : findModule s files name dirs = none)
    (hdecode : Text.decodeSource bytes = .ok text)
    (hencoding : Text.sourceEncoding bytes = .ok .utf8 ∨ ∀ c ∈ s.package.toList, c.toNat < 0x80)
    (hspelled : s.SpelledOut text)
    (himplicit : ∀ m, Module.parse text = .ok m → m.AvoidsImplicit s) :
    (∀ m, Module.parse text = .ok m → m.ExpandsToItself s origin) ∧
    ∀ tree, Script.moduleTree files origin (some s) = .ok tree ↔
      Script.moduleTree files origin none = .ok tree ∧ (∃ written, tree.written = .ok written) ∧
        tree.unusableName = none := by
  have hpackage := not_joins_of_skipped howns hfound hbytes hskip hdecode hencoding hspelled
  have hexpand (m : Module Empty) (hm : Module.parse text = .ok m) :
      m.ExpandsToItself s origin := by
    let _ := Vocabulary.ofText text
    exact expandModule_of_no_calls (some origin)
      (Module.no_calls hpackage (Module.parse_read hm (scan_known text)) (himplicit m hm))
  exact ⟨hexpand, moduleTree_of_unchanged hbytes hdecode hexpand⟩

end

/-- A file that calls a function. -/
def printingFile : FileTree :=
  { entries := [(["helper.py"], .file (Text.Utf8.encode "print(1)\n"))] }

/-- The file that was found, and whether it is a package. -/
def Found.source? : Found → Option (String × Bool)
  | .source origin isPackage => some (origin, isPackage)
  | _ => none

theorem searchPath_printingFile :
    searchPath printingFile (lastPart "helper") ["."] = .source "helper.py" false := by
  have hlast : lastPart "helper" = "helper" := by decide
  have hname : "helper".contains '/' = false := by cbv
  have h : (searchPath printingFile "helper" ["."]).source? = some ("helper.py", false) := by
    simp only [searchPath, searchDirectory, searchFiles, Path.ofString_eq, hname]
    with_unfolding_all decide
  rw [hlast]
  generalize searchPath printingFile "helper" ["."] = found at h ⊢
  cases found with
  | source origin isPackage => cases h; rfl
  | _ => cases h

/-- A file that names no package is skipped. -/
theorem skipped_module_agrees_printing :
    findModule .default printingFile "helper" ["."] = none ∧
      ∀ m, Module.parse "print(1)\n" = .ok m → m.ExpandsToItself .default "helper.py" := by
  have hbytes : printingFile.read (.ofString "helper.py") =
      .ok (Text.Utf8.encode "print(1)\n") := by
    rw [Path.ofString_eq]
    cbv
  have hskip : findModule .default printingFile "helper" ["."] = none := by
    have hmentions : mentions .default printingFile "helper.py" = false := by
      rw [mentions, Path.ofString_eq]
      with_unfolding_all decide
    simp [findModule, searchPath_printingFile, hmentions]
  have hspelled : Settings.default.SpelledOut "print(1)\n" :=
    Settings.spelledOut_of_ascii (by decide) (Text.Utf8.ascii_of_all (by decide))
  refine ⟨hskip, (skipped_module_agrees (by decide) searchPath_printingFile hbytes hskip
    (by cbv) (.inr (Text.Utf8.ascii_of_all (by decide))) hspelled ?_).1⟩
  rintro m - v - f - sp - macroName ⟨sps, hmem, -⟩
  cases hmem

end JumpMacros
