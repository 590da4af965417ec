import JumpMacros.Proofs.NormalForms
import JumpMacros.Proofs.SourceBytes
import JumpMacros.Proofs.Vocabulary
import JumpMacros.Token.Scan
import Mathlib.Data.List.TakeWhile

/-!
# Names stand in the text

**Theorem (`scan_known`).** Every name among the tokens of a text is the normal form of a word that
stands in the text.

What is left to scan is always an end of the text, and a word is what stands in front of it
(`Scanner.Inside`). Each step of the scanner keeps that, hence so does the whole scan.
-/

namespace JumpMacros

open Text (normalForm unifyLineEnds infix_of_unifyLineEnds)

variable {cs : List Char}

/-- A token is no name, or the normal form of a word of the text. -/
def Token.OfText (cs : List Char) (t : Token) : Prop :=
  ∀ id written, t.kind = .name id written →
    id = normalForm written ∧ written.toList <:+: cs ∧ ∀ c ∈ written.toList, Number.isWordChar c

/-- A token that is no name. -/
theorem Token.ofText_of_kind {t : Token} (h : ∀ id written, t.kind ≠ .name id written) :
    t.OfText cs :=
  fun id written hkind => absurd hkind (h id written)

/-! ## Cursors -/

namespace Cursor

theorem rest_step (c : Cursor) : c.step.rest <:+ c.rest := by
  unfold step
  split
  next h => exact h ▸ List.suffix_refl _
  next x xs h =>
    rw [h]
    split <;> exact List.suffix_cons x xs

theorem rest_skip (c : Cursor) (n : Nat) : (c.skip n).rest <:+ c.rest := by
  induction n generalizing c with
  | zero => exact List.suffix_refl _
  | succ n ih => exact (ih c.step).trans c.rest_step

theorem rest_skipWhile (c : Cursor) (test : Char → Bool) : (c.skipWhile test).rest <:+ c.rest :=
  c.rest_skip _

end Cursor

/-! ## Steps -/

/-- The scanner stands inside of a text, and its names are words of the text. -/
structure Scanner.Inside (cs : List Char) (s : Scanner) : Prop where
  rest : s.cursor.rest <:+ cs
  tokens : ∀ t ∈ s.tokens, t.OfText cs

namespace Scanner

variable {s s' : Scanner}

theorem Inside.add (h : s.Inside cs) {kind : TokenKind} (start stop : Cursor)
    (hkind : ∀ id written, kind = .name id written →
      id = normalForm written ∧ written.toList <:+: cs ∧
        ∀ c ∈ written.toList, Number.isWordChar c) :
    (s.add kind start stop).Inside cs :=
  ⟨h.rest, List.forall_mem_cons.2 ⟨hkind, h.tokens⟩⟩

theorem Inside.addOther (h : s.Inside cs) {kind : TokenKind} (start stop : Cursor)
    (hkind : ∀ id written, kind ≠ .name id written) : (s.add kind start stop).Inside cs :=
  h.add start stop fun id written heq => absurd heq (hkind id written)

/-- The scanner goes on from another place of the text. -/
theorem Inside.move (h : s.Inside cs) {c : Cursor} (hc : c.rest <:+ cs) :
    ({ s with cursor := c } : Scanner).Inside cs :=
  ⟨hc, h.tokens⟩

theorem Inside.startAt (h : s.Inside cs) {c : Cursor} (hc : c.rest <:+ cs) :
    (s.startAt c).Inside cs :=
  ⟨hc, h.tokens⟩

theorem indentLine_inside (h : s.Inside cs) {wide narrow : Nat} {c : Cursor}
    (hc : c.rest <:+ cs) (hs : s.indentLine wide narrow c = .ok s') : s'.Inside cs := by
  have hblock (kind : TokenKind) (hk : ∀ id written, kind ≠ .name id written) :
      (blockToken kind c).OfText cs := Token.ofText_of_kind hk
  simp only [indentLine] at hs
  split at hs
  · split at hs
    · cases hs
      exact ⟨hc, h.tokens⟩
    · cases hs
  · split at hs
    · split at hs
      · cases hs
      · split at hs
        · cases hs
        · cases hs
          exact ⟨hc, List.forall_mem_cons.2 ⟨hblock _ fun _ _ => nofun, h.tokens⟩⟩
    · split at hs
      · cases hs
      · split at hs
        · cases hs
        · cases hs
          refine ⟨hc, List.forall_mem_append.2 ⟨fun t ht => ?_, h.tokens⟩⟩
          exact List.eq_of_mem_replicate ht ▸ hblock _ fun _ _ => nofun

theorem startLine_inside (h : s.Inside cs) (hs : s.startLine = .ok s') : s'.Inside cs := by
  simp only [startLine] at hs
  have hc := (s.cursor.rest_skip (indentation 0 ⟨0, 0, 0, s.cursor.rest⟩ s.cursor.rest).count).trans
    h.rest
  split at hs
  · cases hs
    exact ⟨hc, h.tokens⟩
  · cases hs
  · cases hs
    exact h.startAt ((Cursor.rest_step _).trans hc)
  · cases hs
    exact h.startAt ((Cursor.rest_step _).trans ((Cursor.rest_skipWhile _ _).trans hc))
  · refine indentLine_inside ?_ hc hs
    exact ⟨h.rest, h.tokens⟩

theorem scanString_inside (h : s.Inside cs) {marks : List Char} {start c : Cursor}
    (hc : c.rest <:+ cs) (hs : s.scanString marks start c = .ok s') : s'.Inside cs := by
  simp only [scanString] at hs
  split at hs
  · cases hs
    refine Inside.move (Inside.addOther ?_ _ _ (by simp)) ((Cursor.rest_skip _ _).trans hc)
    exact ⟨h.rest, h.tokens⟩
  · cases hs

theorem scanWord_inside (h : s.Inside cs) {start : Cursor} (hc : start.rest <:+ cs)
    (hs : s.scanWord start = .ok s') : s'.Inside cs := by
  unfold scanWord at hs
  have hstop := (start.rest_skip (start.rest.takeWhile Number.isWordChar).length).trans hc
  dsimp only at hs
  -- whether a quote follows is looked up before the marks are
  split at hs
  all_goals
    split at hs
    · exact scanString_inside h hstop hs
    · split at hs
      · cases hs
      · cases hs
        refine (h.add _ _ fun id written hkind => ?_).move hstop
        split at hkind
        · cases hkind
        · cases hkind
          refine ⟨rfl, ?_, fun c hmem => ?_⟩
          · rw [String.toList_ofList]
            exact (List.takeWhile_prefix _).isInfix.trans hc.isInfix
          · rw [String.toList_ofList] at hmem
            exact List.mem_takeWhile_imp hmem

theorem scanMark_inside (h : s.Inside cs) {start : Cursor} (hc : start.rest <:+ cs)
    (hs : s.scanMark start = .ok s') : s'.Inside cs := by
  simp only [scanMark] at hs
  split at hs
  · cases hs
    exact (h.addOther _ _ (by simp)).move ((Cursor.rest_skip _ _).trans hc)
  · split at hs
    · cases hs
      exact h
    · split at hs
      · cases hs
      · cases hb : s.bracket _ start start.step with
        | error f => rw [hb] at hs; cases hs
        | ok bs =>
          rw [hb] at hs
          cases hs
          refine Inside.move (Inside.addOther ?_ _ _ (by simp))
            ((Cursor.rest_step _).trans hc)
          exact ⟨h.rest, h.tokens⟩

theorem scanInside_inside (h : s.Inside cs) (hs : s.scanInside = .ok s') : s'.Inside cs := by
  unfold scanInside at hs
  dsimp only at hs
  have hc := (s.cursor.rest_skipWhile fun x => x == ' ' || x == '\t' || x == '\x0c').trans h.rest
  generalize (s.cursor.skipWhile fun x => x == ' ' || x == '\t' || x == '\x0c') = c at hs hc
  have he : (if c.rest.head? == some '#' then c.skipWhile (· != '\n') else c).rest <:+ cs := by
    split
    · exact (c.rest_skipWhile _).trans hc
    · exact hc
  generalize (if c.rest.head? == some '#' then c.skipWhile (· != '\n') else c) = e at hs he
  have hnext := e.rest_step.trans he
  split at hs
  · cases hs
    exact h.move he
  · split at hs
    · cases hs
      exact ⟨hnext, (h.addOther c e (by simp)).tokens⟩
    · cases hs
      exact h.startAt hnext
  · have hnext : c.step.step.rest <:+ cs := (c.step.rest_step.trans c.rest_step).trans hc
    split at hs
    · cases hs
    · split at hs
      · cases hs
        exact h.startAt hnext
      · cases hs
        exact ⟨hnext, h.tokens⟩
  · split at hs
    · split at hs
      · cases hs
        exact (h.addOther _ _ (by simp)).move ((c.rest_skip _).trans hc)
      · cases hs
      · cases hs
    · split at hs
      · exact scanString_inside h hc hs
      · split at hs
        · exact scanWord_inside h hc hs
        · exact scanMark_inside h hc hs

/-! ## Whole texts -/

theorem run_inside (h : s.Inside cs) (fuel : Nat) : (run fuel s).1.Inside cs := by
  induction fuel generalizing s with
  | zero => exact h
  | succ fuel ih =>
    rw [run]
    split
    · exact h
    · split
      next next hstep =>
        refine ih ?_
        split at hstep
        · exact startLine_inside h hstep
        · exact scanInside_inside h hstep
      · exact h

/-- The end of the text adds no name. -/
theorem Inside.close (h : s.Inside cs) (fault : Option Fault) (lastLine lastCol : Nat) :
    ∀ t ∈ s.close fault lastLine lastCol, t.OfText cs := by
  have hlast {kind : TokenKind} (hk : ∀ id written, kind ≠ .name id written) :
      Token.OfText cs ⟨kind, ⟨lastLine, 0⟩, ⟨lastLine, 0⟩, some lastCol, 0, none⟩ :=
    Token.ofText_of_kind hk
  unfold Scanner.close
  dsimp only
  split
  all_goals
    intro t ht
    rw [List.mem_reverse] at ht
    revert t
  · exact List.forall_mem_cons.2 ⟨hlast (by simp), h.tokens⟩
  · refine List.forall_mem_append.2 ⟨List.forall_mem_cons.2 ⟨hlast (by simp), ?_⟩, h.tokens⟩
    exact fun t ht => List.eq_of_mem_replicate ht ▸ hlast (by simp)

end Scanner

theorem scanFrom_ofText (line col : Nat) (cs : List Char) :
    ∀ t ∈ scanFrom line col cs, t.OfText cs := by
  let start : Scanner := ⟨⟨cs, line, col, col⟩, [], [], true, ⟨cs, 0⟩, []⟩
  let stop := Scanner.run (2 * cs.length + 2) start
  have hstart : start.Inside cs := ⟨List.suffix_refl cs, fun _ ht => nomatch ht⟩
  have hscan : scanFrom line col cs =
      stop.1.close stop.2 ((lastLine cs).1 + line - 1) (lastLine cs).2 := by
    rw [scanFrom]
  rw [hscan]
  exact (Scanner.run_inside hstart _).close _ _ _

/-! ## Line ends -/

theorem sourceLines.unify_eq : sourceLines.unify = unifyLineEnds := by
  funext cs
  fun_induction unifyLineEnds cs <;> simp_all [sourceLines.unify]

/-- A word of the lines of a text is a word of the text. -/
theorem infix_of_sourceLines {ws : List Char} {text : String} (hws : '\n' ∉ ws)
    (h : ws <:+: sourceLines text) : ws <:+: text.toList := by
  have hlines : ws <:+: sourceLines.unify text.toList := by
    have hend : ws <:+: sourceLines.unify text.toList ++ ['\n'] →
        ws <:+: sourceLines.unify text.toList := fun hin => by
      refine (List.infix_concat_iff.1 hin).elim (fun hsuf => ?_) id
      obtain rfl | ⟨_, rfl, -⟩ := List.suffix_concat_iff.1 hsuf
      · exact List.nil_infix
      · exact absurd List.mem_concat_self hws
    unfold sourceLines at h
    dsimp only at h
    split at h
    · exact hend h
    · split at h
      · exact h
      · exact hend h
  rw [sourceLines.unify_eq] at hlines
  exact infix_of_unifyLineEnds hws hlines

/-! ## The vocabulary of a text -/

/-- The words of a text in normal form. -/
abbrev Vocabulary.ofText (text : String) : Vocabulary :=
  ⟨fun id => ∃ w : String, w.toList <:+: text.toList ∧
    (∀ c ∈ w.toList, Number.isWordChar c = true) ∧ normalForm w = id⟩

/-- **Every name that is scanned is a word of the text, in normal form.** -/
theorem scan_known (text : String) : ∀ t ∈ scan text, @Token.Known (.ofText text) t := by
  intro t ht id written hkind
  obtain ⟨rfl, hin, hword⟩ := scanFrom_ofText 1 0 (sourceLines text) t ht id written hkind
  have hline : '\n' ∉ written.toList := fun hmem => absurd (hword _ hmem) (by decide)
  exact ⟨written, infix_of_sourceLines hline hin, hword, rfl⟩

theorem visible_of_isWordChar {c : Char} (h : Number.isWordChar c = true) : 0x20 ≤ c.toNat := by
  have hlow : ∀ n < 0x20, Number.isWordChar (.ofNat n) = false := by decide
  by_contra hc
  have hword := hlow c.toNat (by omega)
  rw [Char.ofNat_toNat, h] at hword
  cases hword

/-- What is joined from words of a text stands on one line. -/
theorem Vocabulary.Joins.no_line {text path : String} (h : @Vocabulary.Joins (.ofText text) path) :
    '\n' ∉ path.toList := by
  obtain ⟨n, ns, hknown, rfl⟩ := h
  have hnames : ∀ x ∈ n :: ns, '\n' ∉ x.toList := fun x hx => by
    obtain ⟨w, -, hword, rfl⟩ := hknown x hx
    exact Text.normalForm_no_line fun c hc => visible_of_isWordChar (hword c hc)
  clear hknown
  induction ns generalizing n with
  | nil => simpa using hnames
  | cons n' ns ih =>
    obtain ⟨hn, hrest⟩ := List.forall_mem_cons.1 hnames
    rw [String.intercalate_cons_cons, String.toList_append, String.toList_append, List.mem_append,
      List.mem_append, not_or, not_or]
    exact ⟨⟨hn, by decide⟩, ih n' hrest⟩

end JumpMacros
