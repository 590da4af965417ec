import JumpMacros.Yaml.Document
import Mathlib.Data.List.TakeWhile
import Mathlib.Tactic.Ring

/-!
# Long keys

**Theorem (`read_hexKey`).** A document that is a question mark and a hexadecimal number is read as
a mapping with the number for its key, if the number is too long for a key without the mark.

Decimal numbers have a limited number of digits, so this is how a number that is too long to be
written comes to be a key. The proof follows the scanner through its three steps: the mark, the word
and the end.
-/

namespace JumpMacros.Yaml

/-! ## Words -/

/-- A character that stands inside of a word and takes a column. -/
def isInner (c : Char) : Bool := !isBlank c && c != ':' && c != '\ufeff'

variable {w : List Char}

/-- A plain scalar goes on inside of a word. -/
theorem plainWord_inner (hw : ∀ c ∈ w, isInner c) : plainWord false w = w := by
  induction w with
  | nil => rfl
  | cons c w ih =>
    obtain ⟨hc, hrest⟩ := List.forall_mem_cons.1 hw
    have hend : endsPlain false c (w.headD '\x00') = false := by
      simp only [isInner, Bool.and_eq_true, Bool.not_eq_true', bne_iff_ne] at hc
      simp [endsPlain, hc.1.1, hc.1.2]
    rw [plainWord, hend, ih hrest]
    rfl

theorem skip_inner (hw : ∀ c ∈ w, isInner c) (m : Mark) :
    (⟨m, w⟩ : Cursor).skip w.length = ⟨⟨w.length + m.index, m.line, w.length + m.col⟩, []⟩ := by
  induction w generalizing m with
  | nil => simp [Cursor.skip]
  | cons c w ih =>
    obtain ⟨hc, hrest⟩ := List.forall_mem_cons.1 hw
    have hstep : (⟨m, c :: w⟩ : Cursor).step = ⟨⟨m.index + 1, m.line, m.col + 1⟩, w⟩ := by
      simp only [isInner, isBlank, isLineEnd, Bool.and_eq_true, Bool.not_eq_true', bne_iff_ne,
        Bool.or_eq_false_iff] at hc
      simp [Cursor.step, hc.1.1.2.2, hc.2]
    rw [List.length_cons, Cursor.skip, hstep, ih hrest]
    simp only [Nat.add_assoc, Nat.add_comm 1]

/-! ## Scanning -/

/-- The scanner behind the mark of a key. -/
def Scanner.afterMark (w : List Char) : Scanner :=
  { cursor := ⟨⟨1, 0, 1⟩, ' ' :: w⟩
    depth := 0
    blocks := [0]
    keyAllowed := true
    keys := []
    sure := [⟨.key, ⟨0, 0, 0⟩, ⟨1, 0, 1⟩⟩, ⟨.blockMappingStart, ⟨0, 0, 0⟩, ⟨0, 0, 0⟩⟩]
    held := []
    finished := false }

/-- The mark opens a mapping. -/
theorem run_mark (w : List Char) (fuel : Nat) :
    Scanner.run (fuel + 1) (.ofText ('?' :: ' ' :: w)) = Scanner.run fuel (.afterMark w) := rfl

/-- The scanner behind the word. -/
def Scanner.afterWord (w : List Char) : Scanner :=
  let stop : Mark := ⟨w.length + 2, 0, w.length + 2⟩
  { cursor := ⟨stop, []⟩
    depth := 0
    blocks := [0]
    keyAllowed := false
    keys := []
    sure := ⟨.scalar (String.ofList w) true, ⟨2, 0, 2⟩, stop⟩ :: (afterMark w).sure
    held := []
    finished := false }

theorem startsPlain_zero (d : Char) : Scanner.startsPlain false '0' d = true := by
  have hno : "-?:,[]\x7b\x7d#&*!|>'\"%@`".contains '0' = false := by
    rw [String.contains_char_eq]
    decide
  simp only [Scanner.startsPlain, hno]
  rfl

theorem Scanner.run_of_next {s t u : Scanner} (ht : s.next = .ok t) (hgo : t.finished = false)
    (hu : t.dropStaleKeys = .ok u) (fuel : Nat) :
    Scanner.run (fuel + 1) s = Scanner.run fuel (u.release u.held.length) := by
  rw [Scanner.run, ht]
  dsimp only
  rw [hgo, if_neg Bool.false_ne_true, hu]

/-- The word is one token, and too long for a key that is not marked as one. -/
theorem run_word {cs : List Char} (hw : ∀ c ∈ cs, isInner c)
    (hlong : Scanner.maxKeyLength ≤ cs.length) (fuel : Nat) :
    Scanner.run (fuel + 1) (.afterMark ('0' :: cs)) =
      Scanner.run fuel (.afterWord ('0' :: cs)) := by
  have hw' : ∀ c ∈ '0' :: cs, isInner c := List.forall_mem_cons.2 ⟨by decide, hw⟩
  have hplain : plainScalar false 1 ('0' :: cs).length ⟨⟨2, 0, 2⟩, '0' :: cs⟩ [] [] false =
      ⟨'0' :: cs, ⟨⟨cs.length + 1 + 2, 0, cs.length + 1 + 2⟩, []⟩, false⟩ := by
    rw [List.length_cons, plainScalar]
    simp only [plainWord_inner hw']
    rw [skip_inner hw']
    rfl
  -- The scanner after the blank behind the mark.
  let start : Scanner := { Scanner.afterMark ('0' :: cs) with cursor := ⟨⟨2, 0, 2⟩, '0' :: cs⟩ }
  have hnext : (Scanner.afterMark ('0' :: cs)).next =
      if Scanner.startsPlain false '0' (cs.headD '\x00') then start.plainToken
      else .error (.fault (.noToken '0') none ⟨2, 0, 2⟩) := rfl
  have htoken : start.plainToken = .ok
      (let r := plainScalar false 1 ('0' :: cs).length ⟨⟨2, 0, 2⟩, '0' :: cs⟩ [] [] false
       { start with
          cursor := r.stop
          keyAllowed := r.newLine
          keys := [(0, ⟨2, false, ⟨2, 0, 2⟩⟩)]
          held := [⟨.scalar (String.ofList r.text) true, ⟨2, 0, 2⟩, r.stop.mark⟩] }) := rfl
  have hstale : Scanner.maxKeyLength + 2 < cs.length + 1 + 2 := by omega
  have hdrop (t : Scanner) (hkeys : t.keys = [(0, ⟨2, false, ⟨2, 0, 2⟩⟩)])
      (hmark : t.cursor.mark = ⟨cs.length + 1 + 2, 0, cs.length + 1 + 2⟩) :
      t.dropStaleKeys = .ok { t with keys := [] } := by
    simp [Scanner.dropStaleKeys, Scanner.mark, hkeys, hmark, hstale]
  rw [startsPlain_zero, if_pos rfl, htoken, hplain] at hnext
  exact Scanner.run_of_next hnext rfl (hdrop _ rfl rfl) fuel

/-- The tokens of a mapping with one key, without a value. -/
def keyTokens (w : String) (stop : Mark) : List Token :=
  [⟨.blockMappingStart, ⟨0, 0, 0⟩, ⟨0, 0, 0⟩⟩, ⟨.key, ⟨0, 0, 0⟩, ⟨1, 0, 1⟩⟩,
    ⟨.scalar w true, ⟨2, 0, 2⟩, stop⟩, ⟨.blockEnd, stop, stop⟩, ⟨.streamEnd, stop, stop⟩]

/-- The end of the document ends the mapping. -/
theorem run_end (w : List Char) (fuel : Nat) : Scanner.run (fuel + 1) (.afterWord w) =
    (keyTokens (String.ofList w) ⟨w.length + 2, 0, w.length + 2⟩, none) := rfl

/-! ## Nodes and values -/

/-- The tokens make the mapping. -/
theorem stream_keyTokens (w : String) (stop : Mark) : ∃ r,
    (Composer.stream (4 * (keyTokens w stop).length + 4)).run
        ⟨keyTokens w stop, none, [], Composer.standardHandles⟩ =
      .ok (some (.mapping ⟨0, 0, 0⟩ .mapping
        [(.scalar ⟨2, 0, 2⟩ (.ofPlain w) w, .absent stop)]), r) :=
  ⟨_, rfl⟩

theorem construct_whole {w : String} {n : Int} (h : readWhole w = .ok n) (m m' m'' : Mark) :
    (Node.mapping m .mapping [(.scalar m' .int w, .absent m'')]).construct =
      .ok (.map [(.int n, .null)]) := by
  have htag : (Tag.mapping.isScalar || Tag.mapping == .value) = false := by decide
  have hmerge : (Tag.int == Tag.merge) = false := by decide
  have hequals : (Tag.int == Tag.value) = false := by decide
  simp [Node.construct, Node.troubles, Node.mergeTroubles, Node.inheritedTroubles,
    Node.ownTroubles, Node.isMerge, Node.isEquals, Node.isKey, Node.wrongKind, Node.scalarTroubles,
    Node.scalarText, Tag.scalar, h, Node.value, Node.allEntries, Node.mergedEntries,
    Node.ownEntries, ofEntries, putEntry, Node.absent, htag, hmerge, hequals, Except.map,
    Except.toOption]

/-- What a document is read as, by the steps of reading it. -/
theorem document_eq {doc : List Char} {tokens : List Token} {problem : Option Problem} {n : Node}
    {r : Reading} (hallowed : doc.findIdx? (fun c => !isAllowed c) = none)
    (hscan : scan doc = (tokens, problem))
    (hrun : (Composer.stream (4 * tokens.length + 4)).run
      ⟨tokens, problem, [], Composer.standardHandles⟩ = .ok (some n, r)) :
    document doc = n.construct := by
  simp only [document, hallowed, hscan, hrun, bind, Except.bind]

/-! ## Hexadecimal numbers -/

/-- The number that hexadecimal digits denote. -/
def hexNumber (ds : List Char) : Nat := ds.foldl (fun n c => n * 16 + digitValue c) 0

/-- The greatest number of a number of digits. -/
theorem hexNumber_replicate (n : Nat) : hexNumber (List.replicate n 'f') + 1 = 16 ^ n := by
  have hfold (m : Nat) :
      (List.replicate n 'f').foldl (fun n c => n * 16 + digitValue c) m + 1 = (m + 1) * 16 ^ n := by
    have hdigit : digitValue 'f' = 15 := by decide
    induction n generalizing m with
    | zero => simp
    | succ n ih =>
      rw [List.replicate_succ, List.foldl_cons, ih, hdigit]
      ring
  exact (hfold 0).trans (Nat.one_mul _)

variable {ds : List Char}

/-- What the scanner asks of a hexadecimal digit, and what the reader of numbers does. -/
theorem of_isHex {c : Char} (h : isHex c) :
    isInner c ∧ isAllowed c ∧ isWhite c = false ∧ digitValue c < 16 := by
  have hlow : ∀ n < 128, isHex (.ofNat n) → isInner (.ofNat n) ∧ isAllowed (.ofNat n) ∧
      isWhite (.ofNat n) = false ∧ digitValue (.ofNat n) < 16 := by
    decide
  have hlt : c.toNat < 128 := by
    simp only [isHex, Char.isDigit, Bool.or_eq_true, Bool.and_eq_true, decide_eq_true_eq,
      Char.le_def, UInt32.le_iff_toNat_le] at h
    have h9 : ('9'.val).toNat = 57 := rfl
    have hf : ('f'.val).toNat = 102 := rfl
    have hF : ('F'.val).toNat = 70 := rfl
    have hc : c.toNat = c.val.toNat := rfl
    omega
  rw [← Char.ofNat_toNat c] at h ⊢
  exact hlow _ hlt h

theorem ne_of_isHex {c d : Char} (h : isHex c) (hd : isHex d = false) : c ≠ d := by
  rintro rfl
  rw [h] at hd
  cases hd

/-- A word of hexadecimal digits behind `0x` is taken for a whole number. -/
theorem ofPlain_hex (hne : ds ≠ []) (hds : ∀ c ∈ ds, isHex c) :
    Tag.ofPlain (String.ofList ('0' :: 'x' :: ds)) = .int := by
  have hwhole : isWhole ('0' :: 'x' :: ds) = true := by
    simpa [isWhole, hne] using fun c hc => .inl (hds c hc)
  have hreal : isReal false ('0' :: 'x' :: ds) = false := by
    have htake : ('0' :: 'x' :: ds).takeWhile (· != '.') = '0' :: 'x' :: ds := by
      rw [List.takeWhile_eq_self_iff]
      simpa using fun c hc => ne_of_isHex (hds c hc) (by decide : isHex '.' = false)
    rw [isReal, htake]
    simp
  have hnot (words : List String) (h : ∀ v ∈ words, ¬['0', 'x'] <+: v.toList) :
      words.contains (String.ofList ('0' :: 'x' :: ds)) = false := by
    rw [List.contains_eq_mem, decide_eq_false_iff_not]
    intro hmem
    refine h _ hmem ?_
    simp
  have hbool := hnot (trueWords ++ falseWords) (by decide)
  rw [List.contains_append, Bool.or_eq_false_iff] at hbool
  have hmark (v : String) (h : ¬['0', 'x'] <+: v.toList) :
      (String.ofList ('0' :: 'x' :: ds) == v) = false := by
    simpa using hnot [v] (by simpa using h)
  have hsign : signed ('0' :: 'x' :: ds) = (false, '0' :: 'x' :: ds) := rfl
  simp only [Tag.ofPlain, String.toList_ofList, hsign, String.length_ofList, bne_self_eq_false,
    hnot nullWords (by decide), hbool.1, hbool.2, hmark "<<" (by decide),
    hmark "=" (by decide), hreal, hwhole]
  rfl

theorem wholeNumber_hex (hne : ds ≠ []) (hds : ∀ c ∈ ds, isHex c) :
    wholeNumber 16 ds = .ok (Int.ofNat (hexNumber ds)) := by
  have htrim : trimmed ds = ds := by
    have hwhite (cs : List Char) (h : ∀ c ∈ cs, isHex c) : cs.dropWhile isWhite = cs := by
      cases cs with
      | nil => rfl
      | cons c cs =>
        rw [List.dropWhile_cons, (of_isHex (h c List.mem_cons_self)).2.2.1]
        rfl
    rw [trimmed, hwhite ds hds, hwhite _ fun c hc => hds c (List.mem_reverse.1 hc),
      List.reverse_reverse]
  have hsign : signed ds = (false, ds) := by
    unfold signed
    split
    · exact absurd rfl (ne_of_isHex (hds '-' List.mem_cons_self) (by decide))
    · exact absurd rfl (ne_of_isHex (hds '+' List.mem_cons_self) (by decide))
    · rfl
  have hall : (ds.all fun c => isHex c && decide (digitValue c < 16)) = true := by
    rw [List.all_eq_true]
    intro c hc
    rw [hds c hc, Bool.true_and, decide_eq_true_eq]
    exact (of_isHex (hds c hc)).2.2.2
  have hsome : ds.isEmpty = false := by simpa using hne
  simp only [wholeNumber, htrim, hsign, hall, hsome]
  rfl

theorem readWhole_hex (hne : ds ≠ []) (hds : ∀ c ∈ ds, isHex c) :
    readWhole (String.ofList ('0' :: 'x' :: ds)) = .ok (Int.ofNat (hexNumber ds)) := by
  have hkept : ('0' :: 'x' :: ds).filter (· != '_') = '0' :: 'x' :: ds := by
    rw [List.filter_eq_self]
    simpa using fun c hc => ne_of_isHex (hds c hc) (by decide : isHex '_' = false)
  have hstripped : stripped (String.ofList ('0' :: 'x' :: ds)) = .ok (false, '0' :: 'x' :: ds) := by
    rw [stripped, String.toList_ofList, hkept]
    rfl
  rw [readWhole, hstripped]
  simp only [bind, Except.bind, wholeNumber_hex hne hds]
  rfl

/-- **A long hexadecimal number can be a key**, if it is marked as one. -/
theorem read_hexKey (hlong : Scanner.maxKeyLength ≤ ds.length) (hds : ∀ c ∈ ds, isHex c) :
    read (String.ofList ('?' :: ' ' :: '0' :: 'x' :: ds)) =
      .ok (.map [(.int (Int.ofNat (hexNumber ds)), .null)]) := by
  have hne : ds ≠ [] := by
    rintro rfl
    exact absurd hlong (by decide)
  have hinner : ∀ c ∈ 'x' :: ds, isInner c :=
    List.forall_mem_cons.2 ⟨by decide, fun c hc => (of_isHex (hds c hc)).1⟩
  have hscan : scan ('?' :: ' ' :: '0' :: 'x' :: ds) = _ := (run_mark _ _).trans
    ((run_word hinner (Nat.le_succ_of_le hlong) _).trans (run_end _ (ds.length + 3)))
  have hallowed : ('?' :: ' ' :: '0' :: 'x' :: ds).findIdx? (fun c => !isAllowed c) = none := by
    rw [List.findIdx?_eq_none_iff]
    simp only [List.forall_mem_cons]
    refine ⟨by decide, by decide, by decide, by decide, fun c hc => ?_⟩
    simpa using (of_isHex (hds c hc)).2.1
  obtain ⟨r, hrun⟩ := stream_keyTokens (String.ofList ('0' :: 'x' :: ds)) _
  rw [read, String.toList_ofList, document_eq hallowed hscan hrun, ofPlain_hex hne hds,
    construct_whole (readWhole_hex hne hds)]

end JumpMacros.Yaml
