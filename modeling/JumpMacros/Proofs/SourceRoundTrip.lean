import JumpMacros.Proofs.PathNames
import JumpMacros.Proofs.SourceBytes
import JumpMacros.Proofs.WrittenFiles

/-!
# Reading back what was written

Writing leaves the line ends of a text alone and adds one if the text does not end with `\n`.
Reading unifies line ends. So a text is not read back as it was, and the two meet where the line
end that was added follows a `\r`.

**Bytes (`Text.Utf8.decode_encode`).** The bytes of a text are read as the text, character by
character.

**Line ends (`Text.Unified.closeLine`).** Unifying the line ends of a closed text gives the closed
text of the unified one.

**The other files (`FileTree.KeepsBut`).** Writing a file, and making the directories it is in,
leaves everything else where it was.

**Round trip (`loadSource_writeSource`).** What is read back is the text with its line ends unified
and one at its end, and that text is read back as it is.
-/

namespace JumpMacros

namespace Text

/-! ## Bytes -/

namespace Utf8

variable {a b c d : UInt8}

theorem decodeFrom_one (ha : a.toNat < 0x80) (n : Nat) (bs : Bytes) :
    decodeFrom n (a :: bs) = (decodeFrom (n + 1) bs).map (Char.ofNat a.toNat :: ·) := by
  rw [decodeFrom.eq_def]
  exact if_pos (UInt8.lt_iff_toNat_lt.2 ha)

theorem decodeFrom_two (ha : 0xc2 ≤ a.toNat) (ha' : a.toNat < 0xe0) (hb : isSecond a b = true)
    (n : Nat) (bs : Bytes) :
    decodeFrom n (a :: b :: bs) =
      (decodeFrom (n + 2) bs).map (Char.ofNat ((a.toNat - 0xc0) * 64 + low b) :: ·) := by
  have h1 : ¬a.toNat < 0x80 := by omega
  have h2 : ¬(a.toNat < 0xc2 ∨ 0xf5 ≤ a.toNat) := by omega
  rw [decodeFrom.eq_def]
  simp [UInt8.lt_iff_toNat_lt, UInt8.le_iff_toNat_le, h1, h2, ha', hb]

theorem decodeFrom_three (ha : 0xe0 ≤ a.toNat) (ha' : a.toNat < 0xf0) (hb : isSecond a b = true)
    (hc : isTail c = true) (n : Nat) (bs : Bytes) :
    decodeFrom n (a :: b :: c :: bs) =
      (decodeFrom (n + 3) bs).map
        (Char.ofNat ((a.toNat - 0xe0) * 4096 + low b * 64 + low c) :: ·) := by
  have h1 : ¬a.toNat < 0x80 := by omega
  have h2 : ¬(a.toNat < 0xc2 ∨ 0xf5 ≤ a.toNat) := by omega
  have h3 : ¬a.toNat < 0xe0 := by omega
  rw [decodeFrom.eq_def]
  simp [UInt8.lt_iff_toNat_lt, UInt8.le_iff_toNat_le, h1, h2, h3, ha', hb, hc]

theorem decodeFrom_four (ha : 0xf0 ≤ a.toNat) (ha' : a.toNat < 0xf5) (hb : isSecond a b = true)
    (hc : isTail c = true) (hd : isTail d = true) (n : Nat) (bs : Bytes) :
    decodeFrom n (a :: b :: c :: d :: bs) =
      (decodeFrom (n + 4) bs).map
        (Char.ofNat ((a.toNat - 0xf0) * 262144 + low b * 4096 + low c * 64 + low d) :: ·) := by
  have h1 : ¬a.toNat < 0x80 := by omega
  have h2 : ¬(a.toNat < 0xc2 ∨ 0xf5 ≤ a.toNat) := by omega
  have h3 : ¬a.toNat < 0xe0 := by omega
  have h4 : ¬a.toNat < 0xf0 := by omega
  rw [decodeFrom.eq_def]
  simp [UInt8.lt_iff_toNat_lt, UInt8.le_iff_toNat_le, h1, h2, h3, h4, hb, hc, hd]

theorem toNat_byte {n : Nat} (h : n < 256) : (UInt8.ofNat n).toNat = n :=
  UInt8.toNat_ofNat'.trans (Nat.mod_eq_of_lt h)

theorem toNat_tail {x : Nat} (h : x < 64) : (UInt8.ofNat (0x80 + x)).toNat = 0x80 + x :=
  toNat_byte (by omega)

theorem low_tail {x : Nat} (h : x < 64) : low (.ofNat (0x80 + x)) = x := by
  have hx := toNat_tail h
  unfold low
  omega

theorem isTail_tail {x : Nat} (h : x < 64) : isTail (.ofNat (0x80 + x)) = true := by
  rw [isTail_iff, toNat_tail h]
  omega

/-- The bytes of a character in front of others are read as that character. -/
theorem decodeFrom_encodeChar (c : Char) (n : Nat) (bs : Bytes) :
    ∃ k, decodeFrom n (encodeChar c ++ bs) = (decodeFrom k bs).map (c :: ·) := by
  have hvalid : c.toNat < 0xd800 ∨ 0xdfff < c.toNat ∧ c.toNat < 0x110000 := c.valid
  have hbits (k : Nat) : c.toNat / k % 64 < 64 := Nat.mod_lt _ (by decide)
  have hc {m : Nat} (h : m = c.toNat) : Char.ofNat m = c := h ▸ Char.ofNat_toNat c
  unfold encodeChar
  dsimp only
  split
  next h1 =>
    have ha := toNat_byte (n := c.toNat) (by omega)
    refine ⟨n + 1, (decodeFrom_one (by omega) n bs).trans ?_⟩
    rw [hc ha]
  split
  next h1 h2 =>
    have ha := toNat_byte (n := 0xc0 + c.toNat / 64) (by omega)
    refine ⟨n + 2, (decodeFrom_two (by omega) (by omega) ?_ n bs).trans ?_⟩
    · rw [isSecond_iff, ha, toNat_tail (hbits _)]
      omega
    · rw [ha, low_tail (hbits _), hc (by omega)]
  split
  next h1 h2 h3 =>
    have ha := toNat_byte (n := 0xe0 + c.toNat / 4096) (by omega)
    have h6 := isTail_tail (hbits 1)
    refine ⟨n + 3, (decodeFrom_three (by omega) (by omega) ?_ h6 n bs).trans ?_⟩
    · -- a surrogate would break the rule for `0xed`
      rw [isSecond_iff, ha, toNat_tail (hbits _)]
      omega
    · rw [ha, low_tail (hbits _), low_tail (hbits _), hc (by omega)]
  next h1 h2 h3 =>
    have ha := toNat_byte (n := 0xf0 + c.toNat / 262144) (by omega)
    have h6 := isTail_tail (hbits 1)
    have h12 := isTail_tail (hbits 64)
    refine ⟨n + 4, (decodeFrom_four (by omega) (by omega) ?_ h12 h6 n bs).trans ?_⟩
    · rw [isSecond_iff, ha, toNat_tail (hbits _)]
      omega
    · rw [ha, low_tail (hbits _), low_tail (hbits _), low_tail (hbits _), hc (by omega)]

theorem decodeFrom_encode : ∀ (cs : List Char) (n : Nat),
    decodeFrom n (cs.flatMap encodeChar) = .ok cs
  | [], n => by simp [decodeFrom]
  | c :: cs, n => by
    obtain ⟨k, hk⟩ := decodeFrom_encodeChar c n (cs.flatMap encodeChar)
    rw [List.flatMap_cons, hk, decodeFrom_encode cs k]
    rfl

/-- **The bytes of a text are read as the text.** -/
theorem decode_encode (s : String) : decode (encode s) = .ok s := by
  rw [decode, encode, decodeFrom_encode]
  simp [Except.map]

end Utf8

/-! ## Line ends -/

/-- A text, and the text with `\n` in place of every `\r\n` and of every `\r` that no `\n`
follows. -/
inductive Unified : List Char → List Char → Prop where
  | nil : Unified [] []
  | pair {cs ds : List Char} : Unified cs ds → Unified ('\r' :: '\n' :: cs) ('\n' :: ds)
  | lone {cs ds : List Char} :
    cs.head? ≠ some '\n' → Unified cs ds → Unified ('\r' :: cs) ('\n' :: ds)
  | other {c : Char} {cs ds : List Char} :
    c ≠ '\r' → Unified cs ds → Unified (c :: cs) (c :: ds)

theorem unified_unifyLineEnds (cs : List Char) : Unified cs (unifyLineEnds cs) := by
  fun_induction unifyLineEnds cs with
  | case1 => exact .nil
  | case2 cs ih => exact .pair ih
  | case3 cs hne ih =>
    refine .lone (fun hhead => ?_) ih
    obtain ⟨ds, rfl⟩ := List.head?_eq_some_iff.1 hhead
    exact hne ds rfl
  | case4 c cs _ hne ih => exact .other hne ih

namespace Unified

variable {cs ds : List Char}

theorem eq (h : Unified cs ds) : unifyLineEnds cs = ds := by
  induction h with
  | nil => rfl
  | pair _ ih => rw [unifyLineEnds, ih]
  | lone hne _ ih =>
    rw [unifyLineEnds, ih]
    rintro cs rfl
    exact hne rfl
  | other hne _ ih =>
    rw [unifyLineEnds, ih]
    · rintro cs rfl
      exact absurd rfl hne
    · exact hne

/-- Line ends that are unified are left as they are. -/
theorem self (h : Unified cs ds) : Unified ds ds := by
  induction h with
  | nil => exact .nil
  | pair _ ih => exact .other (by decide) ih
  | lone _ _ ih => exact .other (by decide) ih
  | other hne _ ih => exact .other hne ih

theorem of_notMem (h : '\r' ∉ cs) : Unified cs cs := by
  induction cs with
  | nil => exact .nil
  | cons c cs ih =>
    rw [List.mem_cons, not_or] at h
    exact .other (Ne.symm h.1) (ih h.2)

theorem nil_iff (h : Unified cs ds) : cs = [] ↔ ds = [] := by
  cases h <;> simp

end Unified

/-- The characters of a text that is given a final line end. -/
def closeLine (cs : List Char) : List Char := if cs.getLast? = some '\n' then cs else cs ++ ['\n']

theorem closeLine_cons {cs : List Char} (h : cs ≠ []) (c : Char) :
    closeLine (c :: cs) = c :: closeLine cs := by
  obtain ⟨d, ds, rfl⟩ := List.exists_cons_of_ne_nil h
  simp only [closeLine, List.getLast?_cons_cons, List.cons_append]
  split <;> rfl

theorem closeLine_closeLine (cs : List Char) : closeLine (closeLine cs) = closeLine cs := by
  by_cases h : cs.getLast? = some '\n'
  · simp [closeLine, h]
  · simp [closeLine, h]

/-- A final line end may join a `\r` before it, so that it is no line end of its own. -/
theorem Unified.closeLine {cs ds : List Char} (h : Unified cs ds) :
    Unified (closeLine cs) (closeLine ds) := by
  induction h with
  | nil => exact .other (by decide) .nil
  | @pair cs ds h ih =>
    by_cases hcs : cs = []
    · subst hcs
      rw [h.nil_iff.1 rfl]
      exact .pair .nil
    · rw [closeLine_cons (by simp), closeLine_cons hcs, closeLine_cons (h.nil_iff.not.1 hcs)]
      exact .pair ih
  | @lone cs ds hne h ih =>
    by_cases hcs : cs = []
    · subst hcs
      rw [h.nil_iff.1 rfl]
      exact .pair .nil
    · rw [closeLine_cons hcs, closeLine_cons (h.nil_iff.not.1 hcs)]
      refine .lone ?_ ih
      obtain ⟨c, cs, rfl⟩ := List.exists_cons_of_ne_nil hcs
      simp only [Text.closeLine]
      split <;> exact hne
  | @other c cs ds hne h ih =>
    by_cases hcs : cs = []
    · subst hcs
      rw [h.nil_iff.1 rfl]
      by_cases hc : c = '\n'
      · subst hc
        exact .other hne .nil
      · simp only [Text.closeLine, List.getLast?_singleton, Option.some.injEq, hc, if_false]
        exact .other hne (.other (by decide) .nil)
    · rw [closeLine_cons hcs, closeLine_cons (h.nil_iff.not.1 hcs)]
      exact .other hne ih

end Text

theorem toList_withFinalLineEnd (s : String) :
    (withFinalLineEnd s).toList = Text.closeLine s.toList := by
  have hiff : s.endsWith "\n" = true ↔ s.toList.getLast? = some '\n' := by
    rw [String.endsWith_eq_endsWith_toSlice, String.Slice.endsWith_string_iff,
      String.copy_toSlice]
    exact List.singleton_suffix_iff_getLast?_eq_some
  unfold withFinalLineEnd Text.closeLine
  by_cases h : s.endsWith "\n" = true
  · rw [if_pos h, if_pos (hiff.1 h)]
  · rw [if_neg h, if_neg (hiff.not.1 h), String.toList_append]
    rfl

theorem withFinalLineEnd_idem (s : String) :
    withFinalLineEnd (withFinalLineEnd s) = withFinalLineEnd s := by
  apply String.toList_injective
  simp only [toList_withFinalLineEnd, Text.closeLine_closeLine]

/-! ## Writing again -/

namespace FileTree

variable {t : FileTree} {p : Path} {here goal place : Place} {n : String} {names : List String}

/-- The last name of a path is looked up where the names before it lead. Unless it is the name of a
link, it leads to where the path leads. -/
theorem walk_concat {go : Place → List String → Except Blocked Place}
    (hgo : ∀ here names goal, go here (names ++ [n]) = .ok goal →
      ∃ q r, go here names = .ok q ∧ t.enter q n = .ok r ∧ ∀ last, r = .place last → last = goal) :
    ∀ (names : List String) (here : Place), t.walk go here (names ++ [n]) = .ok goal →
      ∃ q r, t.walk go here names = .ok q ∧ t.enter q n = .ok r ∧
        ∀ last, r = .place last → last = goal
  | [], here, h => by
    rw [List.nil_append, walk] at h
    cases hr : t.enter here n with
    | error b => simp [hr] at h
    | ok r =>
      refine ⟨here, r, rfl, hr, ?_⟩
      rintro last rfl
      simpa [hr, walk] using h
  | m :: rest, here, h => by
    rw [List.cons_append, walk] at h
    rw [walk]
    cases hr : t.enter here m with
    | error b => simp [hr] at h
    | ok r =>
      rw [hr] at h
      cases r with
      | place q => exact walk_concat hgo rest q h
      | link target => exact hgo _ _ _ (by rwa [List.append_assoc])

theorem follow_concat (links : Nat) : ∀ {here goal : Place} {names : List String},
    t.follow links here (names ++ [n]) = .ok goal →
      ∃ q r, t.follow links here names = .ok q ∧ t.enter q n = .ok r ∧
        ∀ last, r = .place last → last = goal := by
  induction links with
  | zero =>
    intro here goal names h
    refine walk_concat ?_ names here h
    rintro _ _ _ ⟨⟩
  | succ links ih =>
    intro here goal names h
    refine walk_concat ?_ names here h
    exact fun _ _ _ hgo => ih hgo

theorem enter_eq_ok {r : Reached} (h : t.enter here n = .ok r) :
    ∃ a : Access, t.get? here = some (.directory a) ∧ a.search = true ∧
      (n ≠ "." → n ≠ ".." → r = t.below here n) := by
  unfold enter at h
  split at h
  · cases h
  next a hdir =>
    refine ⟨a, hdir, ?_⟩
    by_cases hsearch : a.search = true
    · refine ⟨hsearch, fun hdot hdots => ?_⟩
      simpa [hsearch, hdot, hdots] using h.symm
    · simp [hsearch] at h
  · cases h

theorem below_of_none (h : t.get? (here ++ [n]) = none) :
    t.below here n = .place (here ++ [n]) := by
  rw [below, h]

/-- The directory that a path is in. -/
theorem parent_of_place (hnames : p.names ≠ []) (h : t.place p = .ok goal) :
    ∃ here r, t.place p.parent = .ok here ∧ t.enter here (p.names.getLast hnames) = .ok r ∧
      ∀ last, r = .place last → last = goal := by
  rw [place, ← List.dropLast_concat_getLast hnames] at h
  exact follow_concat linkLimit h

/-- A directory that is there is not made. -/
theorem makeOne_of_directory {a : Access} (hnames : p.names ≠ [])
    (h : t.resolve p = .ok (place, some (.directory a))) : t.makeOne p = .ok t := by
  obtain ⟨q, hplace, hsettle⟩ := resolve_eq_ok.1 h
  obtain ⟨here, r, hhere, hr, hlast⟩ := parent_of_place hnames hplace
  obtain ⟨b, hdir, hsearch, hbelow⟩ := enter_eq_ok hr
  have hthere : p.names.getLast hnames ≠ "." → p.names.getLast hnames ≠ ".." →
      t.get? (here ++ [p.names.getLast hnames]) ≠ none := by
    intro hdot hdots hnone
    have hq := hlast _ ((hbelow hdot hdots).trans (below_of_none hnone))
    have hget : t.get? q = none := hq ▸ hnone
    rw [settle_of_no_hardLink (by simp [hget]), hget] at hsettle
    cases hsettle
  have hadd : t.add p (.directory t.created) = .error (.exists p.text) := by
    rw [add, List.getLast?_eq_some_getLast hnames, resolve_of_directory hhere hdir]
    simp only [hsearch, Bool.not_true, Bool.false_eq_true, if_false]
    rw [if_pos]
    simp only [Bool.or_eq_true, beq_iff_eq, Option.isSome_iff_ne_none]
    tauto
  rw [makeOne, hadd, stat_of_resolve h]

/-- The directories of a path that leads somewhere are there. -/
theorem makeDirectories_parent (h : t.place p = .ok goal) (hnames : p.parent.names ≠ []) :
    t.makeDirectories p.parent = .ok t := by
  have hp : p.names ≠ [] := by
    intro hp
    simp [Path.parent, hp] at hnames
  obtain ⟨here, r, hhere, hr, -⟩ := parent_of_place hp h
  obtain ⟨a, hdir, -, -⟩ := enter_eq_ok hr
  have hone := makeOne_of_directory hnames (resolve_of_directory hhere hdir)
  obtain ⟨m, above, hrev⟩ := List.exists_cons_of_ne_nil (List.reverse_ne_nil_iff.2 hnames)
  have hpath : (⟨p.parent.isAbsolute, (m :: above).reverse⟩ : Path) = p.parent := by
    rw [← hrev, List.reverse_reverse]
  rw [makeDirectories, hrev, makeAll]
  simp only [hpath, hone]

theorem isWritable_of_file {content : Text.Bytes} {a : Access}
    (h : t.resolve p = .ok (place, some (.file content a))) : t.isWritable p = a.write := by
  rw [isWritable, lookup, stat_of_resolve h]
  rfl

end FileTree

/-! ## Source files -/

section

variable {files files' : FileTree} {path text : String}

/-- A file that is there and may be written can be written again. -/
theorem writeSource_of_file {place : FileTree.Place} {old : Text.Bytes} {a : Access}
    (h : files.resolve (.ofString path) = .ok (place, some (.file old a))) (ha : a.write = true)
    (text : String) :
    ∃ files', writeSource files path text = .ok files' ∧
      files'.resolve (.ofString path) =
        .ok (place, some (.file (Text.Utf8.encode (withFinalLineEnd text)) a)) ∧
      files.KeepsBut files' place := by
  have hfree := FileTree.isFree_of_file (FileTree.get?_of_resolve h)
  refine ⟨_, ?_, FileTree.resolve_put h hfree _ a⟩
  have hwrite (content : Text.Bytes) :
      files.write (.ofString path) content = .ok (files.put place (.file content a)) := by
    rw [FileTree.write, h]
    simp [ha]
  unfold writeSource
  dsimp only
  by_cases hnames : (Path.ofString path).parent.names = []
  · rw [hnames]
    exact hwrite _
  · obtain ⟨q, hplace, -⟩ := FileTree.resolve_eq_ok.1 h
    rw [if_neg (by simpa using hnames), FileTree.makeDirectories_parent hplace hnames]
    exact hwrite _

/-- A file with a text is read as the text with the line ends unified. -/
theorem readText_of_file {place : FileTree.Place} {a : Access} {t : String}
    (h : files.resolve (.ofString path) = .ok (place, some (.file (Text.Utf8.encode text) a)))
    (ha : a.read = true) (ht : Text.Unified text.toList t.toList) :
    readText files (.ofString path) = .ok t := by
  rw [readText, FileTree.read_of_file h ha]
  simp only [Text.Utf8.decode_encode, ht.eq, String.ofList_toList]

/-- Loading a source file gives its text with the line ends unified. -/
theorem loadSource_of_file {place : FileTree.Place} {a : Access} {t : String}
    (hsuffix : sourceSuffixes.contains ((Path.ofString path).suffix.map Char.toLower) = true)
    (h : files.resolve (.ofString path) = .ok (place, some (.file (Text.Utf8.encode text) a)))
    (ha : a.read = true) (ht : Text.Unified text.toList t.toList) :
    loadSource files path = .ok t := by
  have hread := readText_of_file h ha ht
  have hthere : files.isThere (.ofString path) = .ok true := by
    rw [FileTree.isThere, FileTree.stat_of_resolve h]
  simp only [loadSource, hthere, hsuffix, hread, Bool.not_true, Bool.false_eq_true, if_false]

/-- **A source that was written is read back** as its text with the line ends unified and a final
line end, if the path leads to a file that may be read, and no other file is touched. If the file
may be written again, writing what was read gives it back unchanged. -/
theorem loadSource_writeSource
    (hsuffix : sourceSuffixes.contains ((Path.ofString path).suffix.map Char.toLower) = true)
    (h : writeSource files path text = .ok files') :
    ∃ place, files.KeepsBut files' place ∧
      (∃ e, files'.resolve (.ofString path) = .ok (place, some e)) ∧
      (files'.isReadable (.ofString path) = true →
        ∃ t back : String,
          Text.Unified text.toList t.toList ∧ back = (if t.endsWith "\n" then t else t ++ "\n") ∧
          loadSource files' path = .ok back ∧
          files'.read (.ofString path) = .ok (Text.Utf8.encode (withFinalLineEnd text)) ∧
          (files'.isWritable (.ofString path) = true →
            ∃ files'', writeSource files' path back = .ok files'' ∧
              loadSource files'' path = .ok back ∧ files'.KeepsBut files'' place)) := by
  obtain ⟨place, hwrote, hkept⟩ := writeSource_eq_ok h
  refine ⟨place, hkept, hwrote.resolves, fun hreadable => ?_⟩
  obtain ⟨a, hread, hres⟩ := hwrote.of_readable hreadable
  obtain ⟨t, ht⟩ : ∃ t : String, Text.Unified text.toList t.toList :=
    ⟨.ofList (Text.unifyLineEnds text.toList), by
      rw [String.toList_ofList]
      exact Text.unified_unifyLineEnds text.toList⟩
  have hback : Text.Unified (withFinalLineEnd text).toList (withFinalLineEnd t).toList := by
    rw [toList_withFinalLineEnd, toList_withFinalLineEnd]
    exact ht.closeLine
  refine ⟨t, withFinalLineEnd t, ht, rfl, loadSource_of_file hsuffix hres hread hback,
    FileTree.read_of_file hres hread, fun hwritable => ?_⟩
  have hwrite : a.write = true := (FileTree.isWritable_of_file hres).symm.trans hwritable
  obtain ⟨files'', hagain, hres', hkept'⟩ := writeSource_of_file hres hwrite (withFinalLineEnd t)
  rw [withFinalLineEnd_idem] at hres'
  exact ⟨files'', hagain, loadSource_of_file hsuffix hres' hread hback.self, hkept'⟩

/-- A carriage return at the end of what is written joins the line end that is added to it. -/
theorem loadSource_writeSource_return :
    let files : FileTree := { entries := [(["b.py"], .file [98])] }
    let files' : FileTree :=
      { entries := [(["d", "m.PYW"], .file [97, 13, 10, 98, 13, 10]), (["d"], .directory),
          (["b.py"], .file [98])] }
    writeSource files "d/m.PYW" "a\r\nb\r" = .ok files' ∧
      loadSource files' "d/m.PYW" = .ok "a\nb\n" ∧
      files'.get? ["b.py"] = some (.file [98]) := by
  intro files files'
  have hpath : Path.ofString "d/m.PYW" = ⟨false, ["d", "m.PYW"]⟩ := by
    rw [Path.ofString_eq]
    with_unfolding_all decide
  have hclosed : withFinalLineEnd "a\r\nb\r" = "a\r\nb\r\n" := by
    apply String.toList_injective
    rw [toList_withFinalLineEnd]
    decide
  have hwrite : writeSource files "d/m.PYW" "a\r\nb\r" = .ok files' := by
    rw [writeSource, hpath, hclosed]
    decide
  have hsuffix : sourceSuffixes.contains
      ((Path.ofString "d/m.PYW").suffix.map Char.toLower) = true := by
    rw [hpath]
    with_unfolding_all decide
  have hreadable : files'.isReadable (.ofString "d/m.PYW") = true := by
    rw [hpath]
    decide
  obtain ⟨place, hkept, ⟨e, hres⟩, hback⟩ := loadSource_writeSource hsuffix hwrite
  obtain ⟨t, _, ht, rfl, hload, -⟩ := hback hreadable
  have htext : withFinalLineEnd t = "a\nb\n" := by
    apply String.toList_injective
    rw [toList_withFinalLineEnd, ← ht.eq]
    decide
  have hplace : place = ["d", "m.PYW"] := by
    have hlead : files'.resolve ⟨false, ["d", "m.PYW"]⟩ =
        .ok (["d", "m.PYW"], some (.file [97, 13, 10, 98, 13, 10])) := by decide
    rw [hpath, hlead] at hres
    cases hres
    rfl
  refine ⟨hwrite, hload.trans (congrArg _ htext), hkept.entry _ _ (by decide) ?_⟩
  rw [hplace]
  decide

/-- What is written to a device need not be read back. -/
theorem loadSource_writeSource_device :
    let files : FileTree :=
      { entries := [(["null.py"], .link ⟨true, ["dev", "null"]⟩), (["dev"], .directory),
          (["dev", "null"], .device [])] }
    writeSource files "null.py" "x = 1" = .ok files ∧ loadSource files "null.py" = .ok "" := by
  intro files
  have hpath : Path.ofString "null.py" = ⟨false, ["null.py"]⟩ := by
    rw [Path.ofString_eq]
    with_unfolding_all decide
  constructor
  · rw [writeSource, hpath]
    decide
  · rw [loadSource, hpath]
    with_unfolding_all decide

/-- A file that may be written need not be readable. -/
theorem loadSource_writeSource_denied :
    let writeOnly : Access := ⟨false, true, false⟩
    let files : FileTree := { entries := [(["m.py"], .file [] writeOnly)] }
    let files' : FileTree := { entries := [(["m.py"], .file [120, 10] writeOnly)] }
    writeSource files "m.py" "x\n" = .ok files' ∧
      loadSource files' "m.py" = .error (.diagnostic
        (.ofFile (.fileUnreadable "[Errno 13] Permission denied: 'm.py'") (some "m.py"))) := by
  intro writeOnly files files'
  have hpath : Path.ofString "m.py" = ⟨false, ["m.py"]⟩ := by
    rw [Path.ofString_eq]
    with_unfolding_all decide
  have hclosed : withFinalLineEnd "x\n" = "x\n" := by
    apply String.toList_injective
    rw [toList_withFinalLineEnd]
    decide
  constructor
  · rw [writeSource, hpath, hclosed]
    decide
  · rw [loadSource, hpath]
    with_unfolding_all decide

end

end JumpMacros
