import JumpMacros.Text.Encoding
import Mathlib.Data.List.Infix

/-!
# What bytes and their text have in common

A word of a text stands in the bytes that the text was decoded from, written in UTF-8, if the
bytes are UTF-8 or the word is ASCII (`encode_isInfix`). Unifying the line ends takes no word away
(`decodeSource_isInfix`). The converse does not hold: the bytes of an ASCII word can be part of a
text that is cut into other words.
-/

namespace JumpMacros.Text

namespace Utf8

/-! ## One character -/

theorem toNat_ofNat {n : Nat} (h : n.isValidChar) : (Char.ofNat n).toNat = n := by
  rw [Char.ofNat, dif_pos h]
  rfl

theorem ofNat_eq {n : Nat} {b : UInt8} (h : n = b.toNat) : UInt8.ofNat n = b := by
  rw [h, UInt8.ofNat_toNat]

theorem isTail_iff {b : UInt8} : isTail b = true ↔ 0x80 ≤ b.toNat ∧ b.toNat < 0xc0 := by
  simp [isTail, UInt8.le_iff_toNat_le, UInt8.lt_iff_toNat_lt]

theorem isSecond_iff {a b : UInt8} : isSecond a b = true ↔
    (0x80 ≤ b.toNat ∧ b.toNat < 0xc0) ∧ (a.toNat = 0xe0 → 0xa0 ≤ b.toNat) ∧
      (a.toNat = 0xed → b.toNat < 0xa0) ∧ (a.toNat = 0xf0 → 0x90 ≤ b.toNat) ∧
      (a.toNat = 0xf4 → b.toNat < 0x90) := by
  simp [isSecond, isTail_iff, UInt8.le_iff_toNat_le, UInt8.lt_iff_toNat_lt, ← UInt8.toNat_inj,
    and_assoc, imp_iff_not_or]

variable {a b c d : UInt8}

theorem encodeChar_one (ha : a.toNat < 0x80) : encodeChar (.ofNat a.toNat) = [a] := by
  have hn : (Char.ofNat a.toNat).toNat = a.toNat := toNat_ofNat (.inl (by omega))
  simp [encodeChar, hn, ha]

theorem encodeChar_two (ha : 0xc2 ≤ a.toNat) (ha' : a.toNat < 0xe0) (hb : isSecond a b = true) :
    encodeChar (.ofNat ((a.toNat - 0xc0) * 64 + low b)) = [a, b] := by
  have hb := isSecond_iff.1 hb
  unfold low
  generalize hn : (a.toNat - 0xc0) * 64 + (b.toNat - 0x80) = n
  have htoNat : (Char.ofNat n).toNat = n := toNat_ofNat (.inl (by omega))
  simp only [encodeChar, htoNat]
  rw [if_neg (by omega), if_pos (by omega), ofNat_eq (b := a) (by omega),
    ofNat_eq (b := b) (by omega)]

theorem encodeChar_three (ha : 0xe0 ≤ a.toNat) (ha' : a.toNat < 0xf0) (hb : isSecond a b = true)
    (hc : isTail c = true) :
    encodeChar (.ofNat ((a.toNat - 0xe0) * 4096 + low b * 64 + low c)) = [a, b, c] := by
  have hb := isSecond_iff.1 hb
  have hc := isTail_iff.1 hc
  unfold low
  generalize hn : (a.toNat - 0xe0) * 4096 + (b.toNat - 0x80) * 64 + (c.toNat - 0x80) = n
  -- the second byte of `0xed` keeps surrogates out
  have htoNat : (Char.ofNat n).toNat = n := toNat_ofNat (by unfold Nat.isValidChar; omega)
  simp only [encodeChar, htoNat]
  rw [if_neg (by omega), if_neg (by omega), if_pos (by omega), ofNat_eq (b := a) (by omega),
    ofNat_eq (b := b) (by omega), ofNat_eq (b := c) (by omega)]

theorem encodeChar_four (ha : 0xf0 ≤ a.toNat) (ha' : a.toNat < 0xf5) (hb : isSecond a b = true)
    (hc : isTail c = true) (hd : isTail d = true) :
    encodeChar (.ofNat ((a.toNat - 0xf0) * 262144 + low b * 4096 + low c * 64 + low d)) =
      [a, b, c, d] := by
  have hb := isSecond_iff.1 hb
  have hc := isTail_iff.1 hc
  have hd := isTail_iff.1 hd
  unfold low
  generalize hn : (a.toNat - 0xf0) * 262144 + (b.toNat - 0x80) * 4096 + (c.toNat - 0x80) * 64 +
    (d.toNat - 0x80) = n
  have htoNat : (Char.ofNat n).toNat = n := toNat_ofNat (by unfold Nat.isValidChar; omega)
  simp only [encodeChar, htoNat]
  rw [if_neg (by omega), if_neg (by omega), if_neg (by omega), ofNat_eq (b := a) (by omega),
    ofNat_eq (b := b) (by omega), ofNat_eq (b := c) (by omega), ofNat_eq (b := d) (by omega)]

/-! ## Texts -/

/-- Decoding is undone by encoding. -/
theorem encode_of_decodeFrom {n : Nat} {bs : Bytes} {cs : List Char}
    (h : decodeFrom n bs = .ok cs) : cs.flatMap encodeChar = bs := by
  have hcons {c : Char} {r : Except Failure (List Char)} {front bs : Bytes} {cs : List Char}
      (hc : encodeChar c = front) (hr : r.map (c :: ·) = .ok cs)
      (ih : ∀ {cs}, r = .ok cs → cs.flatMap encodeChar = bs) :
      cs.flatMap encodeChar = front ++ bs := by
    cases r with
    | error f => cases hr
    | ok ds =>
      cases hr
      rw [List.flatMap_cons, hc, ih rfl]
  fun_induction decodeFrom n bs generalizing cs with
  | case1 =>
    cases h
    rfl
  | case2 _ a as ha ih => exact hcons (encodeChar_one (UInt8.lt_iff_toNat_lt.1 ha)) h ih
  | case6 _ a ha hlead b bs hb ha' ih =>
    simp only [Bool.or_eq_true, decide_eq_true_eq, UInt8.le_iff_toNat_le, UInt8.lt_iff_toNat_lt,
      UInt8.reduceToNat] at hlead ha'
    exact hcons (encodeChar_two (by omega) ha' (by simpa using hb)) h ih
  | case9 _ a ha hlead b hb ha' c cs hc ha'' ih =>
    rw [UInt8.lt_iff_toNat_lt] at ha' ha''
    exact hcons (encodeChar_three (Nat.le_of_not_lt ha') ha'' (by simpa using hb)
      (by simpa using hc)) h ih
  | case12 _ a ha hlead b hb ha' c hc ha'' d ds hd ih =>
    simp only [Bool.or_eq_true, decide_eq_true_eq, UInt8.le_iff_toNat_le, UInt8.lt_iff_toNat_lt,
      UInt8.reduceToNat] at hlead ha''
    exact hcons (encodeChar_four (by omega) (by omega) (by simpa using hb) (by simpa using hc)
      (by simpa using hd)) h ih
  | _ => cases h

theorem ascii_of_all {s : String} (h : s.toList.all (·.toNat < 0x80) = true) :
    ∀ c ∈ s.toList, c.toNat < 0x80 :=
  fun c hc => of_decide_eq_true (List.all_eq_true.1 h c hc)

/-- ASCII is the same in every encoding. -/
theorem encode_of_ascii {bs : Bytes}
    (h : ∀ c ∈ bs.map fun b => Char.ofNat b.toNat, c.toNat < 0x80) :
    (bs.map fun b => Char.ofNat b.toNat).flatMap encodeChar = bs := by
  induction bs with
  | nil => rfl
  | cons b bs ih =>
    obtain ⟨hb, hbs⟩ := List.forall_mem_cons.1 h
    have hvalid : (Char.ofNat b.toNat).toNat = b.toNat :=
      toNat_ofNat (.inl (by have := b.toNat_lt; omega))
    rw [List.map_cons, List.flatMap_cons, ih hbs, encodeChar_one (hvalid ▸ hb)]
    rfl

end Utf8

open Utf8

/-! ## Encodings -/

/-- A word of decoded bytes stands in the bytes. -/
theorem Encoding.encode_isInfix {e : Encoding} {bs : Bytes} {cs ws : List Char}
    (h : e.decode bs = .ok cs) (hws : e = .utf8 ∨ ∀ c ∈ ws, c.toNat < 0x80) (hin : ws <:+: cs) :
    ws.flatMap encodeChar <:+: bs := by
  have hplain (hascii : ∀ c ∈ ws, c.toNat < 0x80)
      (hcs : cs = bs.map fun b => Char.ofNat b.toNat) : ws.flatMap encodeChar <:+: bs := by
    subst hcs
    obtain ⟨bs', hbs', rfl⟩ := List.infix_map_iff.1 hin
    rw [encode_of_ascii hascii]
    exact hbs'
  cases e with
  | utf8 =>
    obtain ⟨front, back, rfl⟩ := hin
    have hdecode : decodeFrom 0 bs = .ok (front ++ ws ++ back) := by
      unfold Encoding.decode at h
      dsimp only at h
      split at h
      · rename_i hd
        cases h
        exact hd
      · cases h
    rw [← encode_of_decodeFrom hdecode, List.flatMap_append, List.flatMap_append]
    exact List.infix_append _ _ _
  | latin1 =>
    refine hplain (hws.resolve_left (by nofun)) ?_
    cases h
    rfl
  | ascii =>
    refine hplain (hws.resolve_left (by nofun)) ?_
    unfold Encoding.decode at h
    dsimp only at h
    split at h
    · cases h
    · cases h
      rfl

/-! ## Line ends -/

/-- A word in front of a text with its line ends unified stood there before. -/
theorem prefix_of_unifyLineEnds {ws cs : List Char} (hws : '\n' ∉ ws)
    (h : ws <+: unifyLineEnds cs) : ws <+: cs := by
  fun_induction unifyLineEnds cs generalizing ws with
  | case1 => exact h
  | case2 | case3 =>
    obtain rfl | ⟨_, rfl, -⟩ := List.prefix_cons_iff.1 h
    · exact List.nil_prefix
    · exact absurd List.mem_cons_self hws
  | case4 c cs _ _ ih =>
    obtain rfl | ⟨_, rfl, hpre⟩ := List.prefix_cons_iff.1 h
    · exact List.nil_prefix
    · exact (List.prefix_cons_inj c).2 (ih (fun hmem => hws (List.mem_cons_of_mem c hmem)) hpre)

/-- A word of a text with its line ends unified stood there before. -/
theorem infix_of_unifyLineEnds {ws cs : List Char} (hws : '\n' ∉ ws)
    (h : ws <:+: unifyLineEnds cs) : ws <:+: cs := by
  have hfront {cs : List Char} (hpre : ws <+: unifyLineEnds cs) : ws <:+: cs :=
    (prefix_of_unifyLineEnds hws hpre).isInfix
  fun_induction unifyLineEnds cs with
  | case1 => exact h
  | case2 cs ih =>
    refine (List.infix_cons_iff.1 h).elim (fun hpre => hfront ?_) fun hin => ?_
    · simpa [unifyLineEnds] using hpre
    · exact List.infix_cons (List.infix_cons (ih hin))
  | case3 cs hne ih =>
    refine (List.infix_cons_iff.1 h).elim (fun hpre => hfront ?_) fun hin => ?_
    · simpa [unifyLineEnds, hne] using hpre
    · exact List.infix_cons (ih hin)
  | case4 c cs hne hne' ih =>
    refine (List.infix_cons_iff.1 h).elim (fun hpre => hfront ?_) fun hin => ?_
    · simpa [unifyLineEnds, hne, hne'] using hpre
    · exact List.infix_cons (ih hin)

/-! ## Source files -/

/-- The bytes of a source file without a byte order mark. -/
def sourceBody (bs : Bytes) : Bytes := if bs.take 3 == byteOrderMark then bs.drop 3 else bs

/-- The encoding of a source file. -/
def sourceEncoding (bs : Bytes) : Except DecodeError Encoding :=
  detect (bs.take 3 == byteOrderMark) (sourceBody bs)

theorem sourceBody_isInfix (bs : Bytes) : sourceBody bs <:+: bs := by
  unfold sourceBody
  split
  · exact (List.drop_suffix 3 bs).isInfix
  · exact List.infix_rfl

theorem dropPending_isInfix (cs : List Char) : dropPending cs <:+: cs := by
  unfold dropPending
  split
  · exact (List.dropLast_prefix cs).isInfix
  · exact List.infix_rfl

theorem decodeSource_eq_ok {bs : Bytes} {text : String} (h : decodeSource bs = .ok text) :
    ∃ e cs, sourceEncoding bs = .ok e ∧ e.decode (sourceBody bs) = .ok cs ∧
      text.toList = unifyLineEnds (dropPending cs) := by
  change (sourceEncoding bs >>= fun e => e.decode (sourceBody bs) >>= fun cs =>
    pure (String.ofList (unifyLineEnds (dropPending cs)))) = .ok text at h
  cases he : sourceEncoding bs with
  | error f =>
    rw [he] at h
    cases h
  | ok e =>
    rw [he] at h
    change (e.decode (sourceBody bs) >>= fun cs =>
      pure (String.ofList (unifyLineEnds (dropPending cs)))) = .ok text at h
    cases hd : e.decode (sourceBody bs) with
    | error f =>
      rw [hd] at h
      cases h
    | ok cs =>
      rw [hd] at h
      cases h
      exact ⟨e, cs, rfl, hd, String.toList_ofList⟩

/-- **A word of a source file stands in its bytes**, if the file is UTF-8 or the word is ASCII. -/
theorem decodeSource_isInfix {bs : Bytes} {text : String} {w : String}
    (h : decodeSource bs = .ok text)
    (hw : sourceEncoding bs = .ok .utf8 ∨ ∀ c ∈ w.toList, c.toNat < 0x80)
    (hline : '\n' ∉ w.toList) (hin : w.toList <:+: text.toList) : Utf8.encode w <:+: bs := by
  obtain ⟨e, cs, he, hd, htext⟩ := decodeSource_eq_ok h
  rw [htext] at hin
  refine (Encoding.encode_isInfix hd ?_ ((infix_of_unifyLineEnds hline hin).trans
    (dropPending_isInfix cs))).trans (sourceBody_isInfix bs)
  exact hw.imp_left fun hutf8 => Except.ok.inj (he.symm.trans hutf8)

end JumpMacros.Text
