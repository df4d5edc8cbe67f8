import CourierDispatch.Json.Printer
import CourierDispatch.Json.Shape
import Mathlib.Data.List.Basic

/-!
# Records that are written read back

A record of one field is written as an object by the printer and read by the reader of flat
records. For a field that is a text or a word of thirty-two bits the two are inverse
(`Record.readText_render`, `Record.readWord_render`), whatever the text.

The reader works on bytes, the printer on characters. A character in quotes becomes an escape
or its UTF-8 bytes, of which none looks like a quote, a backslash or a control character
(`plain_utf8EncodeChar`); either way its pieces come to its UTF-8 bytes again
(`assemble_piecesOf`). Nothing else has to be said about the encoding.
-/

namespace CourierDispatch

/-- The bytes of a text are those of its characters. -/
theorem Bytes.ofText_ofList (cs : List Char) :
    ofText (String.ofList cs) = cs.flatMap String.utf8EncodeChar := by
  unfold ofText
  rw [String.toUTF8_eq_toByteArray, String.toByteArray_ofList, List.utf8Encode,
    List.toList_data_toByteArray]

theorem Bytes.ofText_append (s t : String) : ofText (s ++ t) = ofText s ++ ofText t := by
  rw [← String.ofList_toList (s := s), ← String.ofList_toList (s := t), ← String.ofList_append,
    ofText_ofList, ofText_ofList, ofText_ofList, List.flatMap_append]

theorem Bytes.ofText_push (s : String) (c : Char) :
    ofText (s.push c) = ofText s ++ String.utf8EncodeChar c := by
  rw [String.push_eq_append, ofText_append, String.singleton_eq_ofList, ofText_ofList,
    List.flatMap_singleton]

namespace Json

open String (utf8EncodeChar)

/-! ## Characters in quotes -/

namespace Draft

/-- Bytes that stand for themselves in quotes. -/
def Plain (b : UInt8) : Prop := 32 ≤ b.toNat ∧ b.toNat ≠ 34 ∧ b.toNat ≠ 92

/-- **The bytes of a character stand for themselves**, unless it has to be escaped. -/
theorem plain_utf8EncodeChar {c : Char} (hquote : c.toNat ≠ 34) (hbackslash : c.toNat ≠ 92)
    (hcontrol : 32 ≤ c.toNat) : ∀ b ∈ utf8EncodeChar c, Plain b := by
  have hhigh : ∀ x y : Nat, 128 ≤ y → x + y < 256 → Plain (UInt8.ofNat (x + y)) := by
    intro x y hy hlt
    have : (UInt8.ofNat (x + y)).toNat = x + y := by
      rw [UInt8.toNat_ofNat']
      omega
    unfold Plain
    omega
  unfold utf8EncodeChar
  change c.val.toNat ≠ 34 at hquote
  change c.val.toNat ≠ 92 at hbackslash
  change 32 ≤ c.val.toNat at hcontrol
  generalize c.val.toNat = v at hquote hbackslash hcontrol
  intro b hb
  dsimp only at hb
  split at hb
  · next hle =>
    obtain rfl := List.mem_singleton.1 hb
    have : (UInt8.ofNat v).toNat = v := by
      rw [UInt8.toNat_ofNat']
      omega
    unfold Plain
    omega
  · -- The bytes of a character that takes several are all large.
    split at hb
    · simp only [List.mem_cons, List.not_mem_nil, or_false] at hb
      rcases hb with rfl | rfl
      all_goals exact hhigh _ _ (by omega) (by omega)
    · split at hb
      · simp only [List.mem_cons, List.not_mem_nil, or_false] at hb
        rcases hb with rfl | rfl | rfl
        all_goals exact hhigh _ _ (by omega) (by omega)
      · simp only [List.mem_cons, List.not_mem_nil, or_false] at hb
        rcases hb with rfl | rfl | rfl | rfl
        all_goals exact hhigh _ _ (by omega) (by omega)

/-- The bytes that stand for a character in quotes. -/
def quotedChar (c : Char) : Bytes := (escape c).flatMap utf8EncodeChar

/-- Characters that are written as a code point. -/
def isCoded (c : Char) : Bool :=
  c.toNat < 32 && c.toNat ≠ 8 && c.toNat ≠ 9 && c.toNat ≠ 10 && c.toNat ≠ 12 && c.toNat ≠ 13

/-- The pieces that a character in quotes is read as. -/
def piecesOf (c : Char) : List Piece :=
  if isCoded c then [.unit c.toNat] else (utf8EncodeChar c).map .byte

/-- The bytes that follow a backslash, each with the byte that it stands for. -/
def shortEscapes : List (UInt8 × UInt8) :=
  [(34, 34), (92, 92), (110, 10), (114, 13), (116, 9), (98, 8), (102, 12)]

/-- The characters that write a code point below 32. -/
def codedChars (n : Nat) : List Char :=
  ['\\', 'u', '0', '0', Bytes.hexDigit (n / 16), Bytes.hexDigit (n % 16)]

/-- **A character is quoted in one of three ways**: by a short escape, by its code point, or by
its own bytes. -/
theorem quotedChar_cases (c : Char) :
    (∃ p ∈ shortEscapes, quotedChar c = [92, p.1] ∧ piecesOf c = [.byte p.2])
      ∨ (c.toNat < 32 ∧ quotedChar c = (codedChars c.toNat).flatMap utf8EncodeChar
        ∧ piecesOf c = [.unit c.toNat])
      ∨ ((∀ b ∈ utf8EncodeChar c, Plain b) ∧ quotedChar c = utf8EncodeChar c
        ∧ piecesOf c = (utf8EncodeChar c).map .byte) := by
  have hshort : ∀ (d : Char) (p : UInt8 × UInt8), c = d → p ∈ shortEscapes →
      quotedChar d = [92, p.1] → piecesOf d = [.byte p.2] →
      ∃ p ∈ shortEscapes, quotedChar c = [92, p.1] ∧ piecesOf c = [.byte p.2] :=
    fun d p hc hp hquoted hpieces => ⟨p, hp, hc ▸ hquoted, hc ▸ hpieces⟩
  by_cases h34 : c = '"'
  · exact .inl (hshort '"' (34, 34) h34 (by decide) (by decide) rfl)
  by_cases h92 : c = '\\'
  · exact .inl (hshort '\\' (92, 92) h92 (by decide) (by decide) rfl)
  by_cases h10 : c = '\n'
  · exact .inl (hshort '\n' (110, 10) h10 (by decide) (by decide) rfl)
  by_cases h13 : c = '\r'
  · exact .inl (hshort '\r' (114, 13) h13 (by decide) (by decide) rfl)
  by_cases h9 : c = '\t'
  · exact .inl (hshort '\t' (116, 9) h9 (by decide) (by decide) rfl)
  by_cases h8 : c = Char.ofNat 8
  · exact .inl (hshort (Char.ofNat 8) (98, 8) h8 (by decide) (by decide) rfl)
  by_cases h12 : c = Char.ofNat 12
  · exact .inl (hshort (Char.ofNat 12) (102, 12) h12 (by decide) (by decide) rfl)
  have hne : ∀ n, c ≠ Char.ofNat n → c.toNat ≠ n := fun n hc hn =>
    hc (by rw [← hn, Char.ofNat_toNat])
  have hescape : escape c = if c.toNat < 32 then codedChars c.toNat else [c] := by
    unfold escape
    rw [if_neg h34, if_neg h92, if_neg h10, if_neg h13, if_neg h9, if_neg (hne 8 h8),
      if_neg (hne 12 h12)]
    rfl
  unfold quotedChar piecesOf isCoded
  rw [hescape]
  by_cases hcontrol : c.toNat < 32
  · refine .inr (.inl ⟨hcontrol, by rw [if_pos hcontrol], ?_⟩)
    rw [if_pos]
    simp [hcontrol, hne 8 h8, hne 9 h9, hne 10 h10, hne 12 h12, hne 13 h13]
  · refine .inr (.inr ⟨plain_utf8EncodeChar (hne 34 h34) (hne 92 h92) (Nat.not_lt.1 hcontrol),
      by rw [if_neg hcontrol, List.flatMap_singleton], ?_⟩)
    rw [if_neg]
    simp [hcontrol]

/-- Bytes that stand for themselves are read one by one. -/
theorem pieces_plain {bs : Bytes} (hplain : ∀ b ∈ bs, Plain b) (acc : List Piece) (fuel : Nat)
    (rest : Bytes) :
    pieces acc (fuel + bs.length) (bs ++ rest)
      = pieces ((bs.map .byte).reverse ++ acc) fuel rest := by
  induction bs generalizing acc with
  | nil => rfl
  | cons b bs ih =>
    obtain ⟨⟨hcontrol, hquote, hbackslash⟩, hbs⟩ := List.forall_mem_cons.1 hplain
    have h34 : b ≠ 34 := fun h => hquote (h ▸ rfl)
    have h92 : b ≠ 92 := fun h => hbackslash (h ▸ rfl)
    have h32 : ¬ b < 32 := fun h => absurd (UInt8.lt_iff_toNat_lt.1 h) (Nat.not_lt.2 hcontrol)
    have hstep : pieces acc (fuel + bs.length + 1) (b :: (bs ++ rest))
        = pieces (.byte b :: acc) (fuel + bs.length) (bs ++ rest) := by
      conv_lhs => unfold pieces
      rw [if_neg h34, if_neg h32, if_neg h92]
    show pieces acc (fuel + bs.length + 1) (b :: (bs ++ rest)) = _
    rw [hstep, ih hbs]
    simp

/-- A short escape is read as the byte that it stands for. -/
theorem pieces_short {e b : UInt8} (h : (e, b) ∈ shortEscapes) (acc : List Piece) (fuel : Nat)
    (rest : Bytes) : pieces acc (fuel + 1) (92 :: e :: rest) = pieces (.byte b :: acc) fuel rest := by
  have hcases : ∀ p ∈ shortEscapes,
      pieces acc (fuel + 1) (92 :: p.1 :: rest) = pieces (.byte p.2 :: acc) fuel rest := by
    simp only [shortEscapes, List.forall_mem_cons]
    exact ⟨rfl, rfl, rfl, rfl, rfl, rfl, rfl, fun _ h => nomatch h⟩
  exact hcases (e, b) h

/-- A hexadecimal digit takes one byte and reads back. -/
theorem hexDigit_byte {n : Nat} (h : n < 16) : ∃ b, utf8EncodeChar (Bytes.hexDigit n) = [b]
    ∧ Bytes.hexValue? (Char.ofNat b.toNat) = some n := by
  have : ∀ m : Fin 16, utf8EncodeChar (Bytes.hexDigit m)
        = [UInt8.ofNat (Bytes.hexDigit m).toNat]
      ∧ Bytes.hexValue? (Char.ofNat (UInt8.ofNat (Bytes.hexDigit m).toNat).toNat) = some m.val := by
    decide
  exact ⟨_, this ⟨n, h⟩⟩

/-- A code point below 32 is read from its digits. -/
theorem pieces_unit {n : Nat} (h : n < 32) (acc : List Piece) (fuel : Nat) (rest : Bytes) :
    pieces acc (fuel + 1) ((codedChars n).flatMap utf8EncodeChar ++ rest)
      = pieces (.unit n :: acc) fuel rest := by
  obtain ⟨high, hhigh, hhighValue⟩ := hexDigit_byte (show n / 16 < 16 by omega)
  obtain ⟨low, hlow, hlowValue⟩ := hexDigit_byte (Nat.mod_lt n (show 16 > 0 by decide))
  have hbytes : (codedChars n).flatMap utf8EncodeChar = [92, 117, 48, 48, high, low] := by
    simp only [codedChars, List.flatMap_cons, List.flatMap_nil, hhigh, hlow]
    rfl
  have hzero : Bytes.hexValue? (Char.ofNat (48 : UInt8).toNat) = some 0 := by decide
  have hfour : fourHex? (48 :: 48 :: high :: low :: rest) = some (n, rest) := by
    unfold fourHex?
    simp only [hzero, hhighValue, hlowValue, Option.some.injEq, Prod.mk.injEq, and_true]
    omega
  rw [hbytes]
  show pieces acc (fuel + 1) (92 :: 117 :: 48 :: 48 :: high :: low :: rest) = _
  conv_lhs => unfold pieces
  rw [if_neg (by decide), if_neg (by decide), if_pos rfl]
  dsimp only
  rw [if_pos rfl, hfour]

/-- **What is written for a character is read as its pieces.** Reading takes no more fuel than
there are bytes. -/
theorem pieces_quotedChar (c : Char) (acc : List Piece) (fuel : Nat) (rest : Bytes)
    (hfuel : (quotedChar c).length ≤ fuel) :
    ∃ fuel', fuel ≤ fuel' + (quotedChar c).length
      ∧ pieces acc fuel (quotedChar c ++ rest)
        = pieces ((piecesOf c).reverse ++ acc) fuel' rest := by
  obtain ⟨p, hp, hquoted, hpieces⟩ | ⟨hcontrol, hquoted, hpieces⟩ | ⟨hplain, hquoted, hpieces⟩ :=
    quotedChar_cases c
  all_goals rw [hquoted] at hfuel ⊢
  all_goals rw [hpieces]
  · obtain ⟨fuel, rfl⟩ := Nat.exists_eq_add_of_le' (Nat.le_of_succ_le hfuel)
    exact ⟨fuel, Nat.add_le_add_left (Nat.le_add_left 1 1) _, pieces_short hp acc fuel rest⟩
  · have hlength : 1 ≤ ((codedChars c.toNat).flatMap utf8EncodeChar).length := by
      rw [codedChars, List.flatMap_cons, List.length_append]
      exact Nat.le_add_right 1 _
    obtain ⟨fuel, rfl⟩ := Nat.exists_eq_add_of_le' (Nat.le_trans hlength hfuel)
    exact ⟨fuel, Nat.add_le_add_left hlength _, pieces_unit hcontrol acc fuel rest⟩
  · obtain ⟨fuel, rfl⟩ := Nat.exists_eq_add_of_le' hfuel
    exact ⟨fuel, Nat.le_refl _, pieces_plain hplain acc fuel rest⟩

/-- All characters of a text in quotes are read, up to the quote behind them. -/
theorem pieces_quoted (cs : List Char) (acc : List Piece) (fuel : Nat) (rest : Bytes)
    (hfuel : (cs.flatMap quotedChar).length < fuel) :
    pieces acc fuel (cs.flatMap quotedChar ++ 34 :: rest)
      = some ((cs.flatMap piecesOf).reverse ++ acc, rest) := by
  induction cs generalizing acc fuel with
  | nil =>
    obtain ⟨fuel, rfl⟩ := Nat.exists_eq_add_of_le' (Nat.succ_le_of_lt hfuel)
    rfl
  | cons c cs ih =>
    rw [List.flatMap_cons, List.length_append] at hfuel
    obtain ⟨fuel', hle, hread⟩ :=
      pieces_quotedChar c acc fuel (cs.flatMap quotedChar ++ 34 :: rest) (by omega)
    rw [List.flatMap_cons, List.append_assoc, hread, ih _ _ (by omega), List.flatMap_cons,
      List.reverse_append, List.append_assoc]

theorem assemble_bytes (bs acc : Bytes) (ps : List Piece) :
    assemble acc (bs.map .byte ++ ps) = assemble (bs.reverse ++ acc) ps := by
  induction bs generalizing acc with
  | nil => rfl
  | cons b bs ih =>
    show assemble (b :: acc) (bs.map .byte ++ ps) = _
    rw [ih, List.reverse_cons, List.append_assoc, List.singleton_append]

/-- **The pieces of a character come to its bytes.** -/
theorem assemble_piecesOf (c : Char) (acc : Bytes) (ps : List Piece) :
    assemble acc (piecesOf c ++ ps) = assemble ((utf8EncodeChar c).reverse ++ acc) ps := by
  unfold piecesOf
  split
  · next hcoded =>
    have hlt : c.toNat < 32 := by
      simp only [isCoded, Bool.and_eq_true, decide_eq_true_eq] at hcoded
      exact hcoded.1.1.1.1.1
    have hsmall : (c.toNat < 0xD800 || 0xDFFF < c.toNat) = true := by
      rw [Bool.or_eq_true, decide_eq_true_eq]
      exact .inl (by omega)
    have hbytes : Bytes.ofText (String.singleton c) = utf8EncodeChar c := by
      rw [String.singleton_eq_ofList, Bytes.ofText_ofList, List.flatMap_singleton]
    show assemble acc (.unit c.toNat :: ps) = _
    conv_lhs => unfold assemble
    rw [if_pos hsmall, pushScalar, Char.ofNat_toNat, hbytes, List.reverseAux_eq]
  · exact assemble_bytes _ _ _

theorem assemble_pieces (cs : List Char) (acc : Bytes) :
    assemble acc (cs.flatMap piecesOf) = some ((cs.flatMap utf8EncodeChar).reverse ++ acc) := by
  induction cs generalizing acc with
  | nil => rfl
  | cons c cs ih =>
    rw [List.flatMap_cons, assemble_piecesOf, ih, List.flatMap_cons, List.reverse_append,
      List.append_assoc]

/-- The bytes of a text in quotes, behind the first of them. -/
def quotedText (s : String) : Bytes := s.toList.flatMap quotedChar ++ [34]

/-- **A text in quotes reads back**, whatever follows it. -/
theorem quoted?_quotedText (s : String) (rest : Bytes) :
    quoted? (quotedText s ++ rest) = some (some s, rest) := by
  have hlength : (s.toList.flatMap quotedChar).length < (quotedText s ++ rest).length + 1 := by
    unfold quotedText
    simp only [List.length_append]
    omega
  have hpieces := pieces_quoted s.toList [] _ rest hlength
  unfold quoted?
  rw [quotedText, List.append_assoc, List.singleton_append] at hpieces ⊢
  rw [hpieces, Option.map_some]
  dsimp only
  rw [List.append_nil, List.reverse_reverse, assemble_pieces, Option.bind_some, List.append_nil,
    List.reverse_reverse, ← Bytes.ofText_ofList, String.ofList_toList, Bytes.text?_ofText]

/-! ## Numbers -/

/-- A decimal digit takes one byte. -/
theorem digit_byte {c : Char} (h : c.isDigit) :
    ∃ b, utf8EncodeChar c = [b] ∧ b.toNat = c.toNat ∧ isDigit b := by
  have hrange : 48 ≤ c.val.toNat ∧ c.val.toNat ≤ 57 := by
    simpa [Char.isDigit, UInt32.le_iff_toNat_le] using h
  have hbyte : (UInt8.ofNat c.val.toNat).toNat = c.val.toNat := by
    rw [UInt8.toNat_ofNat']
    omega
  refine ⟨UInt8.ofNat c.val.toNat, ?_, hbyte, ?_⟩
  · unfold utf8EncodeChar
    rw [if_pos (by omega)]
  · simp only [isDigit, Bool.and_eq_true, decide_eq_true_eq, UInt8.le_iff_toNat_le, hbyte]
    exact hrange

/-- Digits are read as the number that they write. -/
theorem digits_decimal {ds : List Char} (hdigits : ∀ c ∈ ds, c.isDigit) (acc count : Nat)
    {b : UInt8} (hend : isDigit b = false) (rest : Bytes) :
    digits acc count (ds.flatMap utf8EncodeChar ++ b :: rest)
      = (Nat.ofDigitChars 10 ds acc, count + ds.length, b :: rest) := by
  induction ds generalizing acc count with
  | nil =>
    show digits acc count (b :: rest) = _
    rw [digits, hend]
    rfl
  | cons c ds ih =>
    obtain ⟨hc, hds⟩ := List.forall_mem_cons.1 hdigits
    obtain ⟨d, hbyte, hvalue, hdigit⟩ := digit_byte hc
    rw [List.flatMap_cons, hbyte, List.singleton_append, List.cons_append, digits, if_pos hdigit,
      ih hds, Nat.ofDigitChars_cons, hvalue, List.length_cons, Nat.add_assoc, Nat.add_comm 1]
    rfl

/-- A number is written without a zero in front. -/
theorem toDigits_ne_zero_cons {n : Nat} (h : 0 < n) (ds : List Char) :
    Nat.toDigits 10 n ≠ '0' :: ds := by
  induction n using Nat.strongRecOn generalizing ds with
  | ind n ih =>
    intro heq
    by_cases hlt : n < 10
    · rw [Nat.toDigits_of_lt_base hlt] at heq
      have hdigit : ∀ m : Fin 10, 0 < m.val → m.val.digitChar ≠ '0' := by decide
      exact hdigit ⟨n, hlt⟩ h (List.cons.inj heq).1
    · rw [Nat.toDigits_of_base_le (by decide) (Nat.not_lt.1 hlt)] at heq
      cases hhigh : Nat.toDigits 10 (n / 10) with
      | nil => exact Nat.toDigits_ne_nil hhigh
      | cons c cs =>
        rw [hhigh, List.cons_append, List.cons.injEq] at heq
        exact ih (n / 10) (by omega) (by omega) cs (heq.1 ▸ hhigh)

/-- The bytes of a natural number. -/
def decimal (n : Nat) : Bytes := (Nat.toDigits 10 n).flatMap utf8EncodeChar

/-- Digits in front of a brace are a whole number, unless a zero stands in front of others. -/
theorem numeral?_of_digits {d : UInt8} {bs rest : Bytes} {n count : Nat}
    (hdigits : digits 0 0 (d :: bs) = (n, count, 125 :: rest)) (hpos : count ≠ 0)
    (hzero : d = 48 → count = 1) :
    numeral? false (d :: bs) = some (⟨false, n, 0, true⟩, 125 :: rest) := by
  unfold numeral?
  rw [hdigits]
  dsimp only
  split
  · next heq =>
    rw [hzero (List.cons.inj heq).1]
    rfl
  · rw [Bool.false_and, Bool.or_false, decide_eq_false hpos]
    rfl

/-- **A natural number reads back** in front of a brace. -/
theorem numeral?_decimal (n : Nat) (rest : Bytes) :
    ∃ d bs, decimal n = d :: bs ∧ isDigit d
      ∧ numeral? false (decimal n ++ 125 :: rest) = some (⟨false, n, 0, true⟩, 125 :: rest) := by
  have hall : ∀ c ∈ Nat.toDigits 10 n, c.isDigit := fun c hc =>
    Nat.isDigit_of_mem_toDigits (by decide) (by decide) hc
  have hdigits := digits_decimal hall 0 0 (b := 125) (by decide) rest
  rw [Nat.ofDigitChars_ten_toDigits, Nat.zero_add, ← decimal] at hdigits
  cases hlist : Nat.toDigits 10 n with
  | nil => exact absurd hlist Nat.toDigits_ne_nil
  | cons c cs =>
    obtain ⟨d, hbyte, hvalue, hdigit⟩ := digit_byte (hall c (hlist ▸ List.mem_cons_self ..))
    have hcons : decimal n = d :: cs.flatMap utf8EncodeChar := by
      rw [decimal, hlist, List.flatMap_cons, hbyte, List.singleton_append]
    refine ⟨d, _, hcons, hdigit, ?_⟩
    rw [hcons, List.cons_append] at hdigits ⊢
    refine numeral?_of_digits hdigits (Nat.ne_of_gt Nat.length_toDigits_pos) fun hd => ?_
    have hc : c = '0' := Char.toNat_inj.1 (hvalue.symm.trans (congrArg UInt8.toNat hd))
    rcases Nat.eq_zero_or_pos n with rfl | hpos
    · rfl
    · exact absurd (hc ▸ hlist) (toDigits_ne_zero_cons hpos cs)

/-! ## Records of one field -/

theorem value_quotedText (s : String) (fuel : Nat) (rest : Bytes) :
    value (fuel + 1) (34 :: quotedText s ++ rest) = (string (some s), some rest) := by
  show value (fuel + 1) (34 :: (quotedText s ++ rest)) = _
  rw [value, show skipBlanks (34 :: (quotedText s ++ rest)) = 34 :: (quotedText s ++ rest) from rfl]
  dsimp only
  rw [if_pos rfl, quoted?_quotedText]

theorem value_decimal (n : Nat) (fuel : Nat) (rest : Bytes) :
    value (fuel + 1) (decimal n ++ 125 :: rest)
      = (number ⟨false, n, 0, true⟩, some (125 :: rest)) := by
  obtain ⟨d, bs, hcons, hdigit, hread⟩ := numeral?_decimal n rest
  have hne : ∀ b, isDigit b = false → d ≠ b := fun b hb h => by
    rw [h, hb] at hdigit
    exact nomatch hdigit
  have hblank : isBlank d = false := by
    simp only [isBlank, Bool.or_eq_false_iff, decide_eq_false_iff_not]
    exact ⟨⟨⟨hne 32 (by decide), hne 9 (by decide)⟩, hne 10 (by decide)⟩, hne 13 (by decide)⟩
  rw [hcons, List.cons_append] at hread ⊢
  have hskip : skipBlanks (d :: (bs ++ 125 :: rest)) = d :: (bs ++ 125 :: rest) := by
    unfold skipBlanks
    rw [List.dropWhile_cons, hblank, if_neg Bool.false_ne_true]
  rw [value, hskip]
  dsimp only
  rw [if_neg (hne 34 (by decide)), if_neg (hne 91 (by decide)), if_neg (hne 123 (by decide)),
    if_neg (hne 110 (by decide)), if_neg (hne 116 (by decide)), if_neg (hne 102 (by decide)),
    if_neg (hne 45 (by decide))]
  dsimp only
  rw [hread]

/-- **An object of one member is read** if its value is. -/
theorem read_member {name : String} {w : Bytes} {d : Draft}
    (hvalue : ∀ fuel, value (fuel + 1) (w ++ [125]) = (d, some [125])) :
    read (123 :: 34 :: (quotedText name ++ 58 :: (w ++ [125])))
      = (object [(some name, d)] true, true) := by
  have hmembers : ∀ fuel, members (fuel + 2) [] (34 :: (quotedText name ++ 58 :: (w ++ [125])))
      = (object [(some name, d)] true, some []) := by
    intro fuel
    rw [members, show skipBlanks (34 :: (quotedText name ++ 58 :: (w ++ [125])))
      = 34 :: (quotedText name ++ 58 :: (w ++ [125])) from rfl]
    simp only [quoted?_quotedText]
    rw [show skipBlanks (58 :: (w ++ [125])) = 58 :: (w ++ [125]) from rfl]
    simp only [hvalue]
    rfl
  have hobject : ∀ fuel rest,
      value (fuel + 1) (123 :: 34 :: rest) = members fuel [] (34 :: rest) := by
    intro fuel rest
    rw [value]
    rfl
  obtain ⟨fuel, hfuel⟩ := Nat.exists_eq_add_of_le' (show 3 ≤
      2 * (123 :: 34 :: (quotedText name ++ 58 :: (w ++ [125]))).length + 2 by
    simp only [List.length_cons]
    omega)
  unfold read
  rw [hfuel, hobject, hmembers]
  rfl

end Draft

open Draft

theorem ofText_foldl_push (cs : List Char) (out : String) :
    Bytes.ofText (cs.foldl String.push out) = Bytes.ofText out ++ cs.flatMap utf8EncodeChar := by
  induction cs generalizing out with
  | nil => exact (List.append_nil _).symm
  | cons c cs ih =>
    rw [List.foldl_cons, ih, Bytes.ofText_push, List.append_assoc, List.flatMap_cons]

/-- A text is written in quotes. -/
theorem ofText_renderString (out s : String) :
    Bytes.ofText (renderString out s) = Bytes.ofText out ++ 34 :: quotedText s := by
  have hfold : ∀ (cs : List Char) (out : String),
      Bytes.ofText (cs.foldl (fun out c => (escape c).foldl String.push out) out)
        = Bytes.ofText out ++ cs.flatMap quotedChar := by
    intro cs
    induction cs with
    | nil => exact fun out => (List.append_nil _).symm
    | cons c cs ih =>
      intro out
      rw [List.foldl_cons, ih, ofText_foldl_push, List.append_assoc, List.flatMap_cons, quotedChar]
  unfold renderString quotedText
  rw [Bytes.ofText_push, hfold, Bytes.ofText_push, List.append_assoc, List.append_assoc]
  rfl

/-- An object of one member is written with its name in quotes and its value behind it. -/
theorem ofText_render_member {name : String} {j : Json} {w : Bytes}
    (hvalue : ∀ out, Bytes.ofText (renderOnto out j) = Bytes.ofText out ++ w) :
    Bytes.ofText (render (.object [(name, j)]))
      = 123 :: 34 :: (quotedText name ++ 58 :: (w ++ [125])) := by
  show Bytes.ofText ((renderOnto ((renderString ("".push '\x7b') name).push ':') j).push '\x7d') = _
  rw [Bytes.ofText_push, hvalue, Bytes.ofText_push, ofText_renderString,
    show Bytes.ofText ("".push '\x7b') = [123] from by decide]
  simp only [List.append_assoc, List.cons_append, List.nil_append]
  rfl

theorem read_number {kind : FieldKind} {n : Numeral} {j : Json} (h : n.toJson? = some j) :
    Field.read kind (.number n) = Field.ofNumber kind j := by
  simp only [Field.read, h]

/-- A natural number below 2³² is written as a word. -/
theorem read_word_number (id : UInt32) :
    Field.read .word (.number ⟨false, id.toNat, 0, true⟩) = .ok (.word id) := by
  have hbound := id.toNat_lt
  have hinteger : Numeral.toJson? ⟨false, id.toNat, 0, true⟩ = some (.integer id.toNat) := by
    unfold Numeral.toJson?
    simp only [Bool.false_eq_true, if_false, false_and, not_false_iff, and_true, true_and]
    rw [if_pos (by omega)]
  have hword : Field.ofNumber .word (.integer id.toNat) = .ok (.word id) := by
    unfold Field.ofNumber
    dsimp only
    rw [if_pos (by omega), Int.toNat_natCast, UInt32.ofNat_toNat]
  exact (read_number hinteger).trans hword

namespace Record

/-- A record of one field is read from an object that holds the field and nothing else. -/
theorem read_field {name : String} {kind : FieldKind} {b : Bytes} {d : Draft} {v : FieldValue}
    (hread : Draft.read b = (.object [(some name, d)] true, true))
    (hvalue : Field.read kind d = .ok v) : read [⟨name, kind, true⟩] b = .ok [some v] := by
  have hfound : readMembers [⟨name, kind, true⟩] true [] [(some name, d)] = .ok [(name, v)] := by
    simp [readMembers, hvalue]
  have hcollected : collect [(name, v)] [⟨name, kind, true⟩] = .ok [some v] := by
    unfold collect
    rw [List.lookup_cons_self]
    rfl
  unfold read
  rw [hread]
  dsimp only [ofDraft]
  rw [hfound]
  dsimp only [bind, Except.bind]
  rw [hcollected]
  rfl

/-- **A text that is written as the field of a record reads back.** -/
theorem readText_render (name text : String) :
    readText name (Bytes.ofText (render (.object [(name, .string text)]))) = .ok text := by
  have hread : Draft.read (Bytes.ofText (render (.object [(name, .string text)])))
      = (.object [(some name, .string (some text))] true, true) := by
    have hwritten : Bytes.ofText (render (.object [(name, .string text)]))
        = 123 :: 34 :: (quotedText name ++ 58 :: (34 :: quotedText text ++ [125])) :=
      ofText_render_member fun out => ofText_renderString out text
    rw [hwritten]
    exact read_member fun fuel => value_quotedText text fuel [125]
  unfold readText
  rw [read_field hread (v := .text text) rfl]

/-- **A word that is written as the field of a record reads back.** -/
theorem readWord_render (name : String) (id : UInt32) :
    readWord name (Bytes.ofText (render (.object [(name, .integer id.toNat)]))) = .ok id := by
  have hread : Draft.read (Bytes.ofText (render (.object [(name, .integer id.toNat)])))
      = (.object [(some name, .number ⟨false, id.toNat, 0, true⟩)] true, true) := by
    have hinteger : ∀ out, Bytes.ofText (renderOnto out (.integer id.toNat))
        = Bytes.ofText out ++ decimal id.toNat := by
      intro out
      show Bytes.ofText (out ++ Nat.repr id.toNat) = _
      rw [Bytes.ofText_append, Nat.repr_eq_ofList_toDigits, Bytes.ofText_ofList, decimal]
    rw [ofText_render_member hinteger]
    exact read_member fun fuel => value_decimal id.toNat fuel []
  unfold readWord
  rw [read_field hread (read_word_number id)]

end Record

end Json

end CourierDispatch
