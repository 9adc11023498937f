import Rulebook.Text.LineEnd
import Rulebook.Text.Utf8

/-!
A text is decoded from its octets.

Each character is encoded by its own octets, and decoding takes them from the front one
by one (`decodeUtf8From_encodeChar`); so every text is found again in its octets
(`decodeUtf8_encodeUtf8`).
-/

namespace Rulebook.Text

/-! ### Octets of a text -/

theorem toList_loop (octets : ByteArray) (index : Nat) (read : List UInt8) :
    ByteArray.toList.loop octets index read = read.reverse ++ octets.data.toList.drop index := by
  fun_induction ByteArray.toList.loop octets index read with
  | case1 index read h ih =>
      have hindex : index < octets.data.toList.length := by simpa using h
      rw [ih, List.drop_eq_getElem_cons hindex]
      simp [ByteArray.get!, h]
  | case2 index read h =>
      rw [List.drop_eq_nil_of_le (by simpa using Nat.le_of_not_lt h), List.append_nil]

theorem encodeUtf8_eq_flatMap (s : String) :
    encodeUtf8 s = s.toList.flatMap String.utf8EncodeChar := by
  have hlist : ∀ octets : ByteArray, octets.toList = octets.data.toList :=
    fun octets => toList_loop octets 0 []
  rw [encodeUtf8, String.toUTF8, hlist, ← String.utf8Encode_toList, List.utf8Encode,
    List.toList_data_toByteArray]

/-! ### Decoding -/

section Steps

variable {octet : UInt8} {position : Nat} {p : Partial} {rest : List UInt8}

theorem decodeUtf8From_begin (h : ¬ octet.toNat < 0x80)
    (hbegin : Partial.begin? octet position = some p) :
    decodeUtf8From position none (octet :: rest) = decodeUtf8From (position + 1) (some p) rest := by
  rw [decodeUtf8From, if_neg h, hbegin]

theorem decodeUtf8From_more (h : p.least ≤ octet.toNat ∧ octet.toNat ≤ p.greatest)
    (howed : ¬ p.owed ≤ 1) :
    decodeUtf8From position (some p) (octet :: rest) =
      decodeUtf8From (position + 1) (some ⟨p.octet, p.start,
        p.bits * 64 + (octet.toNat - 0x80), p.owed - 1, 0x80, 0xbf⟩) rest := by
  rw [decodeUtf8From, if_pos h]
  exact if_neg howed

theorem decodeUtf8From_last (h : p.least ≤ octet.toNat ∧ octet.toNat ≤ p.greatest)
    (howed : p.owed ≤ 1) {c : Char} (hbits : p.bits * 64 + (octet.toNat - 0x80) = c.toNat) :
    decodeUtf8From position (some p) (octet :: rest) =
      (c :: ·) <$> decodeUtf8From (position + 1) none rest := by
  have hchar : Char.ofNat (p.bits * 64 + (octet.toNat - 0x80)) = c := by
    rw [hbits, Char.ofNat_toNat]
  rw [decodeUtf8From, if_pos h]
  simp only [if_pos howed, hchar]
  cases decodeUtf8From (position + 1) none rest <;> rfl

end Steps

/-- The first octet of a character of three says how far the second one may reach. -/
theorem begin?_three (octet : UInt8) (start next : Nat) (hfirst : 0xe0 ≤ octet.toNat)
    (hlast : octet.toNat ≤ 0xef) (hnext : 0x80 ≤ next ∧ next ≤ 0xbf)
    (hshort : octet.toNat = 0xe0 → 0xa0 ≤ next) (hpair : octet.toNat = 0xed → next ≤ 0x9f) :
    ∃ p, Partial.begin? octet start = some p ∧ p.bits = octet.toNat - 0xe0 ∧ p.owed = 2 ∧
      p.least ≤ next ∧ next ≤ p.greatest := by
  simp only [Partial.begin?]
  rw [if_neg (by omega)]
  by_cases hzero : octet.toNat = 0xe0
  · rw [if_pos hzero]
    exact ⟨_, rfl, by simp only; omega, rfl, hshort hzero, hnext.2⟩
  rw [if_neg hzero]
  by_cases hsurrogate : octet.toNat = 0xed
  · rw [if_pos hsurrogate]
    exact ⟨_, rfl, by simp only; omega, rfl, hnext.1, hpair hsurrogate⟩
  rw [if_neg hsurrogate, if_pos (by omega)]
  exact ⟨_, rfl, rfl, rfl, hnext⟩

/-- So does the first octet of a character of four. -/
theorem begin?_four (octet : UInt8) (start next : Nat) (hfirst : 0xf0 ≤ octet.toNat)
    (hlast : octet.toNat ≤ 0xf4) (hnext : 0x80 ≤ next ∧ next ≤ 0xbf)
    (hshort : octet.toNat = 0xf0 → 0x90 ≤ next) (hbeyond : octet.toNat = 0xf4 → next ≤ 0x8f) :
    ∃ p, Partial.begin? octet start = some p ∧ p.bits = octet.toNat - 0xf0 ∧ p.owed = 3 ∧
      p.least ≤ next ∧ next ≤ p.greatest := by
  simp only [Partial.begin?]
  rw [if_neg (by omega), if_neg (by omega), if_neg (by omega), if_neg (by omega)]
  by_cases hzero : octet.toNat = 0xf0
  · rw [if_pos hzero]
    exact ⟨_, rfl, by simp only; omega, rfl, hshort hzero, hnext.2⟩
  rw [if_neg hzero]
  by_cases hfour : octet.toNat = 0xf4
  · rw [if_neg (by omega), if_pos hfour]
    exact ⟨_, rfl, by simp only; omega, rfl, hnext.1, hbeyond hfour⟩
  rw [if_pos (by omega)]
  exact ⟨_, rfl, rfl, rfl, hnext⟩

theorem toNat_ofNat_octet {n : Nat} (h : n < 256) : (UInt8.ofNat n).toNat = n := by
  rw [UInt8.toNat_ofNat']
  exact Nat.mod_eq_of_lt h

/-- The octets of a character are decoded to it, whatever follows. -/
theorem decodeUtf8From_encodeChar (position : Nat) (c : Char) (rest : List UInt8) :
    ∃ position', decodeUtf8From position none (String.utf8EncodeChar c ++ rest) =
      (c :: ·) <$> decodeUtf8From position' none rest := by
  have hrange : c.toNat < 0xd800 ∨ 0xdfff < c.toNat ∧ c.toNat < 0x110000 := c.valid
  have hvalue : c.val.toNat = c.toNat := rfl
  simp only [String.utf8EncodeChar, hvalue]
  generalize hn : c.toNat = n at hrange
  split
  · next hone =>
      have hoctet := toNat_ofNat_octet (show n < 256 by omega)
      refine ⟨position + 1, ?_⟩
      rw [List.singleton_append, decodeUtf8From, hoctet, if_pos (by omega), ← hn, Char.ofNat_toNat]
      cases decodeUtf8From (position + 1) none rest <;> rfl
  split
  · next hone htwo =>
      have hfirst := toNat_ofNat_octet (show n / 64 % 32 + 192 < 256 by omega)
      have hlast := toNat_ofNat_octet (show n % 64 + 128 < 256 by omega)
      refine ⟨position + 1 + 1, ?_⟩
      have hbegin : Partial.begin? (UInt8.ofNat (n / 64 % 32 + 192)) position =
          some ⟨UInt8.ofNat (n / 64 % 32 + 192), position, n / 64 % 32, 1, 0x80, 0xbf⟩ := by
        simp only [Partial.begin?, hfirst]
        rw [if_pos (by omega), Nat.add_sub_cancel]
      rw [List.cons_append, List.cons_append, List.nil_append,
        decodeUtf8From_begin (by omega) hbegin]
      refine decodeUtf8From_last ?_ (Nat.le_refl 1) ?_
      · simp only [hlast]
        omega
      · simp only [hlast, hn]
        omega
  split
  · next hone htwo hthree =>
      have hfirst := toNat_ofNat_octet (show n / 4096 % 16 + 224 < 256 by omega)
      have hsecond := toNat_ofNat_octet (show n / 64 % 64 + 128 < 256 by omega)
      have hlast := toNat_ofNat_octet (show n % 64 + 128 < 256 by omega)
      obtain ⟨p, hbegin, hbits, howed, hleast, hgreatest⟩ :=
        begin?_three (UInt8.ofNat (n / 4096 % 16 + 224)) position (n / 64 % 64 + 128)
          (by omega) (by omega) (by omega) (by omega) (by omega)
      refine ⟨position + 1 + 1 + 1, ?_⟩
      rw [List.cons_append, List.cons_append, List.cons_append, List.nil_append,
        decodeUtf8From_begin (by omega) hbegin,
        decodeUtf8From_more (by rw [hsecond]; exact ⟨hleast, hgreatest⟩) (by omega)]
      refine decodeUtf8From_last ?_ (by simp only [howed]; omega) ?_
      · simp only [hlast]
        omega
      · simp only [hbits, hfirst, hsecond, hlast, hn]
        omega
  · next hone htwo hthree =>
      have hfirst := toNat_ofNat_octet (show n / 262144 % 8 + 240 < 256 by omega)
      have hsecond := toNat_ofNat_octet (show n / 4096 % 64 + 128 < 256 by omega)
      have hthird := toNat_ofNat_octet (show n / 64 % 64 + 128 < 256 by omega)
      have hlast := toNat_ofNat_octet (show n % 64 + 128 < 256 by omega)
      obtain ⟨p, hbegin, hbits, howed, hleast, hgreatest⟩ :=
        begin?_four (UInt8.ofNat (n / 262144 % 8 + 240)) position (n / 4096 % 64 + 128)
          (by omega) (by omega) (by omega) (by omega) (by omega)
      refine ⟨position + 1 + 1 + 1 + 1, ?_⟩
      rw [List.cons_append, List.cons_append, List.cons_append, List.cons_append, List.nil_append,
        decodeUtf8From_begin (by omega) hbegin,
        decodeUtf8From_more (by rw [hsecond]; exact ⟨hleast, hgreatest⟩) (by omega),
        decodeUtf8From_more (by simp only [hthird]; omega) (by simp only [howed]; omega)]
      refine decodeUtf8From_last ?_ (by simp only [howed]; omega) ?_
      · simp only [hlast]
        omega
      · simp only [hbits, hfirst, hsecond, hthird, hlast, hn]
        omega

/-- A text is found again in its octets. -/
theorem decodeUtf8_encodeUtf8 (s : String) : decodeUtf8 (encodeUtf8 s) = .ok s.toList := by
  rw [decodeUtf8, encodeUtf8_eq_flatMap]
  generalize 0 = position
  induction s.toList generalizing position with
  | nil => rfl
  | cons c cs ih =>
      obtain ⟨position', hdecode⟩ := decodeUtf8From_encodeChar position c
        (cs.flatMap String.utf8EncodeChar)
      rw [List.flatMap_cons, hdecode, ih]
      rfl

/-! ### Line ends -/

section LineEnds

variable {cs : List Char}

/-- Without carriage returns there are no line ends to unify. -/
theorem unifyLineEnds_eq_self (h : '\r' ∉ cs) : unifyLineEnds cs = cs := by
  induction cs with
  | nil => rfl
  | cons c cs ih =>
      rw [List.mem_cons, not_or] at h
      obtain ⟨hc, hcs⟩ := h
      rw [unifyLineEnds, if_neg (Ne.symm hc), ih hcs]
      rintro rest rfl
      exact absurd rfl hc

/-- Nor are there any to join. -/
theorem joinLineEnds_eq_self (h : '\r' ∉ cs) : joinLineEnds cs = cs := by
  induction cs with
  | nil => rfl
  | cons c cs ih =>
      rw [List.mem_cons, not_or] at h
      obtain ⟨hc, hcs⟩ := h
      rw [joinLineEnds, ih hcs]
      rintro rest rfl
      exact absurd rfl hc

end LineEnds

end Rulebook.Text
