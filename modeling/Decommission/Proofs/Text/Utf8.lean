import Decommission.Text.Utf8
import Decommission.Path
import Mathlib.Tactic.SplitIfs

/-!
# Text in bytes

Text that is written in bytes is read back, and bytes that can be read are those of the text.
-/

namespace Decommission

namespace Utf8

theorem toNat_ofNat {code : Nat} (hcode : code < 0xD800 ∨ 0xDFFF < code ∧ code < 0x110000) :
    (Char.ofNat code).val.toNat = code := by
  have hvalid : code.isValidChar := hcode
  rw [Char.ofNat, dif_pos hvalid]
  rfl

/-! ## The bytes that follow -/

variable {owed value : Nat} {least greatest byte : UInt8} {bytes rest : Bytes}

theorem follow_of_mem (hleast : least.toNat ≤ byte.toNat)
    (hgreatest : byte.toNat ≤ greatest.toNat) :
    follow (owed + 1) least greatest value (byte :: rest) =
      follow owed 0x80 0xBF (value * 64 + (byte.toNat - 0x80)) rest := by
  rw [follow, if_pos]
  exact ⟨UInt8.le_iff_toNat_le.mpr hleast, UInt8.le_iff_toNat_le.mpr hgreatest⟩

theorem eq_of_follow {code : Nat}
    (hfollow : follow 0 least greatest value bytes = (some code, rest)) :
    code = value ∧ bytes = rest := by
  obtain ⟨hcode, hrest⟩ := Prod.mk.inj hfollow
  exact ⟨(Option.some.inj hcode).symm, hrest⟩

theorem exists_of_follow {code : Nat}
    (hfollow : follow (owed + 1) least greatest value bytes = (some code, rest)) :
    ∃ byte more, bytes = byte :: more ∧ least.toNat ≤ byte.toNat ∧ byte.toNat ≤ greatest.toNat ∧
      follow owed 0x80 0xBF (value * 64 + (byte.toNat - 0x80)) more = (some code, rest) := by
  cases bytes with
  | nil => cases hfollow
  | cons byte more =>
      rw [follow] at hfollow
      split at hfollow
      · rename_i hrange
        exact ⟨byte, more, rfl, UInt8.le_iff_toNat_le.mp hrange.1,
          UInt8.le_iff_toNat_le.mp hrange.2, hfollow⟩
      · cases hfollow

/-! ## One character -/

/-- The bytes of a character, by its code. -/
inductive Sequence : Nat → Bytes → Prop where
  | one {code : Nat} {a : UInt8} (ha : a.toNat < 0x80) (hcode : code = a.toNat) :
      Sequence code [a]
  | two {code : Nat} {a b : UInt8} (ha : 0xC2 ≤ a.toNat ∧ a.toNat < 0xE0)
      (hb : 0x80 ≤ b.toNat ∧ b.toNat < 0xC0)
      (hcode : code = (a.toNat - 0xC0) * 64 + (b.toNat - 0x80)) : Sequence code [a, b]
  | three {code : Nat} {a b c : UInt8} (ha : 0xE0 ≤ a.toNat ∧ a.toNat < 0xF0)
      (hb : 0x80 ≤ b.toNat ∧ b.toNat < 0xC0) (hc : 0x80 ≤ c.toNat ∧ c.toNat < 0xC0)
      (hlong : a.toNat = 0xE0 → 0xA0 ≤ b.toNat) (hpair : a.toNat = 0xED → b.toNat < 0xA0)
      (hcode : code = ((a.toNat - 0xE0) * 64 + (b.toNat - 0x80)) * 64 + (c.toNat - 0x80)) :
      Sequence code [a, b, c]
  | four {code : Nat} {a b c d : UInt8} (ha : 0xF0 ≤ a.toNat ∧ a.toNat < 0xF5)
      (hb : 0x80 ≤ b.toNat ∧ b.toNat < 0xC0) (hc : 0x80 ≤ c.toNat ∧ c.toNat < 0xC0)
      (hd : 0x80 ≤ d.toNat ∧ d.toNat < 0xC0)
      (hlong : a.toNat = 0xF0 → 0x90 ≤ b.toNat) (hlast : a.toNat = 0xF4 → b.toNat < 0x90)
      (hcode : code = (((a.toNat - 0xF0) * 64 + (b.toNat - 0x80)) * 64 + (c.toNat - 0x80)) * 64 +
        (d.toNat - 0x80)) : Sequence code [a, b, c, d]

theorem Sequence.isScalar {code : Nat} (hsequence : Sequence code bytes) :
    code < 0xD800 ∨ 0xDFFF < code ∧ code < 0x110000 := by
  cases hsequence <;> omega

theorem utf8EncodeChar_of_sequence {code : Nat} (hsequence : Sequence code bytes) :
    String.utf8EncodeChar (Char.ofNat code) = bytes := by
  have hbyte : ∀ (byte : UInt8) {n : Nat}, n = byte.toNat → UInt8.ofNat n = byte := by
    rintro byte n rfl
    exact UInt8.ofNat_toNat
  unfold String.utf8EncodeChar
  dsimp only
  rw [toNat_ofNat hsequence.isScalar]
  cases hsequence with
  | @one a ha hcode => rw [if_pos (by omega), hbyte a (by omega)]
  | @two a b ha hb hcode =>
      rw [if_neg (by omega), if_pos (by omega), hbyte a (by omega), hbyte b (by omega)]
  | @three a b c ha hb hc hlong hpair hcode =>
      rw [if_neg (by omega), if_neg (by omega), if_pos (by omega), hbyte a (by omega),
        hbyte b (by omega), hbyte c (by omega)]
  | @four a b c d ha hb hc hd hlong hlast hcode =>
      rw [if_neg (by omega), if_neg (by omega), if_neg (by omega), hbyte a (by omega),
        hbyte b (by omega), hbyte c (by omega), hbyte d (by omega)]

theorem sequence_utf8EncodeChar (c : Char) :
    Sequence c.val.toNat (String.utf8EncodeChar c) := by
  have hscalar : c.val.toNat < 0xD800 ∨ 0xDFFF < c.val.toNat ∧ c.val.toNat < 0x110000 := c.valid
  have hbyte : ∀ n < 256, (UInt8.ofNat n).toNat = n := by
    intro n hn
    rw [UInt8.toNat_ofNat']
    exact Nat.mod_eq_of_lt hn
  unfold String.utf8EncodeChar
  dsimp only
  generalize c.val.toNat = code at hscalar ⊢
  split_ifs with hone htwo hthree
  · have ha := hbyte code (by omega)
    exact .one (by omega) (by omega)
  · have ha := hbyte (code / 64 % 0x20 + 0xC0) (by omega)
    have hb := hbyte (code % 0x40 + 0x80) (by omega)
    exact .two (by omega) (by omega) (by omega)
  · have ha := hbyte (code / 4096 % 0x10 + 0xE0) (by omega)
    have hb := hbyte (code / 64 % 0x40 + 0x80) (by omega)
    have hc := hbyte (code % 0x40 + 0x80) (by omega)
    exact .three (by omega) (by omega) (by omega) (by omega) (by omega) (by omega)
  · have ha := hbyte (code / 262144 % 0x08 + 0xF0) (by omega)
    have hb := hbyte (code / 4096 % 0x40 + 0x80) (by omega)
    have hc := hbyte (code / 64 % 0x40 + 0x80) (by omega)
    have hd := hbyte (code % 0x40 + 0x80) (by omega)
    exact .four (by omega) (by omega) (by omega) (by omega) (by omega) (by omega) (by omega)

theorem utf8EncodeChar_ne_nil (c : Char) : String.utf8EncodeChar c ≠ [] := by
  intro hencode
  have hsequence := sequence_utf8EncodeChar c
  rw [hencode] at hsequence
  cases hsequence

/-- What a lead byte can promise. -/
inductive Promise (byte : UInt8) : Nat × UInt8 × UInt8 × Nat → Prop where
  | one (hbyte : byte.toNat < 0x80) : Promise byte (0, 0x80, 0xBF, byte.toNat)
  | two (hbyte : 0xC2 ≤ byte.toNat ∧ byte.toNat < 0xE0) :
      Promise byte (1, 0x80, 0xBF, byte.toNat - 0xC0)
  | three {least greatest : UInt8} {value : Nat}
      (hbyte : 0xE0 ≤ byte.toNat ∧ byte.toNat < 0xF0)
      (hleast : byte.toNat = 0xE0 ∧ least.toNat = 0xA0 ∨
        byte.toNat ≠ 0xE0 ∧ least.toNat = 0x80)
      (hgreatest : byte.toNat = 0xED ∧ greatest.toNat = 0x9F ∨
        byte.toNat ≠ 0xED ∧ greatest.toNat = 0xBF)
      (hvalue : value = byte.toNat - 0xE0) : Promise byte (2, least, greatest, value)
  | four {least greatest : UInt8} {value : Nat}
      (hbyte : 0xF0 ≤ byte.toNat ∧ byte.toNat < 0xF5)
      (hleast : byte.toNat = 0xF0 ∧ least.toNat = 0x90 ∨
        byte.toNat ≠ 0xF0 ∧ least.toNat = 0x80)
      (hgreatest : byte.toNat = 0xF4 ∧ greatest.toNat = 0x8F ∨
        byte.toNat ≠ 0xF4 ∧ greatest.toNat = 0xBF)
      (hvalue : value = byte.toNat - 0xF0) : Promise byte (3, least, greatest, value)

theorem lead_cases (byte : UInt8) :
    lead byte = none ∧ (0x80 ≤ byte.toNat ∧ byte.toNat < 0xC2 ∨ 0xF5 ≤ byte.toNat) ∨
      ∃ promise, lead byte = some promise ∧ Promise byte promise := by
  unfold lead
  dsimp only
  by_cases h7F : byte.toNat ≤ 0x7F
  · rw [if_pos h7F]
    exact Or.inr ⟨_, rfl, .one (by omega)⟩
  rw [if_neg h7F]
  by_cases hC2 : byte.toNat < 0xC2
  · rw [if_pos hC2]
    exact Or.inl ⟨rfl, by omega⟩
  rw [if_neg hC2]
  by_cases hDF : byte.toNat ≤ 0xDF
  · rw [if_pos hDF]
    exact Or.inr ⟨_, rfl, .two (by omega)⟩
  rw [if_neg hDF]
  by_cases hE0 : byte.toNat = 0xE0
  · rw [if_pos hE0]
    exact Or.inr ⟨_, rfl, .three (by omega) (.inl ⟨hE0, rfl⟩) (.inr ⟨by omega, rfl⟩) (by omega)⟩
  rw [if_neg hE0]
  by_cases hED : byte.toNat = 0xED
  · rw [if_pos hED]
    exact Or.inr ⟨_, rfl, .three (by omega) (.inr ⟨hE0, rfl⟩) (.inl ⟨hED, rfl⟩) (by omega)⟩
  rw [if_neg hED]
  by_cases hEF : byte.toNat ≤ 0xEF
  · rw [if_pos hEF]
    exact Or.inr ⟨_, rfl, .three (by omega) (.inr ⟨hE0, rfl⟩) (.inr ⟨hED, rfl⟩) rfl⟩
  rw [if_neg hEF]
  by_cases hF0 : byte.toNat = 0xF0
  · rw [if_pos hF0]
    exact Or.inr ⟨_, rfl, .four (by omega) (.inl ⟨hF0, rfl⟩) (.inr ⟨by omega, rfl⟩) (by omega)⟩
  rw [if_neg hF0]
  by_cases hF3 : byte.toNat ≤ 0xF3
  · rw [if_pos hF3]
    exact Or.inr ⟨_, rfl, .four (by omega) (.inr ⟨hF0, rfl⟩) (.inr ⟨by omega, rfl⟩) rfl⟩
  rw [if_neg hF3]
  by_cases hF4 : byte.toNat = 0xF4
  · rw [if_pos hF4]
    exact Or.inr ⟨_, rfl, .four (by omega) (.inr ⟨hF0, rfl⟩) (.inl ⟨hF4, rfl⟩) (by omega)⟩
  · rw [if_neg hF4]
    exact Or.inl ⟨rfl, by omega⟩

theorem toNat_80 : (0x80 : UInt8).toNat = 0x80 := rfl

theorem toNat_BF : (0xBF : UInt8).toNat = 0xBF := rfl

/-- The bytes of a character keep what their lead byte promises. -/
theorem next_of_sequence {code : Nat} (hsequence : Sequence code (byte :: bytes)) (rest : Bytes) :
    next byte (bytes ++ rest) = (some (Char.ofNat code), rest) := by
  have h80 := toNat_80
  have hBF := toNat_BF
  unfold next
  rcases lead_cases byte with ⟨-, hrange⟩ | ⟨promise, hlead, hpromise⟩
  · cases hsequence <;> omega
  rw [hlead]
  cases hsequence with
  | one ha hcode =>
      cases hpromise with
      | one => rw [hcode]; rfl
      | two | three | four => omega
  | two ha hb hcode =>
      cases hpromise with
      | two =>
          dsimp only [List.cons_append, List.nil_append]
          rw [follow_of_mem (by omega) (by omega), follow, hcode]
          rfl
      | one | three | four => omega
  | three ha hb hc hlong hpair hcode =>
      cases hpromise with
      | three hbyte hleast hgreatest hvalue =>
          dsimp only [List.cons_append, List.nil_append]
          rw [follow_of_mem (by omega) (by omega), follow_of_mem (by omega) (by omega), follow,
            hcode, hvalue]
          rfl
      | one | two | four => omega
  | four ha hb hc hd hlong hlast hcode =>
      cases hpromise with
      | four hbyte hleast hgreatest hvalue =>
          dsimp only [List.cons_append, List.nil_append]
          rw [follow_of_mem (by omega) (by omega), follow_of_mem (by omega) (by omega),
            follow_of_mem (by omega) (by omega), follow, hcode, hvalue]
          rfl
      | one | two | three => omega

/-- What is read as a character are the bytes of that character. -/
theorem sequence_of_next {c : Char} (hnext : next byte bytes = (some c, rest)) :
    ∃ code tail, bytes = tail ++ rest ∧ Sequence code (byte :: tail) ∧ c = Char.ofNat code := by
  have h80 := toNat_80
  have hBF := toNat_BF
  unfold next at hnext
  rcases lead_cases byte with ⟨hlead, -⟩ | ⟨⟨owed, least, greatest, value⟩, hlead, hpromise⟩
  · rw [hlead] at hnext
    cases hnext
  rw [hlead] at hnext
  dsimp only at hnext
  cases hfollow : follow owed least greatest value bytes with
  | mk found left =>
      rw [hfollow] at hnext
      obtain ⟨hfound, rfl⟩ := Prod.mk.inj hnext
      obtain ⟨code, rfl, rfl⟩ := Option.map_eq_some_iff.mp hfound
      cases hpromise with
      | one hbyte =>
          obtain ⟨hcode, rfl⟩ := eq_of_follow hfollow
          exact ⟨_, [], rfl, .one hbyte hcode, rfl⟩
      | two hbyte =>
          obtain ⟨b, more, rfl, hleast, hgreatest, hdone⟩ := exists_of_follow hfollow
          obtain ⟨hcode, rfl⟩ := eq_of_follow hdone
          exact ⟨_, [b], rfl, .two hbyte (by omega) hcode, rfl⟩
      | three hbyte hleast hgreatest hvalue =>
          obtain ⟨b, more, rfl, hleast', hgreatest', hmore⟩ := exists_of_follow hfollow
          obtain ⟨c, more, rfl, hleast'', hgreatest'', hdone⟩ := exists_of_follow hmore
          obtain ⟨hcode, rfl⟩ := eq_of_follow hdone
          exact ⟨_, [b, c], rfl,
            .three hbyte (by omega) (by omega) (by omega) (by omega)
              (by rw [hcode, hvalue]), rfl⟩
      | four hbyte hleast hgreatest hvalue =>
          obtain ⟨b, more, rfl, hleast', hgreatest', hmore⟩ := exists_of_follow hfollow
          obtain ⟨c, more, rfl, hleast'', hgreatest'', hmore⟩ := exists_of_follow hmore
          obtain ⟨d, more, rfl, hleast₃, hgreatest₃, hdone⟩ := exists_of_follow hmore
          obtain ⟨hcode, rfl⟩ := eq_of_follow hdone
          exact ⟨_, [b, c, d], rfl, .four hbyte (by omega) (by omega) (by omega) (by omega)
            (by omega) (by rw [hcode, hvalue]), rfl⟩

/-! ## Texts -/

theorem encode_cons (c : Char) (text : List Char) :
    encode (c :: text) = String.utf8EncodeChar c ++ encode text := rfl

/-- Text that is written is read back. -/
theorem decode?_encode (text : List Char) : decode? (encode text) = some text := by
  induction text with
  | nil => exact decode?_nil
  | cons c text ih =>
      have hsequence := sequence_utf8EncodeChar c
      rw [encode_cons]
      cases hbytes : String.utf8EncodeChar c with
      | nil =>
          rw [hbytes] at hsequence
          cases hsequence
      | cons byte tail =>
          rw [hbytes] at hsequence
          have hnext := next_of_sequence hsequence (encode text)
          rw [show Char.ofNat c.val.toNat = c from c.ofNat_toNat] at hnext
          rw [List.cons_append, decode?_cons, hnext]
          simp [ih]

/-- Bytes that are read are those of the text. -/
theorem encode_of_decode? {bytes : Bytes} {text : List Char}
    (hdecode : decode? bytes = some text) : encode text = bytes := by
  induction text generalizing bytes with
  | nil =>
      cases bytes with
      | nil => rfl
      | cons byte rest =>
          rw [decode?_cons] at hdecode
          obtain ⟨c, -, hrest⟩ := Option.bind_eq_some_iff.mp hdecode
          simp at hrest
  | cons c text ih =>
      cases bytes with
      | nil =>
          rw [decode?_nil] at hdecode
          cases hdecode
      | cons byte rest =>
          rw [decode?_cons] at hdecode
          obtain ⟨first, hfirst, hrest⟩ := Option.bind_eq_some_iff.mp hdecode
          obtain ⟨others, hothers, heq⟩ := Option.map_eq_some_iff.mp hrest
          obtain ⟨rfl, rfl⟩ := List.cons.inj heq
          obtain ⟨code, tail, htail, hsequence, rfl⟩ := sequence_of_next (Prod.ext hfirst rfl)
          rw [encode_cons, ih hothers, utf8EncodeChar_of_sequence hsequence, List.cons_append,
            ← htail]

end Utf8

/-! ## Paths -/

namespace Path

/-- A path that is text is made of that text. -/
theorem ofString_of_text? {path : Path} {text : String} (htext : path.text? = some text) :
    ofString text = path := by
  obtain ⟨characters, hdecode, rfl⟩ := Option.map_eq_some_iff.mp htext
  rw [ofString, bytesOf, String.toList_ofList, Utf8.encode_of_decode? hdecode]

end Path

end Decommission
