import Decommission.Proofs.Text.Utf8
import Mathlib.Data.List.Infix

/-!
# Text of any bytes

Bytes that are no text are shown with a mark for each part that begins no character.  Such a part is
as long as it can be: it may be the beginning of a character, and with one byte more it is not.  What
is shown is settled by that, and where the bytes are text it is that text.
-/

namespace Decommission.Utf8

/-- A part of some bytes in which no character begins, as long as it can be.  Bytes that begin a
character that is cut off are one part; any other byte is one for itself. -/
structure Malformed (part rest : Bytes) : Prop where
  ne_nil : part ≠ []
  not_whole : ∀ c, ¬String.utf8EncodeChar c <+: part ++ rest
  begins : part.length = 1 ∨ ∃ c, part <+: String.utf8EncodeChar c
  longest : ∀ longer c, longer <+: part ++ rest → part.length < longer.length →
    ¬longer <+: String.utf8EncodeChar c

/-- The bytes and what is shown of them. -/
inductive Repaired : Bytes → List Char → Prop where
  | nil : Repaired [] []
  | scalar {rest text} (c : Char) (hrest : Repaired rest text) :
      Repaired (String.utf8EncodeChar c ++ rest) (c :: text)
  | malformed {part rest text} (hpart : Malformed part rest) (hrest : Repaired rest text) :
      Repaired (part ++ rest) (replacement :: text)

/-! ## The bytes that a lead byte owes -/

/-- So many bytes, the first between these bounds and the others between `80` and `BF`. -/
def Owed : Nat → UInt8 → UInt8 → Bytes → Prop
  | 0, _, _, bytes => bytes = []
  | _ + 1, _, _, [] => False
  | owed + 1, least, greatest, byte :: rest =>
      (least.toNat ≤ byte.toNat ∧ byte.toNat ≤ greatest.toNat) ∧ Owed owed 0x80 0xBF rest

variable {owed value : Nat} {least greatest byte : UInt8} {bytes rest : Bytes}

theorem exists_of_owed (howed : Owed (owed + 1) least greatest bytes) :
    ∃ byte rest, bytes = byte :: rest ∧
      (least.toNat ≤ byte.toNat ∧ byte.toNat ≤ greatest.toNat) ∧ Owed owed 0x80 0xBF rest := by
  cases bytes with
  | nil => cases howed
  | cons byte rest => exact ⟨byte, rest, rfl, howed⟩

theorem follow_of_not_mem (hrange : ¬(least.toNat ≤ byte.toNat ∧ byte.toNat ≤ greatest.toNat)) :
    follow (owed + 1) least greatest value (byte :: rest) = (none, byte :: rest) := by
  rw [follow, if_neg]
  rwa [UInt8.le_iff_toNat_le, UInt8.le_iff_toNat_le]

theorem length_of_owed (howed : Owed owed least greatest bytes) : bytes.length = owed := by
  induction owed generalizing least greatest bytes with
  | zero => rw [howed, List.length_nil]
  | succ owed ih =>
      cases bytes with
      | nil => cases howed
      | cons byte rest => rw [List.length_cons, ih howed.2]

theorem exists_owed (owed : Nat) (hbounds : least.toNat ≤ greatest.toNat) :
    ∃ bytes, Owed owed least greatest bytes := by
  induction owed generalizing least greatest with
  | zero => exact ⟨[], rfl⟩
  | succ owed ih =>
      obtain ⟨rest, hrest⟩ : ∃ rest, Owed owed 0x80 0xBF rest := ih (by decide)
      exact ⟨least :: rest, ⟨Nat.le_refl _, hbounds⟩, hrest⟩

/-- Where the reading stops too early: more bytes could have been read, but not the next one. -/
theorem exists_of_follow_none (hbounds : least.toNat ≤ greatest.toNat)
    (hfollow : follow owed least greatest value bytes = (none, rest)) :
    ∃ taken, bytes = taken ++ rest ∧
      (∃ missing, missing ≠ [] ∧ Owed owed least greatest (taken ++ missing)) ∧
      ∀ next more others, rest = next :: more → ¬Owed owed least greatest (taken ++ next :: others) := by
  induction owed generalizing least greatest value bytes with
  | zero => cases hfollow
  | succ owed ih =>
      cases bytes with
      | nil =>
          cases hfollow
          obtain ⟨missing, hmissing⟩ := exists_owed (owed + 1) hbounds
          refine ⟨[], rfl, ⟨missing, ?_, hmissing⟩, nofun⟩
          rintro rfl
          cases hmissing
      | cons byte bytes =>
          by_cases hrange : least.toNat ≤ byte.toNat ∧ byte.toNat ≤ greatest.toNat
          · rw [follow_of_mem hrange.1 hrange.2] at hfollow
            obtain ⟨taken, rfl, ⟨missing, hne, hmissing⟩, hnext⟩ := ih (by decide) hfollow
            refine ⟨byte :: taken, rfl, ⟨missing, hne, hrange, hmissing⟩, ?_⟩
            intro next more others hrest howed
            exact hnext next more others hrest howed.2
          · rw [follow_of_not_mem hrange] at hfollow
            cases hfollow
            obtain ⟨missing, hmissing⟩ := exists_owed (owed + 1) hbounds
            refine ⟨[], rfl, ⟨missing, ?_, hmissing⟩, ?_⟩
            · rintro rfl
              cases hmissing
            · rintro next more others hrest howed
              obtain ⟨rfl, rfl⟩ := List.cons.inj hrest
              exact hrange howed.1

/-- What a lead byte promises is what the characters have that begin with it. -/
theorem owed_iff (hpromise : Promise byte (owed, least, greatest, value)) {tail : Bytes} :
    Owed owed least greatest tail ↔ ∃ c, String.utf8EncodeChar c = byte :: tail := by
  have h80 := toNat_80
  have hBF := toNat_BF
  constructor
  · intro howed
    suffices hsequence : ∃ code, Sequence code (byte :: tail) by
      obtain ⟨code, hsequence⟩ := hsequence
      exact ⟨Char.ofNat code, utf8EncodeChar_of_sequence hsequence⟩
    cases hpromise with
    | one hbyte =>
        obtain rfl : tail = [] := howed
        exact ⟨_, .one hbyte rfl⟩
    | two hbyte =>
        obtain ⟨b, more, rfl, hb, howed⟩ := exists_of_owed howed
        obtain rfl : more = [] := howed
        exact ⟨_, .two hbyte (by omega) rfl⟩
    | three hbyte hleast hgreatest hvalue =>
        obtain ⟨b, more, rfl, hb, howed⟩ := exists_of_owed howed
        obtain ⟨c, more, rfl, hc, howed⟩ := exists_of_owed howed
        obtain rfl : more = [] := howed
        exact ⟨_, .three hbyte (by omega) (by omega) (by omega) (by omega) rfl⟩
    | four hbyte hleast hgreatest hvalue =>
        obtain ⟨b, more, rfl, hb, howed⟩ := exists_of_owed howed
        obtain ⟨c, more, rfl, hc, howed⟩ := exists_of_owed howed
        obtain ⟨d, more, rfl, hd, howed⟩ := exists_of_owed howed
        obtain rfl : more = [] := howed
        exact ⟨_, .four hbyte (by omega) (by omega) (by omega) (by omega) (by omega) rfl⟩
  · rintro ⟨c, hencode⟩
    have hsequence := sequence_utf8EncodeChar c
    rw [hencode] at hsequence
    cases hsequence with
    | one ha =>
        cases hpromise with
        | one => rfl
        | two | three | four => omega
    | two ha hb =>
        cases hpromise with
        | two => exact ⟨by omega, rfl⟩
        | one | three | four => omega
    | three ha hb hc hlong hpair =>
        cases hpromise with
        | three => exact ⟨by omega, by omega, rfl⟩
        | one | two | four => omega
    | four ha hb hc hd hlong hlast =>
        cases hpromise with
        | four => exact ⟨by omega, by omega, by omega, rfl⟩
        | one | two | three => omega

theorem le_of_promise (hpromise : Promise byte (owed, least, greatest, value)) :
    least.toNat ≤ greatest.toNat := by
  cases hpromise <;> first | decide | omega

/-- A byte that promises nothing begins no character. -/
theorem ne_cons_of_lead_none (hlead : lead byte = none) (c : Char) (tail : Bytes) :
    String.utf8EncodeChar c ≠ byte :: tail := by
  intro hencode
  have hsequence := sequence_utf8EncodeChar c
  rw [hencode] at hsequence
  rcases lead_cases byte with ⟨-, hrange⟩ | ⟨promise, hpromise, -⟩
  · cases hsequence <;> omega
  · rw [hlead] at hpromise
    cases hpromise

/-! ## Malformed parts -/

theorem exists_cons_of_fits {part : Bytes} (hpart : part <+: byte :: rest) (hne : part ≠ []) :
    ∃ tail, part = byte :: tail ∧ tail <+: rest :=
  (List.prefix_cons_iff.mp hpart).resolve_left hne

theorem malformed_of_lead_none (hlead : lead byte = none) (rest : Bytes) :
    Malformed [byte] rest where
  ne_nil := by simp
  not_whole c hfits := by
    obtain ⟨tail, hencode, -⟩ := exists_cons_of_fits hfits (utf8EncodeChar_ne_nil c)
    exact ne_cons_of_lead_none hlead c tail hencode
  begins := Or.inl rfl
  longest longer c hfits hlength := by
    rintro ⟨more, hencode⟩
    obtain ⟨tail, rfl, -⟩ := exists_cons_of_fits hfits (List.ne_nil_of_length_pos (by omega))
    exact ne_cons_of_lead_none hlead c (tail ++ more) hencode.symm

/-- What is left of a character that is cut off. -/
theorem malformed_of_owed {taken missing : Bytes}
    (hpromise : Promise byte (owed, least, greatest, value)) (hne : missing ≠ [])
    (howed : Owed owed least greatest (taken ++ missing))
    (hnext : ∀ next more others, rest = next :: more →
      ¬Owed owed least greatest (taken ++ next :: others)) :
    Malformed (byte :: taken) rest := by
  have hlongest : ∀ longer c, longer <+: byte :: (taken ++ rest) →
      taken.length + 1 < longer.length → ¬longer <+: String.utf8EncodeChar c := by
    rintro longer c hfits hlength ⟨others, hencode⟩
    obtain ⟨tail, rfl, left, hleft⟩ :=
      exists_cons_of_fits hfits (List.ne_nil_of_length_pos (by omega))
    rw [List.length_cons, Nat.add_lt_add_iff_right] at hlength
    rcases List.append_eq_append_iff.mp hleft with ⟨back, rfl, -⟩ | ⟨front, rfl, hrest⟩
    · rw [List.length_append] at hlength
      omega
    · cases front with
      | nil => simp at hlength
      | cons next front =>
          refine hnext next (front ++ left) (front ++ others) hrest
            ((owed_iff hpromise).mpr ⟨c, ?_⟩)
          rw [← hencode]
          simp
  refine ⟨by simp, fun c hfits => ?_, Or.inr ?_, hlongest⟩
  · -- A whole character would be longer than what was taken.
    obtain ⟨tail, hencode, -⟩ := exists_cons_of_fits hfits (utf8EncodeChar_ne_nil c)
    have htail : tail.length = owed := length_of_owed ((owed_iff hpromise).mpr ⟨c, hencode⟩)
    have htaken : taken.length + missing.length = owed := by
      rw [← List.length_append, length_of_owed howed]
    have hmissing : 0 < missing.length := List.length_pos_of_ne_nil hne
    refine hlongest _ c hfits ?_ (List.prefix_refl _)
    rw [hencode, List.length_cons]
    omega
  · obtain ⟨c, hencode⟩ := (owed_iff hpromise).mp howed
    exact ⟨c, missing, hencode.symm⟩

/-- Where no character is read there is a malformed part, and the reading goes on behind it. -/
theorem malformed_of_next (hnext : next byte bytes = (none, rest)) :
    ∃ taken, bytes = taken ++ rest ∧ Malformed (byte :: taken) rest := by
  unfold next at hnext
  rcases lead_cases byte with ⟨hlead, -⟩ | ⟨⟨owed, least, greatest, value⟩, hlead, hpromise⟩
  · rw [hlead] at hnext
    cases hnext
    exact ⟨[], rfl, malformed_of_lead_none hlead bytes⟩
  · rw [hlead] at hnext
    cases hfollow : follow owed least greatest value bytes with
    | mk found left =>
        dsimp only at hnext
        rw [hfollow] at hnext
        obtain ⟨hfound, rfl⟩ : found.map Char.ofNat = none ∧ left = rest := Prod.mk.inj hnext
        rw [Option.map_eq_none_iff.mp hfound] at hfollow
        obtain ⟨taken, rfl, ⟨missing, hne, howed⟩, hstops⟩ :=
          exists_of_follow_none (le_of_promise hpromise) hfollow
        exact ⟨taken, rfl, malformed_of_owed hpromise hne howed hstops⟩

/-! ## What is shown -/

/-- Bytes that are no text are shown with a mark for each malformed part. -/
theorem repaired_decodeLossy (bytes : Bytes) : Repaired bytes (decodeLossy bytes) := by
  induction hlength : bytes.length using Nat.strongRecOn generalizing bytes with
  | ind length ih =>
      cases bytes with
      | nil =>
          rw [decodeLossy_nil]
          exact .nil
      | cons byte bytes =>
          have hrest : Repaired (next byte bytes).2 (decodeLossy (next byte bytes).2) := by
            refine ih _ ?_ _ rfl
            rw [← hlength, List.length_cons]
            exact Nat.lt_succ_of_le (length_next_le byte bytes)
          rw [decodeLossy_cons]
          cases hnext : next byte bytes with
          | mk found rest =>
              rw [hnext] at hrest
              cases found with
              | none =>
                  obtain ⟨taken, rfl, hpart⟩ := malformed_of_next hnext
                  exact .malformed hpart hrest
              | some c =>
                  obtain ⟨code, tail, rfl, hsequence, rfl⟩ := sequence_of_next hnext
                  have hencode := utf8EncodeChar_of_sequence hsequence
                  have hscalar := Repaired.scalar (Char.ofNat code) hrest
                  rwa [hencode] at hscalar

theorem Malformed.length_le {part other others : Bytes} (hpart : Malformed part rest)
    (hother : Malformed other others) (hsame : part ++ rest = other ++ others) :
    other.length ≤ part.length := by
  by_contra hlonger
  have hpos : 0 < part.length := List.length_pos_of_ne_nil hpart.ne_nil
  rcases hother.begins with hone | ⟨c, hbegins⟩
  · omega
  · exact hpart.longest other c (hsame ▸ List.prefix_append _ _) (by omega) hbegins

/-- Some bytes begin with at most one malformed part. -/
theorem Malformed.eq {part other others : Bytes} (hpart : Malformed part rest)
    (hother : Malformed other others) (hsame : part ++ rest = other ++ others) :
    part = other ∧ rest = others :=
  List.append_inj hsame
    (Nat.le_antisymm (hother.length_le hpart hsame.symm) (hpart.length_le hother hsame))

theorem next_of_encode {c : Char} {tail : Bytes} (hencode : String.utf8EncodeChar c = byte :: tail)
    (rest : Bytes) : next byte (tail ++ rest) = (some c, rest) := by
  have hsequence := sequence_utf8EncodeChar c
  rw [hencode] at hsequence
  have hnext := next_of_sequence hsequence rest
  rwa [show Char.ofNat c.val.toNat = c from c.ofNat_toNat] at hnext

theorem next_of_malformed {taken : Bytes} (hpart : Malformed (byte :: taken) rest) :
    next byte (taken ++ rest) = (none, rest) := by
  cases hnext : next byte (taken ++ rest) with
  | mk found left =>
      cases found with
      | none =>
          obtain ⟨others, hothers, hmalformed⟩ := malformed_of_next hnext
          obtain ⟨-, rfl⟩ := hpart.eq hmalformed (congrArg (byte :: ·) hothers)
          rfl
      | some c =>
          obtain ⟨code, tail, htail, hsequence, rfl⟩ := sequence_of_next hnext
          refine absurd ?_ (hpart.not_whole (Char.ofNat code))
          rw [utf8EncodeChar_of_sequence hsequence, List.cons_append, htail]
          exact (List.prefix_cons_inj _).mpr (List.prefix_append _ _)

/-- What is shown of some bytes is settled by what is text in them. -/
theorem decodeLossy_eq_iff {text : List Char} :
    decodeLossy bytes = text ↔ Repaired bytes text := by
  constructor
  · rintro rfl
    exact repaired_decodeLossy bytes
  · intro hrepaired
    induction hrepaired with
    | nil => exact decodeLossy_nil
    | @scalar rest text c hrest ih =>
        obtain ⟨byte, tail, hencode⟩ := List.exists_cons_of_ne_nil (utf8EncodeChar_ne_nil c)
        rw [hencode, List.cons_append, decodeLossy_cons, next_of_encode hencode, ih]
        rfl
    | @malformed part rest text hpart hrest ih =>
        obtain ⟨byte, taken, rfl⟩ := List.exists_cons_of_ne_nil hpart.ne_nil
        rw [List.cons_append, decodeLossy_cons, next_of_malformed hpart, ih]
        rfl

/-- Text is shown as it is. -/
theorem repaired_encode (text : List Char) : Repaired (encode text) text := by
  induction text with
  | nil => exact .nil
  | cons c text ih => exact .scalar c ih

theorem decodeLossy_of_decode? {text : List Char} (hdecode : decode? bytes = some text) :
    decodeLossy bytes = text := by
  rw [decodeLossy_eq_iff, ← encode_of_decode? hdecode]
  exact repaired_encode text

namespace Repaired

variable {text : List Char}

/-- Every character that is shown is a mark, or stands in the bytes. -/
theorem within_of_mem (hrepaired : Repaired bytes text) {c : Char} (hmem : c ∈ text) :
    c = replacement ∨ String.utf8EncodeChar c <:+: bytes := by
  induction hrepaired with
  | nil => cases hmem
  | scalar first hrest ih =>
      rcases List.mem_cons.mp hmem with rfl | hmem
      · exact Or.inr (List.prefix_append _ _).isInfix
      · exact (ih hmem).imp_right fun hwithin => hwithin.trans (List.suffix_append _ _).isInfix
  | malformed hpart hrest ih =>
      rcases List.mem_cons.mp hmem with hmark | hmem
      · exact Or.inl hmark
      · exact (ih hmem).imp_right fun hwithin => hwithin.trans (List.suffix_append _ _).isInfix

/-- Where no mark is shown the bytes are text. -/
theorem eq_encode (hrepaired : Repaired bytes text) (hmark : replacement ∉ text) :
    bytes = encode text := by
  induction hrepaired with
  | nil => rfl
  | scalar c hrest ih => rw [encode_cons, ih fun hmem => hmark (List.mem_cons_of_mem _ hmem)]
  | malformed => exact absurd (List.mem_cons_self ..) hmark

end Repaired

end Decommission.Utf8
