import Decommission.Clock
import Decommission.Proofs.Text.Utf8
import Decommission.Text.Quoted
import Mathlib.Tactic.SplitIfs

/-!
# Text in one line

A text without a newline stays in one line, and a newline in a text is one byte of its own.  Numbers,
stamps and quotations have none.
-/

namespace Decommission

/-- The byte that ends a line. -/
def newline : UInt8 := 10

/-- The text stays in one line. -/
def IsOneLine (text : String) : Prop := '\n' ∉ text.toList

instance (text : String) : Decidable (IsOneLine text) :=
  inferInstanceAs (Decidable ('\n' ∉ text.toList))

@[simp]
theorem isOneLine_append {first second : String} :
    IsOneLine (first ++ second) ↔ IsOneLine first ∧ IsOneLine second := by
  simp [IsOneLine, not_or]

theorem isOneLine_ofList {text : List Char} : IsOneLine (String.ofList text) ↔ '\n' ∉ text := by
  simp [IsOneLine]

/-! ## Digits -/

theorem exists_digit_of_mem {base number : Nat} {c : Char} (hbase : 1 < base)
    (hmem : c ∈ Nat.toDigits base number) : ∃ digit < base, c = Nat.digitChar digit := by
  induction number using Nat.strongRecOn with
  | ind number ih =>
      by_cases hsmall : number < base
      · rw [Nat.toDigits_of_lt_base hsmall, List.mem_singleton] at hmem
        exact ⟨number, hsmall, hmem⟩
      · rw [Nat.toDigits_of_base_le hbase (Nat.le_of_not_lt hsmall), List.mem_append,
          List.mem_singleton] at hmem
        obtain hmem | hlast := hmem
        · exact ih _ (Nat.div_lt_self (by omega) hbase) hmem
        · exact ⟨number % base, Nat.mod_lt _ (by omega), hlast⟩

theorem digitChar_ne_newline : ∀ digit < 16, Nat.digitChar digit ≠ '\n' := by
  decide

theorem toUpper_digitChar_ne_newline : ∀ digit < 16, (Nat.digitChar digit).toUpper ≠ '\n' := by
  decide

theorem newline_not_mem_toDigits {base : Nat} (hbase : 1 < base) (hdigits : base ≤ 16)
    (number : Nat) : '\n' ∉ Nat.toDigits base number := by
  intro hmem
  obtain ⟨digit, hdigit, heq⟩ := exists_digit_of_mem hbase hmem
  exact digitChar_ne_newline digit (by omega) heq.symm

@[simp]
theorem isOneLine_nat (number : Nat) : IsOneLine number.repr := by
  rw [Nat.repr, isOneLine_ofList]
  exact newline_not_mem_toDigits (by decide) (by decide) number

@[simp]
theorem isOneLine_int (number : Int) : IsOneLine number.repr := by
  cases number with
  | ofNat number => exact isOneLine_nat number
  | negSucc number => exact isOneLine_append.mpr ⟨by decide, isOneLine_nat _⟩

theorem isOneLine_decimal (width number : Nat) : IsOneLine (Text.decimal width number) := by
  rw [Text.decimal, isOneLine_ofList, List.mem_append, List.mem_replicate, not_or]
  exact ⟨by simp, newline_not_mem_toDigits (by decide) (by decide) number⟩

theorem Stamp.isOneLine_display (stamp : Stamp) : IsOneLine stamp.display := by
  simp only [display, isOneLine_append, isOneLine_decimal, true_and, and_true]
  decide

/-! ## Quotations -/

theorem newline_not_mem_quotedChar (c : Char) : '\n' ∉ Text.quotedChar c := by
  have hescape : '\n' ∉ Text.codePointEscape c := by
    have hdigits := newline_not_mem_toDigits (show 1 < 16 by decide) (by decide) c.toNat
    simp [Text.codePointEscape, hdigits]
  unfold Text.quotedChar
  split_ifs with hnul htab hreturn hnewline
  all_goals first
    | exact hescape
    | decide
    | simp [Ne.symm hnewline]

theorem newline_not_mem_quotedPart (part : Utf8.Part) : '\n' ∉ Text.quotedPart part := by
  cases part with
  | scalar c => exact newline_not_mem_quotedChar c
  | malformed bytes =>
      intro hmem
      obtain ⟨byte, -, hbyte⟩ := List.mem_flatMap.mp hmem
      obtain ⟨c, hc, hupper⟩ : ∃ c ∈ (Text.hex 2 byte.toNat).toList, c.toUpper = '\n' := by
        simpa using hbyte
      rw [Text.hex, String.toList_ofList, List.mem_append, List.mem_replicate] at hc
      obtain ⟨-, rfl⟩ | hc := hc
      · exact absurd hupper (by decide)
      · obtain ⟨digit, hdigit, rfl⟩ := exists_digit_of_mem (by decide) hc
        exact toUpper_digitChar_ne_newline digit hdigit hupper

theorem isOneLine_quoted (text : String) : IsOneLine (Text.quoted text) := by
  rw [Text.quoted, isOneLine_ofList]
  simp [newline_not_mem_quotedChar]

theorem isOneLine_quotedBytes (bytes : Bytes) : IsOneLine (Text.quotedBytes bytes) := by
  rw [Text.quotedBytes, isOneLine_ofList]
  simp [newline_not_mem_quotedPart]

/-! ## Bytes -/

theorem count_newline_utf8EncodeChar (c : Char) :
    (String.utf8EncodeChar c).count newline = if c = '\n' then 1 else 0 := by
  have hsequence := Utf8.sequence_utf8EncodeChar c
  have hnewline : c = '\n' ↔ c.val.toNat = 10 := by
    rw [← Char.val_inj, ← UInt32.toNat_inj]
    rfl
  have hbyte (byte : UInt8) : byte = newline ↔ byte.toNat = 10 := UInt8.toNat_inj.symm
  simp only [hnewline]
  generalize String.utf8EncodeChar c = bytes at hsequence
  cases hsequence with
  | one ha hcode => simp [List.count_cons, hbyte, hcode]
  | two | three | four =>
      simp only [List.count_cons, List.count_nil, beq_iff_eq, hbyte]
      split_ifs <;> omega

/-- There are as many newlines in the bytes of a text as in the text. -/
theorem count_newline_bytesOf (text : String) :
    (bytesOf text).count newline = text.toList.count '\n' := by
  rw [bytesOf, Utf8.encode]
  induction text.toList with
  | nil => rfl
  | cons c text ih =>
      rw [List.flatMap_cons, List.count_append, ih, count_newline_utf8EncodeChar, List.count_cons,
        Nat.add_comm]
      simp

theorem bytesOf_append (first second : String) :
    bytesOf (first ++ second) = bytesOf first ++ bytesOf second := by
  simp [bytesOf, Utf8.encode]

theorem isOneLine_iff_newline_not_mem {text : String} :
    IsOneLine text ↔ newline ∉ bytesOf text := by
  rw [← List.count_eq_zero, count_newline_bytesOf, List.count_eq_zero]
  rfl

end Decommission
