import Decommission.Proofs.Json.Tokens

/-!
# Reading numbers

A number is passed over as far as it goes.  It is read as a natural one if it is written with its
digits alone and has 64 bits, and only then.
-/

namespace Decommission.Json

/-! ## Digits -/

section Digits

variable {text rest : List Char} {digits : List Nat}

theorem leadingDigits_of_digits (hdigits : Digits text digits rest)
    (hstop : ∀ c ∈ rest.head?, Text.digitValue? c = none) : leadingDigits text = digits := by
  induction hdigits with
  | @nil text =>
      cases text with
      | nil => rfl
      | cons c text =>
          rw [leadingDigits, hstop c rfl]
  | cons hdigit hmore ih =>
      rw [leadingDigits, hdigit]
      dsimp only
      rw [ih hstop]

theorem rest_skip_of_digits {cursor : Cursor} (hdigits : Digits cursor.rest digits rest) :
    (cursor.skip digits.length).rest = rest := by
  generalize htext : cursor.rest = text at hdigits
  induction hdigits generalizing cursor with
  | nil => exact htext
  | cons hdigit hmore ih => exact ih (Cursor.rest_next htext)

/-! ## What follows a number or a part of one -/

theorem Follows.head (hfollows : Follows rest) :
    ∀ c ∈ rest.head?, Text.digitValue? c = none ∧ c ≠ '.' ∧ c ≠ 'e' ∧ c ≠ 'E' := by
  intro c hc
  rcases hfollows c hc with hspace | rfl | rfl | rfl
  · simp only [Cursor.isSpace, Bool.or_eq_true, decide_eq_true_eq] at hspace
    rcases hspace with ((rfl | rfl) | rfl) | rfl <;> decide
  all_goals decide

theorem Power.head {hasPower : Bool} (hpower : Power text hasPower rest) (hfollows : Follows rest) :
    ∀ c ∈ text.head?, Text.digitValue? c = none ∧ c ≠ '.' := by
  cases hpower with
  | absent => exact fun c hc => ⟨(hfollows.head c hc).1, (hfollows.head c hc).2.1⟩
  | present hletter =>
      rintro c ⟨⟩
      rcases hletter with rfl | rfl <;> decide

theorem Fraction.head {hasFraction hasPower : Bool} {power : List Char}
    (hfraction : Fraction text hasFraction power) (hpower : Power power hasPower rest)
    (hfollows : Follows rest) : ∀ c ∈ text.head?, Text.digitValue? c = none := by
  cases hfraction with
  | absent => exact fun c hc => (hpower.head hfollows c hc).1
  | present =>
      rintro c ⟨⟩
      decide

end Digits

/-! ## Significands -/

theorem le_foldl (value : Nat) (digits : List Nat) :
    value ≤ digits.foldl (fun value digit => value * 10 + digit) value := by
  induction digits generalizing value with
  | nil => exact Nat.le_refl _
  | cons digit digits ih => exact Nat.le_trans (by omega) (ih (value * 10 + digit))

/-- Either all digits go in, or the number is out of range. -/
theorem significand_cases (value : Nat) (hvalue : value < UInt64.size) (digits : List Nat) :
    let number := digits.foldl (fun value digit => value * 10 + digit) value
    number < UInt64.size ∧ significand value digits = (number, []) ∨
      UInt64.size ≤ number ∧ (significand value digits).2.isEmpty = false := by
  induction digits generalizing value with
  | nil => exact Or.inl ⟨hvalue, rfl⟩
  | cons digit digits ih =>
      dsimp only
      rw [significand, List.foldl_cons]
      split
      · rename_i hnext
        exact ih _ hnext
      · rename_i hnext
        have hle := le_foldl (value * 10 + digit) digits
        exact Or.inr ⟨by omega, rfl⟩

/-! ## Passing over -/

section Passing

variable {cursor : Cursor} {text rest : List Char}

theorem skipExponent_of_digits {signed : List Char} {digits : List Nat}
    (hsign : Sign cursor.rest signed) (hdigits : Digits signed digits rest) (hsome : digits ≠ [])
    (hfollows : Follows rest) :
    ∃ after, skipExponent cursor = .ok after ∧ after.rest = rest := by
  have hleading := leadingDigits_of_digits hdigits fun c hc => (hfollows.head c hc).1
  have hempty : digits.isEmpty ≠ true := by simpa using hsome
  -- Behind the sign nothing is left to be looked at but the digits.
  have hskip : ∀ behind : Cursor, behind.rest = signed →
      ∃ after, (if (leadingDigits behind.rest).isEmpty then behind.failNext .invalidNumber
        else .ok (behind.skip (leadingDigits behind.rest).length)) = .ok after ∧
          after.rest = rest := by
    rintro behind rfl
    rw [hleading, if_neg hempty]
    exact ⟨_, rfl, rest_skip_of_digits hdigits⟩
  generalize htext : cursor.rest = text at hsign
  unfold skipExponent
  dsimp only
  cases hsign with
  | absent =>
      cases hdigits with
      | nil => exact absurd rfl hsome
      | @cons c digit more digits _ hdigit hmore =>
          have hplus : c ≠ '+' := by
            rintro rfl
            cases hdigit
          have hminus : c ≠ '-' := by
            rintro rfl
            cases hdigit
          split
          · rename_i heq
            rw [htext] at heq
            exact absurd (List.cons.inj heq).1 hplus
          · rename_i heq
            rw [htext] at heq
            exact absurd (List.cons.inj heq).1 hminus
          · exact hskip cursor htext
  | plus =>
      rw [htext]
      exact hskip _ (Cursor.rest_next htext)
  | minus =>
      rw [htext]
      exact hskip _ (Cursor.rest_next htext)

theorem skipAfterFraction_of_power {hasPower : Bool} (hpower : Power cursor.rest hasPower rest)
    (hfollows : Follows rest) :
    ∃ after, skipAfterFraction cursor = .ok after ∧ after.rest = rest := by
  generalize htext : cursor.rest = text at hpower
  unfold skipAfterFraction
  cases hpower with
  | absent =>
      have hhead := hfollows.head
      rw [htext]
      split
      · exact absurd rfl (hhead 'e' rfl).2.2.1
      · exact absurd rfl (hhead 'E' rfl).2.2.2
      · exact ⟨cursor, rfl, htext⟩
  | present hletter hsign hdigits hsome =>
      rw [htext]
      rw [← Cursor.rest_next htext] at hsign
      rcases hletter with rfl | rfl
      · exact skipExponent_of_digits hsign hdigits hsome hfollows
      · exact skipExponent_of_digits hsign hdigits hsome hfollows

theorem skipNumber_of_digits {digits : List Nat} (hdigits : leadingDigits cursor.rest = digits)
    (hwhole : IsWhole digits) :
    skipNumber cursor =
      match (cursor.skip digits.length).rest with
      | '.' :: _ =>
          let point := (cursor.skip digits.length).next
          let digits := leadingDigits point.rest
          if digits.isEmpty then point.failNext .invalidNumber
          else skipAfterFraction (point.skip digits.length)
      | _ => skipAfterFraction (cursor.skip digits.length) := by
  obtain ⟨hsome, hzero⟩ := hwhole
  unfold skipNumber
  rw [hdigits]
  split
  · exact absurd rfl hsome
  · have hnever := hzero rfl
    simp at hnever
  · rfl

/-- A number without a sign is passed over. -/
theorem skipNumber_of_magnitude {digits : List Nat} {plain : Bool}
    (hmagnitude : Magnitude cursor.rest digits plain rest) (hfollows : Follows rest) :
    ∃ after, skipNumber cursor = .ok after ∧ after.rest = rest := by
  generalize htext : cursor.rest = text at hmagnitude
  cases hmagnitude with
  | parts hdigits hwhole hfraction hpower =>
      have hleading := leadingDigits_of_digits hdigits (hfraction.head hpower hfollows)
      rw [← htext] at hdigits hleading
      have hrest := rest_skip_of_digits hdigits
      have hstop := hpower.head hfollows
      rw [skipNumber_of_digits hleading hwhole, hrest]
      cases hfraction with
      | absent =>
          split
          · exact absurd rfl (hstop '.' rfl).2
          · rw [← hrest] at hpower
            exact skipAfterFraction_of_power hpower hfollows
      | @present _ places _ hplaces hsome =>
          dsimp only
          have hpoint := Cursor.rest_next hrest
          have hleading := leadingDigits_of_digits hplaces fun c hc => (hstop c hc).1
          rw [← hpoint] at hplaces
          rw [hpoint, hleading, if_neg (by simpa using hsome)]
          rw [← rest_skip_of_digits hplaces] at hpower
          exact skipAfterFraction_of_power hpower hfollows

end Passing

/-! ## Reading -/

section Reading

variable {cursor after : Cursor} {mantissa : Mantissa} {found : Found}

/-- A number, but no natural one. -/
def Found.IsNoNatural : Found → Prop
  | .negative _ | .real _ => True
  | _ => False

theorem isNoNatural_of_real {power : Int}
    (hread : mantissa.real power cursor = .ok (found, after)) :
    found.IsNoNatural := by
  unfold Mantissa.real at hread
  split at hread
  · cases hread
    simp [Found.IsNoNatural]
  · exact absurd hread (cursor.fail_ne_ok _ _)

theorem isNoNatural_of_alone (hmantissa : mantissa.negative = true ∨ mantissa.whole = false)
    (hread : mantissa.alone cursor = .ok (found, after)) : found.IsNoNatural := by
  unfold Mantissa.alone at hread
  split at hread
  · rename_i hwhole
    split at hread
    · rename_i hpositive
      rcases hmantissa with hnegative | hwhole'
      · simp [hnegative] at hpositive
      · rw [hwhole'] at hwhole
        cases hwhole
    · split at hread
      · cases hread
        simp [Found.IsNoNatural]
      · exact isNoNatural_of_real hread
  · exact isNoNatural_of_real hread

theorem isNoNatural_of_readExponent (hread : readExponent mantissa cursor = .ok (found, after)) :
    found.IsNoNatural := by
  unfold readExponent at hread
  -- The sign only says where the digits begin.
  split at hread
  dsimp only at hread
  split at hread
  · split at hread
    · exact absurd hread (Cursor.fail_ne_ok _ _ _)
    · exact absurd hread (Cursor.failNext_ne_ok _ _ _)
  · split at hread
    · exact isNoNatural_of_real hread
    · split at hread
      · exact absurd hread (Cursor.fail_ne_ok _ _ _)
      · cases hread
        simp [Found.IsNoNatural]

theorem isNoNatural_of_readAfterFraction
    (hnatural : mantissa.negative = true ∨ mantissa.whole = false ∨
      ∃ c more, cursor.rest = c :: more ∧ (c = 'e' ∨ c = 'E'))
    (hread : readAfterFraction mantissa cursor = .ok (found, after)) : found.IsNoNatural := by
  unfold readAfterFraction at hread
  split at hread
  · exact isNoNatural_of_readExponent hread
  · exact isNoNatural_of_readExponent hread
  · rename_i hlower hupper
    rcases hnatural with hnegative | hwhole | ⟨c, more, hrest, rfl | rfl⟩
    · exact isNoNatural_of_alone (Or.inl hnegative) hread
    · exact isNoNatural_of_alone (Or.inr hwhole) hread
    · exact absurd hrest (hlower more)
    · exact absurd hrest (hupper more)

theorem isNoNatural_of_readAfterInteger
    (hnatural : mantissa.negative = true ∨ mantissa.whole = false ∨
      ∃ c more, cursor.rest = c :: more ∧ (c = '.' ∨ c = 'e' ∨ c = 'E'))
    (hread : readAfterInteger mantissa cursor = .ok (found, after)) : found.IsNoNatural := by
  unfold readAfterInteger at hread
  split at hread
  · dsimp only at hread
    split at hread
    · split at hread
      · exact absurd hread (Cursor.fail_ne_ok _ _ _)
      · exact absurd hread (Cursor.failNext_ne_ok _ _ _)
    · exact isNoNatural_of_readAfterFraction (Or.inr (Or.inl rfl)) hread
  · rename_i hpoint
    refine isNoNatural_of_readAfterFraction ?_ hread
    rcases hnatural with hnegative | hwhole | ⟨c, more, hrest, rfl | hpower⟩
    · exact Or.inl hnegative
    · exact Or.inr (Or.inl hwhole)
    · exact absurd hrest (hpoint more)
    · exact Or.inr (Or.inr ⟨c, more, hrest, hpower⟩)

theorem readNumber_of_digits (negative : Bool) {digits : List Nat}
    (hdigits : leadingDigits cursor.rest = digits) (hwhole : IsWhole digits) :
    readNumber negative cursor =
      readAfterInteger ⟨negative, (significand 0 digits).1, (significand 0 digits).2.length,
        (significand 0 digits).2.isEmpty⟩ (cursor.skip digits.length) := by
  obtain ⟨hsome, hzero⟩ := hwhole
  unfold readNumber
  rw [hdigits]
  split
  · exact absurd rfl hsome
  · have hnever := hzero rfl
    simp at hnever
  · rfl

variable {digits : List Nat} {plain : Bool} {rest : List Char}

theorem isNoNatural_of_negative (hread : readNumber true cursor = .ok (found, after)) :
    found.IsNoNatural := by
  unfold readNumber at hread
  split at hread
  · split at hread
    · exact absurd hread (Cursor.fail_ne_ok _ _ _)
    · exact absurd hread (Cursor.failNext_ne_ok _ _ _)
  · exact absurd hread (Cursor.failNext_ne_ok _ _ _)
  · exact isNoNatural_of_readAfterInteger (Or.inl rfl) hread

/-- A number with a fraction or a power is read as no natural one. -/
theorem isNoNatural_of_not_plain (hmagnitude : Magnitude cursor.rest digits false rest)
    (hfollows : Follows rest) (hread : readNumber false cursor = .ok (found, after)) :
    found.IsNoNatural := by
  generalize htext : cursor.rest = text at hmagnitude
  generalize hplain : false = plain at hmagnitude
  cases hmagnitude with
  | parts hdigits hwhole hfraction hpower =>
      have hleading := leadingDigits_of_digits hdigits (hfraction.head hpower hfollows)
      rw [← htext] at hdigits hleading
      have hrest := rest_skip_of_digits hdigits
      rw [readNumber_of_digits false hleading hwhole] at hread
      refine isNoNatural_of_readAfterInteger (Or.inr (Or.inr ?_)) hread
      rw [hrest]
      cases hfraction with
      | present hplaces hsome => exact ⟨_, _, rfl, Or.inl rfl⟩
      | absent =>
          cases hpower with
          | present hletter hsign hplaces hsome => exact ⟨_, _, rfl, Or.inr hletter⟩
          | absent => cases hplain

/-- Digits alone are read as a natural number if it has 64 bits, and only then. -/
theorem readNumber_of_plain (hmagnitude : Magnitude cursor.rest digits true rest)
    (hfollows : Follows rest) :
    valueOf digits < UInt64.size ∧
        (∃ after, readNumber false cursor = .ok (.unsigned (valueOf digits), after) ∧
          after.rest = rest) ∨
      UInt64.size ≤ valueOf digits ∧
        ∀ found after, readNumber false cursor = .ok (found, after) → found.IsNoNatural := by
  generalize htext : cursor.rest = text at hmagnitude
  generalize hplain : true = plain at hmagnitude
  cases hmagnitude with
  | parts hdigits hwhole hfraction hpower =>
      have hleading := leadingDigits_of_digits hdigits (hfraction.head hpower hfollows)
      rw [← htext] at hdigits hleading
      have hrest := rest_skip_of_digits hdigits
      cases hfraction with
      | present => cases hplain
      | absent =>
      cases hpower with
      | present => cases hplain
      | absent =>
      rw [readNumber_of_digits false hleading hwhole]
      rcases significand_cases 0 (by decide) digits with ⟨hsize, hall⟩ | ⟨hsize, hleft⟩
      · refine Or.inl ⟨hsize, _, ?_, hrest⟩
        have hhead := hfollows.head
        rw [hall, readAfterInteger, hrest]
        split
        · exact absurd rfl (hhead '.' rfl).2.1
        · rw [readAfterFraction, hrest]
          split
          · exact absurd rfl (hhead 'e' rfl).2.2.1
          · exact absurd rfl (hhead 'E' rfl).2.2.2
          · rfl
      · refine Or.inr ⟨hsize, fun found after hread => ?_⟩
        exact isNoNatural_of_readAfterInteger (Or.inr (Or.inl hleft)) hread

end Reading

end Decommission.Json
