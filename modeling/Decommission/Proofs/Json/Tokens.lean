import Decommission.Proofs.Json.Written
import Decommission.Proofs.Results
import Mathlib.Tactic.SplitIfs

/-!
# Reading tokens

White space, words, strings and numbers are read as the grammar says.  What is left is always a
matter of the text alone; positions only serve the messages.
-/

namespace Decommission.Json

namespace Cursor

variable {cursor : Cursor} {c : Char} {text rest : List Char}

@[simp]
theorem fail_ne_ok {α : Type} (cursor : Cursor) (cause : Cause) (value : α) :
    cursor.fail cause ≠ .ok value := by
  simp [fail]

@[simp]
theorem failNext_ne_ok {α : Type} (cursor : Cursor) (cause : Cause) (value : α) :
    cursor.failNext cause ≠ .ok value := by
  simp [failNext]

theorem rest_next (hrest : cursor.rest = c :: text) : cursor.next.rest = text := by
  rw [next, hrest]

/-! ## White space -/

theorem rest_spaceFrom (hgap : Gap text rest) (hstop : ∀ c ∈ rest.head?, isSpace c = false)
    (position : Position) : (spaceFrom position text).rest = rest := by
  induction hgap generalizing position with
  | @nil text =>
      cases text with
      | nil => rfl
      | cons c text =>
          have hspace := hstop c rfl
          rw [spaceFrom, hspace]
          rfl
  | cons hspace hgap ih =>
      rw [spaceFrom, if_pos hspace]
      exact ih hstop _

theorem rest_skipSpace (hgap : Gap cursor.rest rest)
    (hstop : ∀ c ∈ rest.head?, isSpace c = false) : cursor.skipSpace.rest = rest :=
  rest_spaceFrom hgap hstop cursor.position

end Cursor

theorem Gap.of_eq {text rest : List Char} (heq : text = rest) : Gap text rest :=
  heq ▸ .nil

theorem Gap.trans {text middle rest : List Char} (hfirst : Gap text middle)
    (hsecond : Gap middle rest) : Gap text rest := by
  induction hfirst with
  | nil => exact hsecond
  | cons hspace _ ih => exact .cons hspace (ih hsecond)

/-! ## Words -/

theorem readWord_of_append (word : List Char) {cursor : Cursor} {rest : List Char}
    (hrest : cursor.rest = word ++ rest) :
    ∃ after, readWord word cursor = .ok after ∧ after.rest = rest := by
  induction word generalizing cursor with
  | nil => exact ⟨cursor, rfl, hrest⟩
  | cons expected word ih =>
      rw [List.cons_append] at hrest
      rw [readWord, hrest]
      dsimp only
      rw [if_pos rfl]
      exact ih (Cursor.rest_next hrest)

/-! ## Strings -/

section Strings

variable {cursor : Cursor} {text value rest : List Char}

theorem readHex_of_codeUnit {unit : Nat} (hunit : CodeUnit cursor.rest unit rest) :
    ∃ after, readHex cursor = .ok (unit, after) ∧ after.rest = rest := by
  obtain ⟨rest', position⟩ := cursor
  cases hunit with
  | digits ha hb hc hd =>
      unfold readHex
      dsimp only
      rw [ha, hb, hc, hd]
      exact ⟨_, rfl, rfl⟩

theorem codeUnit_of_readHex {unit : Nat} {after : Cursor}
    (hread : readHex cursor = .ok (unit, after)) :
    CodeUnit cursor.rest unit after.rest := by
  obtain ⟨rest', position⟩ := cursor
  unfold readHex at hread
  dsimp only at hread
  split at hread
  · split at hread
    · rename_i ha hb hc hd
      cases hread
      exact .digits ha hb hc hd
    · cases hread
  · cases hread

theorem CodeUnit.length_lt {unit : Nat} (hunit : CodeUnit text unit rest) :
    rest.length < text.length := by
  cases hunit
  simp only [List.length_cons]
  omega

theorem readPairMark_of_cons {mark : Char} (hrest : cursor.rest = mark :: rest) :
    readPairMark mark cursor = .ok cursor.next := by
  rw [readPairMark, hrest]
  exact if_pos rfl

theorem rest_of_readPairMark {mark : Char} {after : Cursor}
    (hread : readPairMark mark cursor = .ok after) : cursor.rest = mark :: after.rest := by
  unfold readPairMark at hread
  split at hread
  · cases hread
  · rename_i c more hrest
    split at hread
    · rename_i hmark
      cases hread
      rw [hrest, hmark, Cursor.rest_next hrest]
    · exact absurd hread (cursor.failNext_ne_ok _ _)

theorem isTrailing_of_isLeading {unit : Nat} (hleading : isLeading unit = true) :
    isTrailing unit = false := by
  simp only [isLeading, Bool.and_eq_true, decide_eq_true_eq] at hleading
  simp only [isTrailing, Bool.and_eq_false_iff, decide_eq_false_iff_not]
  omega

/-- An escape by one code unit. -/
theorem readCodeUnits_of_unit {unit : Nat} (hunit : CodeUnit cursor.rest unit rest)
    (hleading : isLeading unit = false) (htrailing : isTrailing unit = false) :
    ∃ after, readCodeUnits cursor = .ok (Char.ofNat unit, after) ∧ after.rest = rest := by
  obtain ⟨after, hread, hrest⟩ := readHex_of_codeUnit hunit
  refine ⟨after, ?_, hrest⟩
  rw [readCodeUnits, hread]
  dsimp only [bind, Except.bind]
  rw [if_neg (by simp [htrailing]), if_neg (by simp [hleading])]

/-- An escape by a pair of surrogates. -/
theorem readCodeUnits_of_pair {first second : Nat} {middle : List Char}
    (hfirst : CodeUnit cursor.rest first ('\\' :: 'u' :: middle))
    (hleading : isLeading first = true) (hsecond : CodeUnit middle second rest)
    (htrailing : isTrailing second = true) :
    ∃ after, readCodeUnits cursor =
        .ok (Char.ofNat ((first - 0xD800) * 0x400 + (second - 0xDC00) + 0x10000), after) ∧
      after.rest = rest := by
  obtain ⟨behind, hread, hmark⟩ := readHex_of_codeUnit hfirst
  have hletter := Cursor.rest_next hmark
  have hmiddle := Cursor.rest_next hletter
  rw [← hmiddle] at hsecond
  obtain ⟨after, hread', hrest⟩ := readHex_of_codeUnit hsecond
  refine ⟨after, ?_, hrest⟩
  rw [readCodeUnits, hread]
  dsimp only [bind, Except.bind]
  rw [if_neg (by simp [isTrailing_of_isLeading hleading]), if_pos hleading,
    readPairMark_of_cons hmark]
  dsimp only
  rw [readPairMark_of_cons hletter]
  dsimp only
  rw [hread']
  dsimp only
  rw [if_pos htrailing]

theorem readEscape_of_escape {c : Char} (hescape : Escape cursor.rest c rest) :
    ∃ after, readEscape cursor = .ok (c, after) ∧ after.rest = rest := by
  generalize htext : cursor.rest = text at hescape
  cases hescape with
  | letter hletter =>
      refine ⟨cursor.next, ?_, Cursor.rest_next htext⟩
      rw [readEscape, htext]
      dsimp only
      rw [hletter]
  | unit hunit hleading htrailing =>
      rw [← Cursor.rest_next htext] at hunit
      rw [readEscape, htext]
      exact readCodeUnits_of_unit hunit hleading htrailing
  | pair hfirst hleading hsecond htrailing =>
      rw [← Cursor.rest_next htext] at hfirst
      rw [readEscape, htext]
      exact readCodeUnits_of_pair hfirst hleading hsecond htrailing

theorem escape_of_readCodeUnits {c : Char} {after : Cursor}
    (hread : readCodeUnits cursor = .ok (c, after)) : Escape ('u' :: cursor.rest) c after.rest := by
  unfold readCodeUnits at hread
  obtain ⟨⟨unit, behind⟩, hunit, hread⟩ := bind_eq_ok hread
  dsimp only at hread
  split at hread
  · exact absurd hread (behind.fail_ne_ok _ _)
  · rename_i htrailing
    split at hread
    · rename_i hleading
      obtain ⟨second, hmark, hread⟩ := bind_eq_ok hread
      obtain ⟨third, hletter, hread⟩ := bind_eq_ok hread
      obtain ⟨⟨last, final⟩, hlast, hread⟩ := bind_eq_ok hread
      dsimp only at hread
      split at hread
      · rename_i hsecond
        obtain ⟨rfl, rfl⟩ := Prod.mk.inj (Except.ok.inj hread)
        have hfirst := codeUnit_of_readHex hunit
        rw [rest_of_readPairMark hmark, rest_of_readPairMark hletter] at hfirst
        exact .pair hfirst hleading (codeUnit_of_readHex hlast) hsecond
      · exact absurd hread (final.fail_ne_ok _ _)
    · rename_i hleading
      cases hread
      exact .unit (codeUnit_of_readHex hunit) (by simpa using hleading) (by simpa using htrailing)

theorem escape_of_readEscape {c : Char} {after : Cursor}
    (hread : readEscape cursor = .ok (c, after)) :
    Escape cursor.rest c after.rest := by
  unfold readEscape at hread
  split at hread
  · exact absurd hread (cursor.fail_ne_ok _ _)
  · rename_i letter text htext
    split at hread
    · rename_i value hletter
      cases hread
      rw [Cursor.rest_next htext, htext]
      exact .letter hletter
    · split at hread
      · rename_i hu
        have hescape := escape_of_readCodeUnits hread
        rw [Cursor.rest_next htext] at hescape
        rw [htext, hu]
        exact hescape
      · exact absurd hread (cursor.failNext_ne_ok _ _)

theorem Escape.length_lt {c : Char} (hescape : Escape text c rest) : rest.length < text.length := by
  cases hescape with
  | letter hletter => exact Nat.lt_succ_self _
  | unit hunit hleading htrailing =>
      have hless := hunit.length_lt
      exact Nat.lt_succ_of_lt hless
  | pair hfirst hleading hsecond htrailing =>
      have hless := hfirst.length_lt
      have hmore := hsecond.length_lt
      simp only [List.length_cons] at hless ⊢
      omega

/-- The characters of a string are read. -/
theorem readCharacters_of_characters (hcharacters : Characters text value rest) {fuel : Nat}
    (seen : List Char) (hrest : cursor.rest = text) (hfuel : text.length ≤ fuel) :
    ∃ after, readCharacters fuel seen cursor = .ok (String.ofList (seen.reverse ++ value), after) ∧
      after.rest = rest := by
  induction hcharacters generalizing cursor fuel seen with
  | nil =>
      cases fuel with
      | zero => simp at hfuel
      | succ fuel =>
          refine ⟨cursor.next, ?_, Cursor.rest_next hrest⟩
          rw [readCharacters, hrest]
          simp
  | @plain c text value rest hquote hbackslash hcontrol hmore ih =>
      cases fuel with
      | zero => simp at hfuel
      | succ fuel =>
          obtain ⟨after, hread, hafter⟩ := ih (c :: seen) (Cursor.rest_next hrest)
            (Nat.le_of_succ_le_succ hfuel)
          refine ⟨after, ?_, hafter⟩
          rw [readCharacters, hrest]
          dsimp only
          rw [if_neg hquote, if_neg hbackslash, if_neg (by simp [hcontrol]), hread]
          simp
  | @escaped c text more value rest hescape hmore ih =>
      cases fuel with
      | zero => simp at hfuel
      | succ fuel =>
          have hless : more.length ≤ fuel := by
            have hless := hescape.length_lt
            simp only [List.length_cons] at hfuel
            omega
          rw [← Cursor.rest_next hrest] at hescape
          obtain ⟨behind, hread, hbehind⟩ := readEscape_of_escape hescape
          obtain ⟨after, hread', hafter⟩ := ih (c :: seen) hbehind hless
          refine ⟨after, ?_, hafter⟩
          rw [readCharacters, hrest]
          dsimp only
          rw [if_neg (by decide), if_pos rfl, hread]
          dsimp only [bind, Except.bind]
          rw [hread']
          simp

/-- What is read as a string has the characters of one. -/
theorem characters_of_readCharacters {fuel : Nat} {seen : List Char} {content : String}
    {after : Cursor} (hread : readCharacters fuel seen cursor = .ok (content, after)) :
    ∃ value, Characters cursor.rest value after.rest := by
  induction fuel generalizing cursor seen with
  | zero => exact absurd hread (cursor.fail_ne_ok _ _)
  | succ fuel ih =>
      rw [readCharacters] at hread
      split at hread
      · exact absurd hread (cursor.fail_ne_ok _ _)
      · rename_i c text htext
        split at hread
        · rename_i hquote
          cases hread
          rw [htext, hquote, Cursor.rest_next htext]
          exact ⟨[], .nil⟩
        · rename_i hquote
          split at hread
          · rename_i hbackslash
            obtain ⟨⟨escaped, behind⟩, hescape, hread⟩ := bind_eq_ok hread
            obtain ⟨value, hmore⟩ := ih hread
            have hescape := escape_of_readEscape hescape
            rw [Cursor.rest_next htext] at hescape
            rw [htext, hbackslash]
            exact ⟨escaped :: value, .escaped hescape hmore⟩
          · rename_i hbackslash
            split at hread
            · exact absurd hread (cursor.failNext_ne_ok _ _)
            · rename_i hcontrol
              obtain ⟨value, hmore⟩ := ih hread
              rw [Cursor.rest_next htext] at hmore
              rw [htext]
              exact ⟨c :: value, .plain hquote hbackslash (by simpa using hcontrol) hmore⟩

/-- A string without its opening quote is read if it is text, and only then. -/
theorem readQuoted_of_quoted {content : Option String}
    (hquoted : Quoted ('"' :: cursor.rest) content rest) :
    match content with
    | some content => ∃ after, readQuoted cursor = .ok (content, after) ∧ after.rest = rest
    | none => ∃ error, readQuoted cursor = .error error := by
  cases hquoted with
  | whole hcharacters =>
      have hfuel : cursor.rest.length ≤ cursor.fuel := by
        rw [Cursor.fuel]
        omega
      exact readCharacters_of_characters hcharacters [] rfl hfuel
  | broken hpassable hbroken =>
      cases hread : readQuoted cursor with
      | error error => exact ⟨error, rfl⟩
      | ok read =>
          obtain ⟨content, after⟩ := read
          obtain ⟨value, hcharacters⟩ := characters_of_readCharacters hread
          exact absurd hcharacters (hbroken value after.rest)

theorem skipEscape_of_letter {letter c : Char} (hrest : cursor.rest = letter :: rest)
    (hletter : escapeLetter? letter = some c) : skipEscape cursor = .ok cursor.next := by
  rw [skipEscape, hrest]
  dsimp only
  rw [hletter]
  rfl

theorem skipEscape_of_unit {unit : Nat} (hrest : cursor.rest = 'u' :: text)
    (hunit : CodeUnit text unit rest) :
    ∃ after, skipEscape cursor = .ok after ∧ after.rest = rest := by
  rw [← Cursor.rest_next hrest] at hunit
  obtain ⟨after, hread, hafter⟩ := readHex_of_codeUnit hunit
  refine ⟨after, ?_, hafter⟩
  rw [skipEscape, hrest]
  dsimp only
  rw [if_neg (by decide), if_pos rfl, hread]
  rfl

theorem skipCharacters_of_passable (hpassable : Passable text rest) {fuel : Nat}
    (hrest : cursor.rest = text) (hfuel : text.length ≤ fuel) :
    ∃ after, skipCharacters fuel cursor = .ok after ∧ after.rest = rest := by
  induction hpassable generalizing cursor fuel with
  | nil =>
      cases fuel with
      | zero => simp at hfuel
      | succ fuel =>
          refine ⟨cursor.next, ?_, Cursor.rest_next hrest⟩
          rw [skipCharacters, hrest]
          rfl
  | plain hquote hbackslash hcontrol hmore ih =>
      cases fuel with
      | zero => simp at hfuel
      | succ fuel =>
          rw [skipCharacters, hrest]
          dsimp only
          rw [if_neg hquote, if_neg hbackslash, if_neg (by simp [hcontrol])]
          exact ih (Cursor.rest_next hrest) (Nat.le_of_succ_le_succ hfuel)
  | letter hletter hmore ih =>
      cases fuel with
      | zero => simp at hfuel
      | succ fuel =>
          have hnext := Cursor.rest_next hrest
          rw [skipCharacters, hrest]
          dsimp only
          rw [if_neg (by decide), if_pos rfl, skipEscape_of_letter hnext hletter]
          refine ih (Cursor.rest_next hnext) ?_
          simp only [List.length_cons] at hfuel
          omega
  | unit hunit hmore ih =>
      cases fuel with
      | zero => simp at hfuel
      | succ fuel =>
          have hless := hunit.length_lt
          obtain ⟨behind, hskip, hbehind⟩ := skipEscape_of_unit (Cursor.rest_next hrest) hunit
          rw [skipCharacters, hrest]
          dsimp only
          rw [if_neg (by decide), if_pos rfl, hskip]
          refine ih hbehind ?_
          simp only [List.length_cons] at hfuel
          omega

theorem Characters.passable (hcharacters : Characters text value rest) : Passable text rest := by
  induction hcharacters with
  | nil => exact .nil
  | plain hquote hbackslash hcontrol hmore ih => exact .plain hquote hbackslash hcontrol ih
  | escaped hescape hmore ih =>
      cases hescape with
      | letter hletter => exact .letter hletter ih
      | unit hunit => exact .unit hunit ih
      | pair hfirst hleading hsecond => exact .unit hfirst (.unit hsecond ih)

/-- Any string is passed over. -/
theorem skipQuoted_of_quoted {content : Option String}
    (hquoted : Quoted ('"' :: cursor.rest) content rest) :
    ∃ after, skipQuoted cursor = .ok after ∧ after.rest = rest := by
  have hfuel : cursor.rest.length ≤ cursor.fuel := by
    rw [Cursor.fuel]
    omega
  cases hquoted with
  | whole hcharacters => exact skipCharacters_of_passable hcharacters.passable rfl hfuel
  | broken hpassable hbroken => exact skipCharacters_of_passable hpassable rfl hfuel

end Strings

end Decommission.Json
