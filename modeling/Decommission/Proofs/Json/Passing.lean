import Decommission.Proofs.Json.Numbers

/-!
# Passing over values

Whatever a value says, it is passed over up to its end.  A value of `n` characters takes less than
`2 * n` steps, so the steps never run out.
-/

namespace Decommission.Json

variable {cursor : Cursor} {text rest : List Char}

/-! ## How values begin -/

/-- The first character of a value. -/
def Tree.OpensWith (c : Char) : Tree → Prop
  | .null => c = 'n'
  | .boolean true => c = 't'
  | .boolean false => c = 'f'
  | .number _ => c = '-' ∨ (Text.digitValue? c).isSome = true
  | .text _ => c = '"'
  | .list _ => c = '['
  | .object _ => c = '\x7b'

theorem Magnitude.head {digits : List Nat} {plain : Bool}
    (hmagnitude : Magnitude text digits plain rest) :
    ∃ c more, text = c :: more ∧ (Text.digitValue? c).isSome = true := by
  cases hmagnitude with
  | parts hdigits hwhole hfraction hpower =>
      cases hdigits with
      | nil => exact absurd rfl hwhole.1
      | cons hdigit hmore => exact ⟨_, _, rfl, by rw [hdigit]; rfl⟩

theorem Written.head {tree : Tree} (hvalue : Written text (.value tree) rest) :
    ∃ c more, text = c :: more ∧ tree.OpensWith c := by
  cases hvalue with
  | null | yes | no | list | object => exact ⟨_, _, rfl, rfl⟩
  | number hnumber hfollows =>
      cases hnumber with
      | natural hmagnitude | real hmagnitude =>
          obtain ⟨c, more, htext, hdigit⟩ := hmagnitude.head
          exact ⟨c, more, htext, Or.inr hdigit⟩
      | negative => exact ⟨_, _, rfl, Or.inl rfl⟩
  | text hquoted =>
      cases hquoted with
      | whole | broken => exact ⟨_, _, rfl, rfl⟩

/-- A digit is none of the characters that are no digits. -/
theorem ne_of_digit {c other : Char} (hdigit : (Text.digitValue? c).isSome = true)
    (hother : Text.digitValue? other = none) : c ≠ other := by
  rintro rfl
  rw [hother] at hdigit
  cases hdigit

/-- The characters that values begin with, apart from digits. -/
def openings : List Char := ['n', 't', 'f', '-', '"', '[', '\x7b']

theorem Tree.OpensWith.mem {c : Char} {tree : Tree} (hopens : tree.OpensWith c) :
    c ∈ openings ∨ (Text.digitValue? c).isSome = true := by
  match tree with
  | .null | .text _ | .list _ | .object _ | .boolean true | .boolean false =>
      obtain rfl := hopens
      exact Or.inl (by decide)
  | .number _ =>
      rcases hopens with rfl | hdigit
      · exact Or.inl (by decide)
      · exact Or.inr hdigit

theorem Tree.OpensWith.not_space {c : Char} {tree : Tree} (hopens : tree.OpensWith c) :
    Cursor.isSpace c = false := by
  rcases hopens.mem with hmem | hdigit
  · have hall : (openings.all fun c => !Cursor.isSpace c) = true := by decide
    simpa using List.all_eq_true.mp hall c hmem
  · simp only [Cursor.isSpace, Bool.or_eq_false_iff, decide_eq_false_iff_not]
    exact ⟨⟨⟨ne_of_digit hdigit rfl, ne_of_digit hdigit rfl⟩, ne_of_digit hdigit rfl⟩,
      ne_of_digit hdigit rfl⟩

theorem Tree.OpensWith.ne_closing {c : Char} {tree : Tree} (hopens : tree.OpensWith c) :
    c ≠ ']' ∧ c ≠ '\x7d' := by
  rcases hopens.mem with hmem | hdigit
  · have hall : (openings.all fun c => c ≠ ']' ∧ c ≠ '\x7d') = true := by decide
    simpa using List.all_eq_true.mp hall c hmem
  · exact ⟨ne_of_digit hdigit rfl, ne_of_digit hdigit rfl⟩

theorem Written.rest_skipSpace {tree : Tree} (hvalue : Written text (.value tree) rest)
    (hgap : Gap cursor.rest text) : cursor.skipSpace.rest = text := by
  obtain ⟨c, more, rfl, hopens⟩ := hvalue.head
  refine Cursor.rest_skipSpace hgap ?_
  rintro d ⟨⟩
  exact hopens.not_space

/-! ## Lengths -/

theorem Gap.length_le (hgap : Gap text rest) : rest.length ≤ text.length := by
  induction hgap with
  | nil => exact Nat.le_refl _
  | cons hspace hgap ih => exact Nat.le_succ_of_le ih

theorem Passable.length_lt (hpassable : Passable text rest) : rest.length < text.length := by
  induction hpassable with
  | nil => exact Nat.lt_succ_self _
  | plain hquote hbackslash hcontrol hmore ih => exact Nat.lt_succ_of_lt ih
  | letter hletter hmore ih => exact Nat.lt_succ_of_lt (Nat.lt_succ_of_lt ih)
  | unit hunit hmore ih =>
      have hless := hunit.length_lt
      simp only [List.length_cons]
      omega

theorem Quoted.length_lt {content : Option String} (hquoted : Quoted text content rest) :
    rest.length < text.length := by
  cases hquoted with
  | whole hcharacters => exact Nat.lt_succ_of_lt hcharacters.passable.length_lt
  | broken hpassable hbroken => exact Nat.lt_succ_of_lt hpassable.length_lt

theorem Digits.length_eq {digits : List Nat} (hdigits : Digits text digits rest) :
    rest.length + digits.length = text.length := by
  induction hdigits with
  | nil => rfl
  | cons hdigit hmore ih =>
      simp only [List.length_cons]
      omega

theorem Magnitude.length_lt {digits : List Nat} {plain : Bool}
    (hmagnitude : Magnitude text digits plain rest) : rest.length < text.length := by
  cases hmagnitude with
  | parts hdigits hwhole hfraction hpower =>
      have hlength := hdigits.length_eq
      have hsome := List.length_pos_iff.mpr hwhole.1
      have hpoint : ∀ {text has rest}, Fraction text has rest → rest.length ≤ text.length := by
        rintro _ _ _ (_ | ⟨hplaces, -⟩)
        · exact Nat.le_refl _
        · have hplaces := hplaces.length_eq
          simp only [List.length_cons]
          omega
      have hraised : ∀ {text has rest}, Power text has rest → rest.length ≤ text.length := by
        rintro _ _ _ (_ | ⟨-, hsign, hplaces, -⟩)
        · exact Nat.le_refl _
        · have hplaces := hplaces.length_eq
          cases hsign <;> simp only [List.length_cons] at hplaces ⊢ <;> omega
      have hfraction := hpoint hfraction
      have hpower := hraised hpower
      omega

theorem Number.length_lt {natural : Option Nat} (hnumber : Number text natural rest) :
    rest.length < text.length := by
  cases hnumber with
  | natural hmagnitude | real hmagnitude => exact hmagnitude.length_lt
  | negative hmagnitude => exact Nat.lt_succ_of_lt hmagnitude.length_lt

/-! ## Heads -/

theorem map_readWord (word : List Char) (hrest : cursor.rest = word ++ rest) :
    ∃ after, (readWord word cursor).map Head.whole = .ok (.whole after) ∧ after.rest = rest := by
  obtain ⟨after, hread, hafter⟩ := readWord_of_append word hrest
  exact ⟨after, by rw [hread]; rfl, hafter⟩

/-- A number is passed over, whether or not it has a sign. -/
theorem map_skipNumber {natural : Option Nat} {c : Char} {more : List Char}
    (hnumber : Number text natural rest) (hfollows : Follows rest) (hrest : cursor.rest = c :: more)
    (htext : text = c :: more) :
    ∃ after, (if c = '-' then (skipNumber cursor.next).map Head.whole
        else (skipNumber cursor).map Head.whole) = .ok (.whole after) ∧ after.rest = rest := by
  cases hnumber with
  | natural hmagnitude | real hmagnitude =>
      obtain ⟨d, others, hd, hdigit⟩ := hmagnitude.head
      obtain ⟨rfl, rfl⟩ := List.cons.inj (htext.symm.trans hd)
      rw [htext, ← hrest] at hmagnitude
      obtain ⟨after, hskip, hafter⟩ := skipNumber_of_magnitude hmagnitude hfollows
      rw [if_neg (ne_of_digit hdigit rfl), hskip]
      exact ⟨after, rfl, hafter⟩
  | negative hmagnitude =>
      obtain ⟨rfl, rfl⟩ := List.cons.inj htext
      rw [← Cursor.rest_next hrest] at hmagnitude
      obtain ⟨after, hskip, hafter⟩ := skipNumber_of_magnitude hmagnitude hfollows
      rw [if_pos rfl, hskip]
      exact ⟨after, rfl, hafter⟩

theorem skipHead_of_leaf {tree : Tree} (hvalue : Written text (.value tree) rest)
    (hlist : ∀ trees, tree ≠ .list trees) (hobject : ∀ members, tree ≠ .object members)
    (hgap : Gap cursor.rest text) :
    ∃ after, skipHead cursor = .ok (.whole after) ∧ after.rest = rest := by
  have hrest := hvalue.rest_skipSpace hgap
  unfold skipHead
  dsimp only
  cases hvalue with
  | null =>
      rw [hrest]
      exact map_readWord "ull".toList (Cursor.rest_next hrest)
  | yes =>
      rw [hrest]
      exact map_readWord "rue".toList (Cursor.rest_next hrest)
  | no =>
      rw [hrest]
      exact map_readWord "alse".toList (Cursor.rest_next hrest)
  | number hnumber hfollows =>
      obtain ⟨c, more, htext, hopens⟩ := (Written.number hnumber hfollows).head
      have hskip := map_skipNumber hnumber hfollows (hrest.trans htext) htext
      rw [hrest, htext]
      dsimp only
      rcases hopens with rfl | hdigit
      · exact hskip
      · rw [if_neg (ne_of_digit hdigit rfl)] at hskip
        rw [if_neg (ne_of_digit hdigit rfl), if_neg (ne_of_digit hdigit rfl),
          if_neg (ne_of_digit hdigit rfl), if_neg (ne_of_digit hdigit rfl), if_pos hdigit]
        exact hskip
  | text hquoted =>
      obtain ⟨c, more, rfl, rfl⟩ := (Written.text hquoted).head
      rw [← Cursor.rest_next hrest] at hquoted
      obtain ⟨after, hskip, hafter⟩ := skipQuoted_of_quoted hquoted
      rw [hrest]
      refine ⟨after, ?_, hafter⟩
      show (skipQuoted cursor.skipSpace.next).map Head.whole = _
      rw [hskip]
      rfl
  | list => exact absurd rfl (hlist _)
  | object => exact absurd rfl (hobject _)

theorem skipHead_of_bracket {enclosing : Enclosing} {c : Char}
    (hc : c = match enclosing with | .list => '[' | .object => '\x7b')
    (hrest : cursor.skipSpace.rest = c :: rest) :
    skipHead cursor = .ok (.opened enclosing cursor.skipSpace.next) := by
  unfold skipHead
  dsimp only
  rw [hrest, hc]
  cases enclosing <;> rfl

/-! ## Keys -/

theorem readColon_of_gap {colon : List Char} (hgap : Gap cursor.rest (':' :: colon)) :
    ∃ after, readColon cursor = .ok after ∧ after.rest = colon := by
  have hrest := Cursor.rest_skipSpace hgap (by rintro c ⟨⟩; rfl)
  unfold readColon
  dsimp only
  rw [hrest]
  exact ⟨_, rfl, Cursor.rest_next hrest⟩

theorem Quoted.head {content : Option String} (hquoted : Quoted text content rest) :
    ∃ more, text = '"' :: more := by
  cases hquoted <;> exact ⟨_, rfl⟩

theorem skipKey_of_quoted {content : Option String} {key colon inner : List Char}
    (hgap : Gap cursor.rest key) (hkey : Quoted key content colon)
    (hcolon : Gap colon (':' :: inner)) :
    ∃ after, skipKey cursor = .ok after ∧ after.rest = inner := by
  obtain ⟨more, rfl⟩ := hkey.head
  have hrest := Cursor.rest_skipSpace hgap (by rintro c ⟨⟩; rfl)
  rw [← Cursor.rest_next hrest] at hkey
  obtain ⟨behind, hskip, hbehind⟩ := skipQuoted_of_quoted hkey
  rw [← hbehind] at hcolon
  obtain ⟨after, hread, hafter⟩ := readColon_of_gap hcolon
  refine ⟨after, ?_, hafter⟩
  unfold skipKey
  dsimp only
  rw [hrest]
  dsimp only [bind, Except.bind]
  rw [hskip]
  exact hread

/-! ## Steps of the walk -/

section Steps

variable {first : Bool} (fuel : Nat) (enclosing : Enclosing) (stack : List Enclosing)

/-- What is awaited between brackets. -/
def Awaiting.inside : Bool → Awaiting
  | true => .firstOrEnd
  | false => .moreOrEnd

/-- Passes over a key, if there has to be one, and goes on with the value. -/
def skipInside (cursor : Cursor) : Except ReadError Cursor := do
  let cursor ← if enclosing = .object then skipKey cursor else .ok cursor
  skipFrom fuel .value (enclosing :: stack) cursor

theorem skipFrom_inside {c : Char} (hrest : cursor.skipSpace.rest = c :: rest) :
    skipFrom (fuel + 1) (.inside first) (enclosing :: stack) cursor =
      if c = ',' ∧ first = false then skipInside fuel enclosing stack cursor.skipSpace.next
      else if c = enclosing.closing then skipFrom fuel .moreOrEnd stack cursor.skipSpace.next
      else if first = false then cursor.skipSpace.failNext enclosing.unfinished
      else skipInside fuel enclosing stack cursor.skipSpace := by
  cases first with
  | true | false =>
      rw [Awaiting.inside, skipFrom]
      · dsimp only
        rw [hrest]
        simp [skipInside]
      · simp

theorem skipFrom_of_closing (hgap : Gap cursor.rest (enclosing.closing :: rest)) :
    ∃ after, after.rest = rest ∧
      skipFrom (fuel + 1) (.inside first) (enclosing :: stack) cursor =
        skipFrom fuel .moreOrEnd stack after := by
  have hclosing : Cursor.isSpace enclosing.closing = false ∧ enclosing.closing ≠ ',' := by
    cases enclosing <;> decide
  have hrest := Cursor.rest_skipSpace hgap (by rintro c ⟨⟩; exact hclosing.1)
  refine ⟨_, Cursor.rest_next hrest, ?_⟩
  rw [skipFrom_inside _ _ _ hrest, if_neg (fun hcomma => hclosing.2 hcomma.1), if_pos rfl]

/-- In front of an element or a member the walk goes on inside. -/
theorem skipFrom_of_lead {c : Char} {more : List Char} (hlead : Lead first cursor.rest (c :: more))
    (hspace : Cursor.isSpace c = false) (hclosing : c ≠ enclosing.closing) :
    ∃ behind, Gap behind.rest (c :: more) ∧
      skipFrom (fuel + 1) (.inside first) (enclosing :: stack) cursor =
        skipInside fuel enclosing stack behind := by
  cases hlead with
  | first hgap =>
      have hrest := Cursor.rest_skipSpace hgap (by rintro d ⟨⟩; exact hspace)
      refine ⟨cursor.skipSpace, Gap.of_eq hrest, ?_⟩
      rw [skipFrom_inside _ _ _ hrest, if_neg (by simp), if_neg hclosing, if_neg (by simp)]
  | comma hgap hmore =>
      have hrest := Cursor.rest_skipSpace hgap (by rintro d ⟨⟩; rfl)
      refine ⟨cursor.skipSpace.next, Cursor.rest_next hrest ▸ hmore, ?_⟩
      rw [skipFrom_inside _ _ _ hrest, if_pos ⟨rfl, rfl⟩]

end Steps

/-! ## The walk -/

/-- What is awaited at the beginning of a phrase. -/
def Phrase.awaiting : Phrase → Awaiting
  | .value _ => .value
  | .elements first _ | .members first _ => .inside first

/-- What is open at the beginning of a phrase. -/
def Phrase.opened (stack : List Enclosing) : Phrase → List Enclosing
  | .value _ => stack
  | .elements _ _ => .list :: stack
  | .members _ _ => .object :: stack

/-- A phrase is passed over in so many steps. -/
def Phrase.PassedIn (phrase : Phrase) (cost : Nat) (text rest : List Char) : Prop :=
  ∀ (fuel : Nat) (stack : List Enclosing) (cursor : Cursor), Gap cursor.rest text →
    ∃ after, after.rest = rest ∧
      skipFrom (fuel + cost) phrase.awaiting (phrase.opened stack) cursor =
        skipFrom fuel .moreOrEnd stack after

section Walk

variable {tree : Tree} {first : Bool} {cost : Nat}

theorem passedIn_of_leaf (hvalue : Written text (.value tree) rest)
    (hlist : ∀ trees, tree ≠ .list trees) (hobject : ∀ members, tree ≠ .object members) :
    (Phrase.value tree).PassedIn 1 text rest := by
  intro fuel stack cursor hgap
  obtain ⟨after, hhead, hafter⟩ := skipHead_of_leaf hvalue hlist hobject hgap
  refine ⟨after, hafter, ?_⟩
  rw [Phrase.awaiting, Phrase.opened, skipFrom, hhead]
  rfl

theorem passedIn_of_bracket (enclosing : Enclosing) {c : Char} {phrase : Phrase}
    (hc : c = match enclosing with | .list => '[' | .object => '\x7b')
    (hawaiting : phrase.awaiting = .inside true)
    (hopened : ∀ stack, phrase.opened stack = enclosing :: stack)
    (hinside : phrase.PassedIn cost text rest) :
    (Phrase.value tree).PassedIn (cost + 1) (c :: text) rest := by
  intro fuel stack cursor hgap
  have hspace : Cursor.isSpace c = false := by
    rw [hc]
    cases enclosing <;> rfl
  have hrest := Cursor.rest_skipSpace hgap (by rintro d ⟨⟩; exact hspace)
  obtain ⟨after, hafter, hskip⟩ := hinside fuel stack cursor.skipSpace.next
    (.of_eq (Cursor.rest_next hrest))
  refine ⟨after, hafter, ?_⟩
  rw [hawaiting, hopened] at hskip
  rw [Phrase.awaiting, Phrase.opened, ← Nat.add_assoc, skipFrom, skipHead_of_bracket hc hrest]
  exact hskip

theorem passedIn_of_closing (enclosing : Enclosing) {phrase : Phrase}
    (hawaiting : phrase.awaiting = .inside first)
    (hopened : ∀ stack, phrase.opened stack = enclosing :: stack)
    (hclosing : Gap text (enclosing.closing :: rest)) : phrase.PassedIn 1 text rest := by
  intro fuel stack cursor hgap
  rw [hawaiting, hopened]
  exact skipFrom_of_closing fuel enclosing stack (hgap.trans hclosing)

theorem Lead.after_gap {before : List Char} (hgap : Gap before text)
    (hlead : Lead first text rest) :
    Lead first before rest := by
  cases hlead with
  | first hlead => exact .first (hgap.trans hlead)
  | comma hlead hmore => exact .comma (hgap.trans hlead) hmore

theorem Lead.length_le (hlead : Lead first text rest) : rest.length ≤ text.length := by
  cases hlead with
  | first hgap => exact hgap.length_le
  | comma hgap hmore =>
      have hless := hgap.length_le
      have hle := hmore.length_le
      simp only [List.length_cons] at hless
      omega

theorem passedIn_of_element {trees : List Tree} {value more : List Char} {others : Nat}
    (hlead : Lead first text value) (hvalue : Written value (.value tree) more)
    (hone : (Phrase.value tree).PassedIn cost value more)
    (hmore : (Phrase.elements false trees).PassedIn others more rest) :
    (Phrase.elements first (tree :: trees)).PassedIn (others + cost + 1) text rest := by
  intro fuel stack cursor hgap
  obtain ⟨c, text, rfl, hopens⟩ := hvalue.head
  obtain ⟨behind, hbehind, hskip⟩ := skipFrom_of_lead (fuel + others + cost) .list stack
    (hlead.after_gap hgap) hopens.not_space hopens.ne_closing.1
  obtain ⟨middle, hmiddle, hvalue⟩ := hone (fuel + others) (.list :: stack) behind hbehind
  obtain ⟨after, hafter, hothers⟩ := hmore fuel stack middle (.of_eq hmiddle)
  refine ⟨after, hafter, ?_⟩
  rw [← Nat.add_assoc, ← Nat.add_assoc]
  exact hskip.trans (hvalue.trans hothers)

theorem passedIn_of_member {members : List (Option String × Tree)} {name : Option String}
    {key colon inner value more : List Char} {others : Nat} (hlead : Lead first text key)
    (hkey : Quoted key name colon) (hcolon : Gap colon (':' :: inner)) (hinner : Gap inner value)
    (hone : (Phrase.value tree).PassedIn cost value more)
    (hmore : (Phrase.members false members).PassedIn others more rest) :
    (Phrase.members first ((name, tree) :: members)).PassedIn (others + cost + 1) text rest := by
  intro fuel stack cursor hgap
  obtain ⟨quoted, hquoted⟩ := hkey.head
  rw [hquoted] at hlead
  obtain ⟨behind, hbehind, hskip⟩ := skipFrom_of_lead (fuel + others + cost) .object
    stack (hlead.after_gap hgap) rfl (by decide)
  rw [← hquoted] at hbehind
  obtain ⟨front, hfront, hread⟩ := skipKey_of_quoted hbehind hkey hcolon
  rw [← hread] at hinner
  obtain ⟨middle, hmiddle, hvalue⟩ := hone (fuel + others) (.object :: stack) front hinner
  obtain ⟨after, hafter, hothers⟩ := hmore fuel stack middle (.of_eq hmiddle)
  refine ⟨after, hafter, ?_⟩
  rw [← Nat.add_assoc, ← Nat.add_assoc]
  refine hskip.trans (Eq.trans ?_ (hvalue.trans hothers))
  rw [skipInside, if_pos rfl, hfront]
  rfl

/-- A phrase is passed over, in fewer than two steps for each of its characters. -/
theorem passedIn_of_written {phrase : Phrase} (hwritten : Written text phrase rest) :
    ∃ cost, cost + 1 + 2 * rest.length ≤ 2 * text.length ∧ phrase.PassedIn cost text rest := by
  have hleaf : ∀ {text rest : List Char} {tree : Tree}, Written text (.value tree) rest →
      (∀ trees, tree ≠ .list trees) → (∀ members, tree ≠ .object members) →
      rest.length < text.length → ∃ cost, cost + 1 + 2 * rest.length ≤ 2 * text.length ∧
        (Phrase.value tree).PassedIn cost text rest := by
    intro text rest tree hvalue hlist hobject hless
    exact ⟨1, by omega, passedIn_of_leaf hvalue hlist hobject⟩
  induction hwritten with
  | null => exact hleaf .null nofun nofun (by simp only [List.length_cons]; omega)
  | yes => exact hleaf .yes nofun nofun (by simp only [List.length_cons]; omega)
  | no => exact hleaf .no nofun nofun (by simp only [List.length_cons]; omega)
  | number hnumber hfollows =>
      exact hleaf (.number hnumber hfollows) nofun nofun hnumber.length_lt
  | text hquoted => exact hleaf (.text hquoted) nofun nofun hquoted.length_lt
  | list helements ih =>
      obtain ⟨cost, hcost, hinside⟩ := ih
      refine ⟨cost + 1, ?_, passedIn_of_bracket .list rfl rfl (fun _ => rfl) hinside⟩
      simp only [List.length_cons]
      omega
  | object hmembers ih =>
      obtain ⟨cost, hcost, hinside⟩ := ih
      refine ⟨cost + 1, ?_,
        passedIn_of_bracket .object rfl rfl (fun _ => rfl) hinside⟩
      simp only [List.length_cons]
      omega
  | noElement hgap =>
      have hless := hgap.length_le
      simp only [List.length_cons] at hless
      exact ⟨1, by omega, passedIn_of_closing .list rfl (fun _ => rfl) hgap⟩
  | noMember hgap =>
      have hless := hgap.length_le
      simp only [List.length_cons] at hless
      exact ⟨1, by omega, passedIn_of_closing .object rfl (fun _ => rfl) hgap⟩
  | element hlead hvalue hmore ihvalue ihmore =>
      obtain ⟨cost, hcost, hone⟩ := ihvalue
      obtain ⟨others, hothers, hrest⟩ := ihmore
      have hless := hlead.length_le
      exact ⟨others + cost + 1, by omega, passedIn_of_element hlead hvalue hone hrest⟩
  | member hlead hkey hcolon hgap hvalue hmore ihvalue ihmore =>
      obtain ⟨cost, hcost, hone⟩ := ihvalue
      obtain ⟨others, hothers, hrest⟩ := ihmore
      have hless := hlead.length_le
      have hkeyless := hkey.length_lt
      have hcolonless := hcolon.length_le
      have hgapless := hgap.length_le
      simp only [List.length_cons] at hcolonless
      exact ⟨others + cost + 1, by omega, passedIn_of_member hlead hkey hcolon hgap hone hrest⟩

/-- Any value is passed over. -/
theorem skipValue_of_written (hgap : Gap cursor.rest text)
    (hvalue : Written text (.value tree) rest) :
    ∃ after, skipValue cursor = .ok after ∧ after.rest = rest := by
  obtain ⟨cost, hcost, hpassed⟩ := passedIn_of_written hvalue
  have hless := hgap.length_le
  obtain ⟨fuel, hfuel⟩ : ∃ fuel, cursor.fuel = fuel + 1 + cost :=
    ⟨cursor.fuel - 1 - cost, by rw [Cursor.fuel]; omega⟩
  obtain ⟨after, hafter, hskip⟩ := hpassed (fuel + 1) [] cursor hgap
  refine ⟨after, ?_, hafter⟩
  rw [skipValue, hfuel]
  exact hskip

end Walk

end Decommission.Json
