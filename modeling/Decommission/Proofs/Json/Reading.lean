import Decommission.Json.Record
import Decommission.Proofs.Json.Passing

/-!
# Reading values

A reader of one kind of value takes a value for what it stands for: it reads up to the end of the
value, or fails if the value is of another kind.
-/

namespace Decommission.Json

variable {α β : Type} {cursor : Cursor} {text rest : List Char} {tree : Tree}

/-! ## What values stand for -/

namespace Tree

def text? : Tree → Option String
  | .text content => content
  | _ => none

def boolean? : Tree → Option Bool
  | .boolean value => some value
  | _ => none

/-- Only natural numbers of 64 bits are read. -/
def unsigned? : Tree → Option UInt64
  | .number (some value) => if value < UInt64.size then some (UInt64.ofNat value) else none
  | _ => none

def list? (element : Tree → Option α) : Tree → Option (List α)
  | .list trees => trees.mapM element
  | _ => none

end Tree

/-! ## Results -/

/-- A value has been read up to `rest`; without a value there is an error. -/
def Yields (value? : Option α) (rest : List Char) (result : Except ReadError (α × Cursor)) : Prop :=
  match value? with
  | some value => ∃ after, result = .ok (value, after) ∧ after.rest = rest
  | none => ∃ error, result = .error error

theorem Yields.bind {value? : Option α} {next? : α → Option β} {middle : List Char}
    {result : Except ReadError (α × Cursor)} {next : α × Cursor → Except ReadError (β × Cursor)}
    (hresult : Yields value? middle result)
    (hnext : ∀ value after, after.rest = middle → Yields (next? value) rest (next (value, after))) :
    Yields (value?.bind next?) rest (result >>= next) := by
  cases value? with
  | none =>
      obtain ⟨error, rfl⟩ := hresult
      exact ⟨error, rfl⟩
  | some value =>
      obtain ⟨after, rfl, hafter⟩ := hresult
      exact hnext value after hafter

theorem Yields.map {value? : Option α} {result : Except ReadError (α × Cursor)} (f : α → β)
    (hresult : Yields value? rest result) :
    Yields (value?.map f) rest (result >>= fun read => .ok (f read.1, read.2)) := by
  cases value? with
  | none =>
      obtain ⟨error, rfl⟩ := hresult
      exact ⟨error, rfl⟩
  | some value =>
      obtain ⟨after, rfl, hafter⟩ := hresult
      exact ⟨after, rfl, hafter⟩

/-- A word that stands for a value. -/
theorem yields_of_word {value : α} (word : List Char) (hrest : cursor.rest = word ++ rest) :
    Yields (some value) rest (readWord word cursor >>= fun after => .ok (value, after)) := by
  obtain ⟨after, hread, hafter⟩ := readWord_of_append word hrest
  refine ⟨after, ?_, hafter⟩
  rw [hread]
  rfl

/-- The string in front of a cursor, once its opening quote has been passed. -/
theorem yields_of_quoted {content : Option String} {more : List Char}
    (hrest : cursor.rest = '"' :: more) (hquoted : Quoted ('"' :: more) content rest) :
    Yields content rest (readQuoted cursor.next) := by
  rw [← Cursor.rest_next hrest] at hquoted
  have hread := readQuoted_of_quoted hquoted
  cases content with
  | none => exact hread
  | some content => exact hread

/-- A reader takes every value for what it stands for. -/
def Reads (read : Cursor → Except ReadError (α × Cursor)) (decode : Tree → Option α) : Prop :=
  ∀ ⦃cursor : Cursor⦄ ⦃text rest : List Char⦄ ⦃tree : Tree⦄, Gap cursor.rest text →
    Written text (.value tree) rest → Yields (decode tree) rest (read cursor)

theorem Reads.map {read : Cursor → Except ReadError (α × Cursor)} {decode : Tree → Option α}
    (hreads : Reads read decode) (f : α → β) :
    Reads (fun cursor => read cursor >>= fun read => .ok (f read.1, read.2))
      (fun tree => (decode tree).map f) :=
  fun _ _ _ _ hgap hvalue => (hreads hgap hvalue).map f

/-! ## Values of one kind -/

theorem atValue_of_written (hgap : Gap cursor.rest text)
    (hvalue : Written text (.value tree) rest) :
    ∃ c more, text = c :: more ∧ tree.OpensWith c ∧
      atValue cursor = .ok (c, cursor.skipSpace) ∧ cursor.skipSpace.rest = c :: more := by
  obtain ⟨c, more, htext, hopens⟩ := hvalue.head
  have hrest := hvalue.rest_skipSpace hgap
  rw [htext] at hrest
  refine ⟨c, more, htext, hopens, ?_, hrest⟩
  unfold atValue
  dsimp only
  rw [hrest]

/-- What is refused is never read. -/
theorem refuse_eq_error (expected : String) (cursor : Cursor) :
    ∃ error, (refuse expected cursor : Except ReadError α) = .error error := by
  cases hrefuse : (refuse expected cursor : Except ReadError α) with
  | error error => exact ⟨error, rfl⟩
  | ok value =>
      exfalso
      unfold refuse at hrefuse
      dsimp only at hrefuse
      split at hrefuse
      · exact cursor.failNext_ne_ok _ _ hrefuse
      -- A word is read to its end before it is refused.
      split at hrefuse
      · obtain ⟨after, -, hfail⟩ := bind_eq_ok hrefuse
        exact after.fail_ne_ok _ _ hfail
      split at hrefuse
      · obtain ⟨after, -, hfail⟩ := bind_eq_ok hrefuse
        exact after.fail_ne_ok _ _ hfail
      split at hrefuse
      · obtain ⟨after, -, hfail⟩ := bind_eq_ok hrefuse
        exact after.fail_ne_ok _ _ hfail
      -- So is a number or a string.
      split at hrefuse
      · obtain ⟨⟨_, after⟩, -, hfail⟩ := bind_eq_ok hrefuse
        exact after.fail_ne_ok _ _ hfail
      split at hrefuse
      · obtain ⟨⟨_, after⟩, -, hfail⟩ := bind_eq_ok hrefuse
        exact after.fail_ne_ok _ _ hfail
      split at hrefuse
      · obtain ⟨⟨_, after⟩, -, hfail⟩ := bind_eq_ok hrefuse
        exact after.fail_ne_ok _ _ hfail
      split at hrefuse
      · exact cursor.fail_ne_ok _ _ hrefuse
      split at hrefuse
      · exact cursor.fail_ne_ok _ _ hrefuse
      · exact cursor.failNext_ne_ok _ _ hrefuse

namespace Tree.OpensWith

theorem eq_text (hopens : tree.OpensWith '"') : ∃ content, tree = .text content := by
  cases tree with
  | text content => exact ⟨content, rfl⟩
  | boolean value => cases value <;> simp [OpensWith] at hopens
  | null | number | list | object => simp [OpensWith, Text.digitValue?] at hopens

theorem eq_list (hopens : tree.OpensWith '[') : ∃ trees, tree = .list trees := by
  cases tree with
  | list trees => exact ⟨trees, rfl⟩
  | boolean value => cases value <;> simp [OpensWith] at hopens
  | null | number | text | object => simp [OpensWith, Text.digitValue?] at hopens

theorem eq_object (hopens : tree.OpensWith '\x7b') : ∃ members, tree = .object members := by
  cases tree with
  | object members => exact ⟨members, rfl⟩
  | boolean value => cases value <;> simp [OpensWith] at hopens
  | null | number | text | list => simp [OpensWith, Text.digitValue?] at hopens

theorem eq_null (hopens : tree.OpensWith 'n') : tree = .null := by
  cases tree with
  | null => rfl
  | boolean value => cases value <;> simp [OpensWith] at hopens
  | number | text | list | object => simp [OpensWith, Text.digitValue?] at hopens

theorem eq_boolean (value : Bool) (hopens : tree.OpensWith (if value then 't' else 'f')) :
    tree = .boolean value := by
  cases tree with
  | boolean other => cases value <;> cases other <;> simp [OpensWith] at hopens ⊢
  | null | number | text | list | object =>
      cases value <;> simp [OpensWith, Text.digitValue?] at hopens

theorem eq_number {c : Char} (hopens : tree.OpensWith c)
    (hc : c = '-' ∨ (Text.digitValue? c).isSome = true) : ∃ natural, tree = .number natural := by
  have hdigit : ∀ other : Char, other ≠ '-' → Text.digitValue? other = none → c ≠ other := by
    rintro other hother hnone rfl
    rw [hnone] at hc
    simp [hother] at hc
  cases tree with
  | number natural => exact ⟨natural, rfl⟩
  | boolean value => cases value <;> exact absurd hopens (hdigit _ (by decide) rfl)
  | null | text | list | object => exact absurd hopens (hdigit _ (by decide) rfl)

end Tree.OpensWith

theorem reads_readString (expected : String) : Reads (readString expected) Tree.text? := by
  intro cursor text rest tree hgap hvalue
  obtain ⟨c, more, rfl, hopens, hat, hrest⟩ := atValue_of_written hgap hvalue
  unfold readString
  rw [hat]
  dsimp only [bind, Except.bind]
  by_cases hquote : c = '"'
  · subst hquote
    obtain ⟨content, rfl⟩ := hopens.eq_text
    cases hvalue with
    | text hquoted =>
        rw [if_pos rfl]
        exact yields_of_quoted hrest hquoted
  · rw [if_neg hquote]
    cases tree with
    | text content => exact absurd hopens hquote
    | null | boolean | number | list | object => exact refuse_eq_error expected _

theorem reads_readBoolean : Reads readBoolean Tree.boolean? := by
  intro cursor text rest tree hgap hvalue
  obtain ⟨c, more, rfl, hopens, hat, hrest⟩ := atValue_of_written hgap hvalue
  unfold readBoolean
  rw [hat]
  dsimp only [bind, Except.bind]
  by_cases ht : c = 't'
  · subst ht
    obtain rfl := Tree.OpensWith.eq_boolean true hopens
    cases hvalue
    rw [if_pos rfl]
    exact yields_of_word "rue".toList (Cursor.rest_next hrest)
  by_cases hf : c = 'f'
  · subst hf
    obtain rfl := Tree.OpensWith.eq_boolean false hopens
    cases hvalue
    rw [if_neg (by decide), if_pos rfl]
    exact yields_of_word "alse".toList (Cursor.rest_next hrest)
  rw [if_neg ht, if_neg hf]
  cases tree with
  | boolean value =>
      cases value with
      | true => exact absurd hopens ht
      | false => exact absurd hopens hf
  | null | number | text | list | object => exact refuse_eq_error "a boolean" _

/-- A number that is no natural one does not go on as one. -/
theorem error_of_isNoNatural {result : Except ReadError (Found × Cursor)}
    (hresult : ∀ found after, result = .ok (found, after) → found.IsNoNatural)
    {next : Found × Cursor → Except ReadError (α × Cursor)}
    (hnegative : ∀ value after, ∃ error, next (.negative value, after) = .error error)
    (hreal : ∀ value after, ∃ error, next (.real value, after) = .error error) :
    ∃ error, result >>= next = .error error := by
  cases result with
  | error error => exact ⟨error, rfl⟩
  | ok read =>
      obtain ⟨found, after⟩ := read
      have hfound := hresult found after rfl
      cases found with
      | negative value => exact hnegative value after
      | real value => exact hreal value after
      | null | boolean | unsigned | text | sequence | map => exact hfound.elim

theorem reads_readUnsigned : Reads readUnsigned Tree.unsigned? := by
  intro cursor text rest tree hgap hvalue
  obtain ⟨c, more, rfl, hopens, hat, hrest⟩ := atValue_of_written hgap hvalue
  unfold readUnsigned
  rw [hat]
  dsimp only [bind, Except.bind]
  by_cases hc : c = '-' ∨ (Text.digitValue? c).isSome = true
  · obtain ⟨natural, rfl⟩ := hopens.eq_number hc
    cases hvalue with
    | number hnumber hfollows =>
        cases hnumber with
        | negative hmagnitude =>
            rw [if_pos rfl]
            exact error_of_isNoNatural (fun _ _ => isNoNatural_of_negative)
              (fun _ _ => ⟨_, rfl⟩) (fun _ _ => ⟨_, rfl⟩)
        | real hmagnitude =>
            obtain ⟨d, others, hd, hdigit⟩ := hmagnitude.head
            obtain ⟨rfl, rfl⟩ := List.cons.inj hd
            rw [← hrest] at hmagnitude
            rw [if_neg (ne_of_digit hdigit rfl), if_pos hdigit]
            exact error_of_isNoNatural (fun _ _ => isNoNatural_of_not_plain hmagnitude hfollows)
              (fun _ _ => ⟨_, rfl⟩) (fun _ _ => ⟨_, rfl⟩)
        | natural hmagnitude =>
            obtain ⟨d, others, hd, hdigit⟩ := hmagnitude.head
            obtain ⟨rfl, rfl⟩ := List.cons.inj hd
            rw [← hrest] at hmagnitude
            rw [if_neg (ne_of_digit hdigit rfl), if_pos hdigit, Tree.unsigned?]
            rcases readNumber_of_plain hmagnitude hfollows with
              ⟨hsize, after, hread, hafter⟩ | ⟨hsize, hread⟩
            · rw [if_pos hsize, hread]
              exact ⟨after, rfl, hafter⟩
            · rw [if_neg (Nat.not_lt.mpr hsize)]
              exact error_of_isNoNatural hread (fun _ _ => ⟨_, rfl⟩) (fun _ _ => ⟨_, rfl⟩)
  · rw [not_or] at hc
    rw [if_neg hc.1, if_neg hc.2]
    cases tree with
    | number natural => exact absurd hopens (not_or.mpr hc)
    | null | boolean | text | list | object => exact refuse_eq_error "u64" _

theorem readNull_of_written (hgap : Gap cursor.rest text)
    (hvalue : Written text (.value tree) rest) :
    tree = .null ∧ (∃ after, readNull cursor = .ok after ∧ after.rest = rest) ∨
      tree ≠ .null ∧ ∃ error, readNull cursor = .error error := by
  obtain ⟨c, more, rfl, hopens, hat, hrest⟩ := atValue_of_written hgap hvalue
  unfold readNull
  rw [hat]
  dsimp only [bind, Except.bind]
  by_cases hc : c = 'n'
  · subst hc
    obtain rfl := hopens.eq_null
    cases hvalue
    rw [if_pos rfl]
    exact Or.inl ⟨rfl, readWord_of_append "ull".toList (Cursor.rest_next hrest)⟩
  · rw [if_neg hc]
    refine Or.inr ⟨?_, refuse_eq_error "unit" _⟩
    rintro rfl
    exact hc hopens

/-! ## Elements and members -/

section Elements

variable {first : Bool} {read : Cursor → Except ReadError (α × Cursor)} {decode : Tree → Option α}

theorem nextElement_of_closing (hgap : Gap cursor.rest (']' :: rest)) :
    nextElement first cursor = .ok none := by
  have hrest := Cursor.rest_skipSpace hgap (by rintro c ⟨⟩; rfl)
  unfold nextElement
  dsimp only
  rw [hrest]
  rfl

theorem nextElement_of_lead {c : Char} {more : List Char}
    (hlead : Lead first cursor.rest (c :: more)) (hspace : Cursor.isSpace c = false)
    (hclosing : c ≠ ']') :
    ∃ front, nextElement first cursor = .ok (some front) ∧ front.rest = c :: more := by
  unfold nextElement
  dsimp only
  cases hlead with
  | first hgap =>
      have hrest := Cursor.rest_skipSpace hgap (by rintro d ⟨⟩; exact hspace)
      refine ⟨cursor.skipSpace, ?_, hrest⟩
      rw [hrest]
      dsimp only
      rw [if_neg hclosing, if_pos rfl]
  | comma hgap hmore =>
      have hrest := Cursor.rest_skipSpace hgap (by rintro d ⟨⟩; rfl)
      rw [← Cursor.rest_next hrest] at hmore
      have hbehind := Cursor.rest_skipSpace hmore (by rintro d ⟨⟩; exact hspace)
      refine ⟨cursor.skipSpace.next.skipSpace, ?_, hbehind⟩
      rw [hrest]
      dsimp only
      rw [if_neg (by decide), if_neg (by simp), if_pos rfl, hbehind]
      split
      · rename_i hnil
        cases hnil
      · rename_i heq
        exact absurd (List.cons.inj heq).1 hclosing
      · rfl

theorem endList_of_closing (hgap : Gap cursor.rest (']' :: rest)) :
    ∃ after, endList cursor = .ok after ∧ after.rest = rest := by
  have hrest := Cursor.rest_skipSpace hgap (by rintro c ⟨⟩; rfl)
  refine ⟨cursor.skipSpace.next, ?_, Cursor.rest_next hrest⟩
  unfold endList
  dsimp only
  rw [hrest]
  rfl

theorem endObject_of_closing (hgap : Gap cursor.rest ('\x7d' :: rest)) :
    ∃ after, endObject cursor = .ok after ∧ after.rest = rest := by
  have hrest := Cursor.rest_skipSpace hgap (by rintro c ⟨⟩; rfl)
  refine ⟨cursor.skipSpace.next, ?_, Cursor.rest_next hrest⟩
  unfold endObject
  dsimp only
  rw [hrest]
  rfl

theorem nextKey_of_closing (hgap : Gap cursor.rest ('\x7d' :: rest)) :
    nextKey first cursor = .ok none := by
  have hrest := Cursor.rest_skipSpace hgap (by rintro c ⟨⟩; rfl)
  unfold nextKey
  dsimp only
  rw [hrest]
  rfl

theorem nextKey_of_lead {more : List Char} (hlead : Lead first cursor.rest ('"' :: more)) :
    ∃ front : Cursor, nextKey first cursor = (readQuoted front.next).map some ∧
      front.rest = '"' :: more := by
  unfold nextKey
  dsimp only
  cases hlead with
  | first hgap =>
      have hrest := Cursor.rest_skipSpace hgap (by rintro d ⟨⟩; rfl)
      rw [hrest]
      exact ⟨_, rfl, hrest⟩
  | comma hgap hmore =>
      have hrest := Cursor.rest_skipSpace hgap (by rintro d ⟨⟩; rfl)
      rw [← Cursor.rest_next hrest] at hmore
      have hbehind := Cursor.rest_skipSpace hmore (by rintro d ⟨⟩; rfl)
      rw [hrest]
      dsimp only
      rw [if_neg (by decide), if_neg (by simp), if_pos rfl, hbehind]
      exact ⟨_, rfl, hbehind⟩

theorem readElements_of_written {trees : List Tree} (hreads : Reads read decode)
    (helements : Written text (.elements first trees) rest) {fuel : Nat} (seen : List α)
    (hfirst : seen.isEmpty = first) (hrest : cursor.rest = text) (hfuel : trees.length < fuel) :
    match trees.mapM decode with
    | some values =>
        ∃ after, readElements read fuel seen cursor = .ok (seen.reverse ++ values, after) ∧
          Gap after.rest (']' :: rest)
    | none => ∃ error, readElements read fuel seen cursor = .error error := by
  induction trees generalizing text first cursor fuel seen with
  | nil =>
      cases fuel with
      | zero => cases hfuel
      | succ fuel =>
          cases helements with
          | noElement hgap =>
              rw [← hrest] at hgap
              refine ⟨cursor, ?_, hgap⟩
              rw [readElements, hfirst, nextElement_of_closing hgap]
              simp [bind, Except.bind]
  | cons tree trees ih =>
      cases fuel with
      | zero => cases hfuel
      | succ fuel =>
          cases helements with
          | @element _ _ _ _ middle _ _ hlead hvalue hmore =>
              obtain ⟨c, others, rfl, hopens⟩ := hvalue.head
              rw [← hrest] at hlead
              obtain ⟨front, hnext, hfront⟩ :=
                nextElement_of_lead hlead hopens.not_space hopens.ne_closing.1
              have hone := hreads (.of_eq hfront) hvalue
              rw [readElements, hfirst, hnext, List.mapM_cons]
              dsimp only [bind, Except.bind]
              cases hdecode : decode tree with
              | none =>
                  rw [hdecode] at hone
                  obtain ⟨error, herror⟩ := hone
                  exact ⟨error, by rw [herror]⟩
              | some value =>
                  rw [hdecode] at hone
                  obtain ⟨after, hread, hafter⟩ := hone
                  have hothers := ih hmore (value :: seen) rfl hafter
                    (Nat.lt_of_succ_lt_succ hfuel)
                  rw [hread]
                  dsimp only [Option.bind]
                  cases hvalues : trees.mapM decode with
                  | none =>
                      rw [hvalues] at hothers
                      exact hothers
                  | some values =>
                      rw [hvalues] at hothers
                      obtain ⟨final, hread', hfinal⟩ := hothers
                      refine ⟨final, ?_, hfinal⟩
                      rw [hread']
                      simp

theorem Written.length_lt (hvalue : Written text (.value tree) rest) :
    rest.length < text.length := by
  obtain ⟨cost, hcost, -⟩ := passedIn_of_written hvalue
  omega

theorem length_lt_of_elements {trees : List Tree}
    (helements : Written text (.elements first trees) rest) :
    trees.length + rest.length < text.length := by
  induction trees generalizing text first with
  | nil =>
      cases helements with
      | noElement hgap =>
          have hless := hgap.length_le
          simp only [List.length_cons, List.length_nil] at hless ⊢
          omega
  | cons tree trees ih =>
      cases helements with
      | element hlead hvalue hmore =>
          have hothers := ih hmore
          have hless := hvalue.length_lt
          have hle := hlead.length_le
          simp only [List.length_cons]
          omega

theorem reads_readList (hreads : Reads read decode) :
    Reads (readList read) (Tree.list? decode) := by
  intro cursor text rest tree hgap hvalue
  obtain ⟨c, more, rfl, hopens, hat, hrest⟩ := atValue_of_written hgap hvalue
  unfold readList
  rw [hat]
  dsimp only [bind, Except.bind]
  by_cases hc : c = '['
  · subst hc
    obtain ⟨trees, rfl⟩ := hopens.eq_list
    cases hvalue with
    | list helements =>
        have hfuel : trees.length < cursor.skipSpace.fuel := by
          have hlength := length_lt_of_elements helements
          rw [Cursor.fuel, hrest, List.length_cons]
          omega
        have hread := readElements_of_written hreads helements [] rfl
          (Cursor.rest_next hrest) hfuel
        rw [if_pos rfl, Tree.list?]
        cases hvalues : trees.mapM decode with
        | none =>
            rw [hvalues] at hread
            obtain ⟨error, herror⟩ := hread
            exact ⟨error, by rw [herror]⟩
        | some values =>
            rw [hvalues] at hread
            obtain ⟨behind, hread, hbehind⟩ := hread
            obtain ⟨after, hend, hafter⟩ := endList_of_closing hbehind
            refine ⟨after, ?_, hafter⟩
            rw [hread]
            dsimp only
            rw [hend]
            rfl
  · rw [if_neg hc]
    cases tree with
    | list trees => exact absurd hopens hc
    | null | boolean | number | text | object => exact refuse_eq_error "a sequence" _

end Elements

end Decommission.Json
