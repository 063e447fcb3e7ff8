import Decommission.Json.Value
import Decommission.Proofs.Json.Reading
import Mathlib.Data.List.Forall2

/-!
# Writing values

Both written forms of a value are documents that say the value: the strings are escaped so that they
are read back, the numbers have their digits, and white space stands only between tokens.
-/

namespace Decommission.Json

variable {text rest : List Char}

/-! ## What a value says -/

namespace Value

def tree : Value → Tree
  | .boolean value => .boolean value
  | .unsigned value => .number (some value.toNat)
  | .text value => .text (some value)
  | .list elements => .list (trees elements)
  | .object members => .object (memberTrees members)
where
  trees : List Value → List Tree
    | [] => []
    | element :: elements => element.tree :: trees elements
  memberTrees : List (String × Value) → List (Option String × Tree)
    | [] => []
    | (key, value) :: members => (some key, value.tree) :: memberTrees members

theorem trees_eq_map (elements : List Value) : tree.trees elements = elements.map tree := by
  induction elements with
  | nil => rfl
  | cons element elements ih => rw [tree.trees, ih, List.map_cons]

theorem memberTrees_eq_map (members : List (String × Value)) :
    tree.memberTrees members = members.map fun member => (some member.1, member.2.tree) := by
  induction members with
  | nil => rfl
  | cons member members ih => rw [tree.memberTrees, ih, List.map_cons]

theorem compactList_eq_map (elements : List Value) :
    compact.compactList elements = elements.map compact := by
  induction elements with
  | nil => rfl
  | cons element elements ih => rw [compact.compactList, ih, List.map_cons]

theorem compactMembers_eq_map (members : List (String × Value)) :
    compact.compactMembers members =
      members.map fun member => writtenText member.1 ++ ':' :: member.2.compact := by
  induction members with
  | nil => rfl
  | cons member members ih => rw [compact.compactMembers, ih, List.map_cons]

theorem spreadList_eq_map (depth : Nat) (elements : List Value) :
    spread.spreadList depth elements = elements.map (spread (depth + 1)) := by
  induction elements with
  | nil => rfl
  | cons element elements ih => rw [spread.spreadList, ih, List.map_cons]

theorem spreadMembers_eq_map (depth : Nat) (members : List (String × Value)) :
    spread.spreadMembers depth members =
      members.map fun member => writtenText member.1 ++ ':' :: ' ' ::
        member.2.spread (depth + 1) := by
  induction members with
  | nil => rfl
  | cons member members ih => rw [spread.spreadMembers, ih, List.map_cons]

/-- A property of values that lists and objects take over from what they hold. -/
theorem induct {P : Value → Prop} (hboolean : ∀ value, P (.boolean value))
    (hunsigned : ∀ value, P (.unsigned value)) (htext : ∀ value, P (.text value))
    (hlist : ∀ elements, (∀ element ∈ elements, P element) → P (.list elements))
    (hobject : ∀ members, (∀ member ∈ members, P member.2) → P (.object members)) :
    ∀ value, P value
  | .boolean value => hboolean value
  | .unsigned value => hunsigned value
  | .text value => htext value
  | .list elements =>
      hlist elements fun element _ => induct hboolean hunsigned htext hlist hobject element
  | .object members =>
      hobject members fun member _ => induct hboolean hunsigned htext hlist hobject member.2
termination_by value => sizeOf value
decreasing_by
  · rename_i hmem
    have hless := List.sizeOf_lt_of_mem hmem
    simp only [list.sizeOf_spec]
    omega
  · rename_i hmem
    have hless := List.sizeOf_lt_of_mem hmem
    have hsnd : sizeOf member.2 < sizeOf member := by
      cases member
      simp only [Prod.mk.sizeOf_spec]
      omega
    simp only [object.sizeOf_spec]
    omega

end Value

/-! ## Strings -/

theorem hex_of_control : ∀ code < 0x20,
    (Text.hex 4 code).toList = ['0', '0', Nat.digitChar (code / 16),
      Nat.digitChar (code % 16)] := by
  decide

theorem hexValue?_digitChar : ∀ digit < 16, Text.hexValue? (Nat.digitChar digit) = some digit := by
  decide

theorem codeUnit_hex {code : Nat} (hcode : code < 0x20) (rest : List Char) :
    CodeUnit ((Text.hex 4 code).toList ++ rest) code rest := by
  have hunit : CodeUnit ((Text.hex 4 code).toList ++ rest)
      (((0 * 16 + 0) * 16 + code / 16) * 16 + code % 16) rest := by
    rw [hex_of_control code hcode]
    exact .digits rfl rfl (hexValue?_digitChar _ (by omega)) (hexValue?_digitChar _ (by omega))
  have hvalue : ((0 * 16 + 0) * 16 + code / 16) * 16 + code % 16 = code := by omega
  rwa [hvalue] at hunit

theorem characters_writtenChar {value : List Char} (hmore : Characters text value rest) (c : Char) :
    Characters (Value.writtenChar c ++ text) (c :: value) rest := by
  unfold Value.writtenChar
  -- The characters with a letter of their own come first, one by one.
  iterate 7
    split
    · subst c
      exact .escaped (.letter rfl) hmore
  rename_i hquote hbackslash _ _ _ _ _
  split
  · rename_i hcontrol
    have hescape := Escape.unit (codeUnit_hex hcontrol text)
      (by simp only [isLeading, Bool.and_eq_false_iff, decide_eq_false_iff_not]; omega)
      (by simp only [isTrailing, Bool.and_eq_false_iff, decide_eq_false_iff_not]; omega)
    rw [c.ofNat_toNat] at hescape
    exact .escaped hescape hmore
  · rename_i hcontrol
    exact .plain hquote hbackslash (by simpa [isControl] using hcontrol) hmore

theorem quoted_writtenText (content : String) (rest : List Char) :
    Quoted (Value.writtenText content ++ rest) (some content) rest := by
  have hcharacters : ∀ value,
      Characters (value.flatMap Value.writtenChar ++ '"' :: rest) value rest := by
    intro value
    induction value with
    | nil => exact .nil
    | cons c value ih =>
        rw [List.flatMap_cons, List.append_assoc]
        exact characters_writtenChar ih c
  have hquoted := Quoted.whole (hcharacters content.toList)
  rw [String.ofList_toList] at hquoted
  rw [Value.writtenText, List.cons_append, List.append_assoc]
  exact hquoted

/-! ## Numbers -/

theorem digitValue?_of_isDigit {c : Char} (hdigit : c.isDigit = true) :
    Text.digitValue? c = some (c.toNat - '0'.toNat) := by
  simp only [Char.isDigit, Bool.and_eq_true, decide_eq_true_eq] at hdigit
  exact if_pos hdigit

theorem digits_of_isDigit {digits : List Char} (hdigits : ∀ c ∈ digits, c.isDigit = true)
    (rest : List Char) :
    Digits (digits ++ rest) (digits.map fun c => c.toNat - '0'.toNat) rest := by
  induction digits with
  | nil => exact .nil
  | cons c digits ih =>
      exact .cons (digitValue?_of_isDigit (hdigits c List.mem_cons_self))
        (ih fun d hd => hdigits d (List.mem_cons_of_mem c hd))

theorem valueOf_toDigits (number : Nat) :
    valueOf ((Nat.toDigits 10 number).map fun c => c.toNat - '0'.toNat) = number := by
  rw [valueOf, List.foldl_map]
  have hvalue := @Nat.ofDigitChars_ten_toDigits number
  simp only [Nat.ofDigitChars, Nat.mul_comm 10] at hvalue
  exact hvalue

/-- Only the number zero begins with a zero. -/
theorem isWhole_toDigits (number : Nat) :
    IsWhole ((Nat.toDigits 10 number).map fun c => c.toNat - '0'.toNat) := by
  induction number using Nat.strongRecOn with
  | ind number ih =>
      by_cases hsmall : number < 10
      · rw [Nat.toDigits_of_lt_base hsmall]
        refine ⟨by simp, fun hhead => ?_⟩
        simpa using hhead
      · have hbase : 10 ≤ number := Nat.not_lt.mp hsmall
        obtain ⟨hsome, hzero⟩ := ih (number / 10) (by omega)
        have hvalue := valueOf_toDigits (number / 10)
        rw [Nat.toDigits_of_base_le (by decide) hbase, List.map_append]
        refine ⟨List.append_ne_nil_of_left_ne_nil hsome _, fun hhead => ?_⟩
        rw [List.head?_append_of_ne_nil _ hsome] at hhead
        rw [hzero hhead] at hvalue
        have hnone : number / 10 = 0 := hvalue.symm
        omega

theorem written_toDigits (number : Nat) {rest : List Char} (hfollows : Follows rest) :
    Written (Nat.toDigits 10 number ++ rest) (.value (.number (some number))) rest := by
  have hall : ∀ c ∈ Nat.toDigits 10 number, c.isDigit = true :=
    fun c hc => Nat.isDigit_of_mem_toDigits (by decide) (by decide) hc
  have hdigits := digits_of_isDigit hall rest
  have hnumber := Number.natural (.parts hdigits (isWhole_toDigits number) .absent .absent)
  rw [valueOf_toDigits] at hnumber
  exact .number hnumber hfollows

/-! ## Lists and objects -/

/-- A text is a written form of a value, wherever it stands. -/
def Writes (text : List Char) (tree : Tree) : Prop :=
  ∀ rest, Follows rest → Written (text ++ rest) (.value tree) rest

/-- A text is white space. -/
def IsBlank (text : List Char) : Prop :=
  ∀ c ∈ text, Cursor.isSpace c = true

theorem isBlank_nil : IsBlank [] := nofun

theorem gap_of_isBlank {blank : List Char} (hblank : IsBlank blank) (rest : List Char) :
    Gap (blank ++ rest) rest := by
  induction blank with
  | nil => exact .nil
  | cons c blank ih =>
      exact .cons (hblank c List.mem_cons_self)
        (ih fun d hd => hblank d (List.mem_cons_of_mem c hd))

theorem follows_of_isBlank {blank : List Char} (hblank : IsBlank blank) {c : Char}
    (hc : c = ',' ∨ c = ']' ∨ c = '\x7d') : Follows (blank ++ c :: rest) := by
  cases blank with
  | nil =>
      rintro d ⟨⟩
      exact Or.inr hc
  | cons d blank =>
      rintro e ⟨⟩
      exact Or.inl (hblank d List.mem_cons_self)

theorem intercalate_cons (separator first : List Char) (parts : List (List Char)) :
    List.intercalate separator (first :: parts) =
      first ++ parts.flatMap (separator ++ ·) := by
  induction parts generalizing first with
  | nil => simp [List.intercalate]
  | cons second parts ih =>
      rw [List.intercalate_cons_cons, ih second, List.flatMap_cons, List.append_assoc,
        List.append_assoc]

section Parts

/-! Elements and members are put together in the same way. -/

variable {β : Type} (phrase : Bool → List β → Phrase) {Part : List Char → β → Prop} {closing : Char}
variable {lead tail : List Char} {parts : List (List Char)} {items : List β}
variable (hclosing : closing = ']' ∨ closing = '\x7d') (hlead : IsBlank lead) (htail : IsBlank tail)
variable (hend : ∀ ⦃text first rest⦄, Gap text (closing :: rest) →
  Written text (phrase first []) rest)
variable (hpart : ∀ ⦃part item⦄, Part part item → ∀ ⦃text first more items rest⦄,
  Lead first text (part ++ more) → Follows more → Written more (phrase false items) rest →
    Written text (phrase first (item :: items)) rest)

include hclosing htail in
theorem follows_parts (lead : List Char) (parts : List (List Char)) (rest : List Char) :
    Follows (parts.flatMap ((',' :: lead) ++ ·) ++ (tail ++ closing :: rest)) := by
  cases parts with
  | nil => exact follows_of_isBlank htail (Or.inr hclosing)
  | cons part parts =>
      rintro c ⟨⟩
      exact Or.inr (Or.inl rfl)

include hclosing hlead htail hend hpart in
theorem written_more (hparts : List.Forall₂ Part parts items) (rest : List Char) :
    Written (parts.flatMap ((',' :: lead) ++ ·) ++ (tail ++ closing :: rest)) (phrase false items)
      rest := by
  induction hparts with
  | nil => exact hend (gap_of_isBlank htail _)
  | @cons part item parts items hone hparts ih =>
      rw [List.flatMap_cons, List.append_assoc, List.append_assoc, List.cons_append]
      exact hpart hone (.comma .nil (gap_of_isBlank hlead _))
        (follows_parts hclosing htail lead parts rest) ih

include hclosing hlead htail hend hpart in
theorem written_parts (hparts : List.Forall₂ Part parts items) (rest : List Char) :
    Written (lead ++ (List.intercalate (',' :: lead) parts ++ (tail ++ closing :: rest)))
      (phrase true items) rest := by
  cases hparts with
  | nil =>
      exact hend ((gap_of_isBlank hlead _).trans (gap_of_isBlank htail _))
  | @cons part item parts items hone hparts =>
      rw [intercalate_cons, List.append_assoc]
      exact hpart hone (.first (gap_of_isBlank hlead _))
        (follows_parts hclosing htail lead parts rest)
        (written_more phrase hclosing hlead htail hend hpart hparts rest)

end Parts

section Brackets

variable {lead tail : List Char} (hlead : IsBlank lead) (htail : IsBlank tail)

include hlead htail in
theorem writes_list {parts : List (List Char)} {trees : List Tree}
    (hparts : List.Forall₂ Writes parts trees) :
    Writes ('[' :: (lead ++ (List.intercalate (',' :: lead) parts ++ (tail ++ [']']))))
      (.list trees) := by
  intro rest _
  refine .list ?_
  have hwritten := written_parts .elements (Or.inl rfl) hlead htail
    (fun _ _ _ hgap => .noElement hgap)
    (fun _ _ hpart _ _ _ _ _ hlead hfollows hmore => .element hlead (hpart _ hfollows) hmore)
    hparts rest
  simpa using hwritten

/-- A text is a written form of a member. -/
def WritesMember (text : List Char) (member : Option String × Tree) : Prop :=
  ∃ key space value, text = Value.writtenText key ++ ':' :: (space ++ value) ∧
    member.1 = some key ∧ IsBlank space ∧ Writes value member.2

theorem written_member {part : List Char} {member : Option String × Tree}
    (hpart : WritesMember part member) {first : Bool} {more : List Char}
    {members : List (Option String × Tree)} (hlead : Lead first text (part ++ more))
    (hfollows : Follows more) (hmore : Written more (.members false members) rest) :
    Written text (.members first (member :: members)) rest := by
  obtain ⟨name, tree⟩ := member
  obtain ⟨key, space, value, rfl, hname, hspace, hvalue⟩ := hpart
  obtain rfl : name = some key := hname
  rw [List.append_assoc, List.cons_append, List.append_assoc] at hlead
  exact .member hlead (quoted_writtenText key _) .nil (gap_of_isBlank hspace _) (hvalue _ hfollows)
    hmore

include hlead htail in
theorem writes_object {parts : List (List Char)} {members : List (Option String × Tree)}
    (hparts : List.Forall₂ WritesMember parts members) :
    Writes ('\x7b' :: (lead ++ (List.intercalate (',' :: lead) parts ++ (tail ++ ['\x7d']))))
      (.object members) := by
  intro rest _
  refine .object ?_
  have hwritten := written_parts .members (Or.inr rfl) hlead htail
    (fun _ _ _ hgap => .noMember hgap)
    (fun _ _ hpart _ _ _ _ _ hlead hfollows hmore => written_member hpart hlead hfollows hmore)
    hparts rest
  simpa using hwritten

end Brackets

/-! ## Both forms -/

namespace Value

theorem writes_boolean (value : Bool) : Writes (compact (.boolean value)) (.boolean value) := by
  intro rest _
  cases value with
  | true => exact .yes
  | false => exact .no

theorem writes_compact (value : Value) : Writes value.compact value.tree := by
  induction value using induct with
  | hboolean value => exact writes_boolean value
  | hunsigned value => exact fun rest hfollows => written_toDigits value.toNat hfollows
  | htext value => exact fun rest _ => .text (quoted_writtenText value rest)
  | hlist elements ih =>
      rw [compact, tree, compactList_eq_map, trees_eq_map]
      refine writes_list isBlank_nil isBlank_nil ?_
      rw [List.forall₂_map_left_iff, List.forall₂_map_right_iff, List.forall₂_same]
      exact ih
  | hobject members ih =>
      rw [compact, tree, compactMembers_eq_map, memberTrees_eq_map]
      refine writes_object isBlank_nil isBlank_nil ?_
      rw [List.forall₂_map_left_iff, List.forall₂_map_right_iff, List.forall₂_same]
      exact fun member hmember =>
        ⟨member.1, [], member.2.compact, rfl, rfl, isBlank_nil, ih member hmember⟩

theorem isBlank_lineBreak (depth : Nat) : IsBlank (lineBreak depth) := by
  intro c hc
  rcases List.mem_cons.mp hc with rfl | hc
  · rfl
  · rw [List.eq_of_mem_replicate hc]
    rfl

theorem spreadParts_eq (opening closing : Char) (depth : Nat) {parts : List (List Char)}
    (hparts : parts ≠ []) :
    spreadParts opening closing depth parts =
      opening :: (lineBreak (depth + 1) ++
        (List.intercalate (',' :: lineBreak (depth + 1)) parts ++
          (lineBreak depth ++ [closing]))) := by
  cases parts with
  | nil => exact absurd rfl hparts
  | cons part parts => simp only [spreadParts, List.append_assoc]

theorem writes_spread (value : Value) (depth : Nat) : Writes (value.spread depth) value.tree := by
  induction value using induct generalizing depth with
  | hboolean value =>
      rw [spread]
      · exact writes_boolean value
      · exact nofun
      · exact nofun
  | hunsigned value => exact fun rest hfollows => written_toDigits value.toNat hfollows
  | htext value => exact fun rest _ => .text (quoted_writtenText value rest)
  | hlist elements ih =>
      rw [spread, tree, spreadList_eq_map, trees_eq_map]
      cases elements with
      | nil => exact fun rest _ => .list (.noElement .nil)
      | cons element elements =>
          rw [spreadParts_eq _ _ _ (by simp)]
          refine writes_list (isBlank_lineBreak _) (isBlank_lineBreak _) ?_
          rw [List.forall₂_map_left_iff, List.forall₂_map_right_iff, List.forall₂_same]
          exact fun element hmem => ih element hmem (depth + 1)
  | hobject members ih =>
      rw [spread, tree, spreadMembers_eq_map, memberTrees_eq_map]
      cases members with
      | nil => exact fun rest _ => .object (.noMember .nil)
      | cons member members =>
          rw [spreadParts_eq _ _ _ (by simp)]
          refine writes_object (isBlank_lineBreak _) (isBlank_lineBreak _) ?_
          rw [List.forall₂_map_left_iff, List.forall₂_map_right_iff, List.forall₂_same]
          exact fun member hmem =>
            ⟨member.1, [' '], member.2.spread (depth + 1), rfl, rfl,
              by simp [IsBlank, Cursor.isSpace], ih member hmem (depth + 1)⟩

end Value

theorem document_of_writes {tree : Tree} (hwrites : Writes text tree) : Document text tree := by
  have hwritten := hwrites [] nofun
  rw [List.append_nil] at hwritten
  exact .mk .nil hwritten .nil

end Decommission.Json
