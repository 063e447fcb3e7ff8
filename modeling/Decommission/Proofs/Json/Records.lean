import Decommission.Proofs.Json.Reading
import Mathlib.Data.List.Perm.Basic

/-!
# Reading records

What a record stands for is gathered from its members in their order, or from the elements of a
list.  Reading does the same with the text, and it fails if nothing can be gathered.
-/

namespace Decommission.Json

variable {σ α : Type} {Doomed : σ → Prop} {cursor : Cursor} {text rest : List Char}

/-! ## Fields -/

/-- A part of a record has been read and the cursor stands behind it.  What cannot be gathered may
still be read on, but then it is doomed. -/
def Gathers (Doomed : σ → Prop) (record? : Option σ) (Stands : Cursor → Prop)
    (result : Except ReadError (Gathered σ × Cursor)) : Prop :=
  match record? with
  | some record => ∃ after, result = .ok (.ok record, after) ∧ Stands after
  | none => ∀ record after, result = .ok (.ok record, after) → Doomed record

/-- What has been gathered is gathered on, and what is doomed stays doomed. -/
theorem Gathers.bind {record? : Option σ} {next? : σ → Option σ} {Stands Stands' : Cursor → Prop}
    {result : Except ReadError (Gathered σ × Cursor)}
    {next : σ → Cursor → Except ReadError (Gathered σ × Cursor)}
    (hresult : Gathers Doomed record? Stands result)
    (hnext : ∀ record after, Stands after →
      Gathers Doomed (next? record) Stands' (next record after))
    (hdoomed : ∀ {record after final behind}, Doomed record →
      next record after = .ok (.ok final, behind) → Doomed final) :
    Gathers Doomed (record?.bind next?) Stands' (result >>= fun read =>
      match read with
      | (.ok record, after) => next record after
      | (.error cause, after) => .ok (.error cause, after)) := by
  cases record? with
  | some record =>
      obtain ⟨after, rfl, hafter⟩ := hresult
      exact hnext record after hafter
  | none =>
      intro final behind hfinal
      obtain ⟨⟨part, after⟩, hread, hfinal⟩ := bind_eq_ok hfinal
      cases part with
      | error cause => cases hfinal
      | ok record => exact hdoomed (hresult record after hread) hfinal

/-- A field, with what its values add to a record. -/
structure FieldMeaning (Doomed : σ → Prop) where
  field : RecordField σ
  member : σ → Tree → Option σ
  element : σ → Tree → Option σ
  reads_member : ∀ (record : σ) {cursor : Cursor} {text rest : List Char} {tree : Tree},
    Gap cursor.rest text → Written text (.value tree) rest →
      Gathers Doomed (member record tree) (fun after => after.rest = rest)
        (field.member record cursor)
  reads_element : ∀ record, Reads (field.element record) (element record)
  stays_doomed : ∀ {record next : σ} {cursor after : Cursor}, Doomed record →
    field.isSet record = false → field.member record cursor = .ok (.ok next, after) → Doomed next

/-- What has been read is added to a record. -/
theorem gathers_of_yields {β : Type} {value? : Option β} {result : Except ReadError (β × Cursor)}
    (hresult : Yields value? rest result) (add : β → Gathered σ) :
    Gathers Doomed (value?.bind fun value => (add value).toOption) (fun after => after.rest = rest)
      (result >>= fun read => .ok (add read.1, read.2)) := by
  cases value? with
  | none =>
      obtain ⟨error, rfl⟩ := hresult
      exact nofun
  | some value =>
      obtain ⟨after, rfl, hafter⟩ := hresult
      dsimp only [bind, Except.bind, Option.bind]
      cases add value with
      | error cause => exact nofun
      | ok record => exact ⟨after, rfl, hafter⟩

theorem gathers_plain {β : Type} {name : String} {get : σ → Option β} {set : σ → β → σ}
    {read : Cursor → Except ReadError (β × Cursor)} {value? : Option β} (record : σ)
    (hread : Yields value? rest (read cursor)) :
    Gathers Doomed (value?.map (set record)) (fun after => after.rest = rest)
      ((RecordField.plain name get set read).member record cursor) := by
  rw [Option.map_eq_bind]
  exact gathers_of_yields hread fun value => .ok (set record value)

/-- A field whose value is read in one way everywhere. -/
def FieldMeaning.plain {β : Type} (name : String) (get : σ → Option β) (set : σ → β → σ)
    (read : Cursor → Except ReadError (β × Cursor)) (decode : Tree → Option β)
    (hreads : Reads read decode) : FieldMeaning (fun _ : σ => False) where
  field := .plain name get set read
  member record tree := (decode tree).map (set record)
  element record tree := (decode tree).map (set record)
  reads_member record _ _ _ _ hgap hvalue := gathers_plain record (hreads hgap hvalue)
  reads_element record := hreads.map (set record)
  stays_doomed hdoomed _ := hdoomed.elim

/-! ## Gathering -/

section Gathering

variable (fields : List (FieldMeaning Doomed))

/-- What a member adds to a record.  Unknown members add nothing, a known one can stand only
once. -/
def gatherMember (record : σ) : Option String × Tree → Option σ
  | (none, _) => none
  | (some key, tree) =>
      match fields.find? (fun meaning => meaning.field.name = key) with
      | none => some record
      | some meaning => if meaning.field.isSet record then none else meaning.member record tree

def gather (record : σ) (members : List (Option String × Tree)) : Option σ :=
  members.foldlM (gatherMember fields) record

/-- What the elements of a list add to a record that `count` elements have been added to. -/
def gatherList (short : Nat → Option Cause) :
    List (FieldMeaning Doomed) → Nat → σ → List Tree → Option σ
  | [], _, record, [] => some record
  | [], _, _, _ :: _ => none
  | _ :: _, count, record, [] => if (short count).isNone then some record else none
  | meaning :: fields, count, record, tree :: trees => do
      gatherList short fields (count + 1) (← meaning.element record tree) trees

variable {fields}

theorem gather_cons (record : σ) (member : Option String × Tree)
    (members : List (Option String × Tree)) :
    gather fields record (member :: members) =
      (gatherMember fields record member).bind (gather fields · members) := by
  rw [gather, List.foldlM_cons]
  rfl

theorem gather_append (record : σ) (members others : List (Option String × Tree)) :
    gather fields record (members ++ others) =
      (gather fields record members).bind (gather fields · others) := by
  rw [gather, List.foldlM_append]
  rfl

end Gathering

/-! ## Reading members -/

section Members

variable {fields : List (FieldMeaning Doomed)} {first : Bool} {record : σ}

theorem find?_map_field (key : String) :
    (fields.map (·.field)).find? (fun field => field.name = key) =
      (fields.find? fun meaning => meaning.field.name = key).map (·.field) := by
  rw [List.find?_map]
  rfl

theorem doomed_of_readMembers (hdoomed : Doomed record) {fuel : Nat} {next : σ} {after : Cursor}
    (hread : Record.readMembers (fields.map (·.field)) fuel first record cursor =
      .ok (.ok next, after)) : Doomed next := by
  induction fuel generalizing first record cursor with
  | zero => exact absurd hread (cursor.fail_ne_ok _ _)
  | succ fuel ih =>
      rw [Record.readMembers] at hread
      obtain ⟨key?, -, hread⟩ := bind_eq_ok hread
      cases key? with
      | none =>
          cases hread
          exact hdoomed
      | some key =>
          dsimp only at hread
          rw [find?_map_field] at hread
          cases hfind : fields.find? fun meaning => meaning.field.name = key.1 with
          | none =>
              rw [hfind] at hread
              obtain ⟨colon, -, hread⟩ := bind_eq_ok hread
              obtain ⟨behind, -, hread⟩ := bind_eq_ok hread
              exact ih hdoomed hread
          | some meaning =>
              rw [hfind] at hread
              dsimp only [Option.map] at hread
              split at hread
              · cases hread
              · rename_i hset
                obtain ⟨colon, -, hread⟩ := bind_eq_ok hread
                obtain ⟨⟨result, behind⟩, hmember, hread⟩ := bind_eq_ok hread
                cases result with
                | error cause => cases hread
                | ok middle =>
                    have hunset := Bool.eq_false_iff.mpr hset
                    exact ih (meaning.stays_doomed hdoomed hunset hmember) hread

theorem gathers_readMembers (fields : List (FieldMeaning Doomed)) (record : σ)
    {members : List (Option String × Tree)}
    (hmembers : Written text (.members first members) rest) (hrest : cursor.rest = text)
    {fuel : Nat} (hfuel : members.length < fuel) :
    Gathers Doomed (gather fields record members) (fun after => Gap after.rest ('\x7d' :: rest))
      (Record.readMembers (fields.map (·.field)) fuel first record cursor) := by
  induction members generalizing text first record cursor fuel with
  | nil =>
      cases fuel with
      | zero => cases hfuel
      | succ fuel =>
          cases hmembers with
          | noMember hgap =>
              rw [← hrest] at hgap
              refine ⟨cursor, ?_, hgap⟩
              rw [Record.readMembers, nextKey_of_closing hgap]
              rfl
  | cons member members ih =>
      cases fuel with
      | zero => cases hfuel
      | succ fuel =>
          have hmany := Nat.lt_of_succ_lt_succ hfuel
          cases hmembers with
          | @member _ _ key name colon inner value tree more _ _ hlead hkey hcolon hgap hvalue
              hmore =>
              obtain ⟨quoted, rfl⟩ := hkey.head
              rw [← hrest] at hlead
              obtain ⟨front, hnext, hfront⟩ := nextKey_of_lead hlead
              have hread := yields_of_quoted hfront hkey
              rw [Record.readMembers, hnext, gather_cons]
              cases name with
              | none =>
                  obtain ⟨error, herror⟩ := hread
                  rw [herror]
                  exact nofun
              | some name =>
              obtain ⟨behind, hread, hbehind⟩ := hread
              rw [← hbehind] at hcolon
              obtain ⟨opened, hopened, hinner⟩ := readColon_of_gap hcolon
              rw [← hinner] at hgap
              rw [hread, gatherMember]
              dsimp only [Except.map, bind, Except.bind]
              rw [find?_map_field]
              cases hfind : fields.find? fun meaning => meaning.field.name = name with
              | none =>
                  obtain ⟨after, hskip, hafter⟩ := skipValue_of_written hgap hvalue
                  dsimp only [Option.map, Option.bind]
                  rw [hopened]
                  dsimp only
                  rw [hskip]
                  exact ih _ hmore hafter hmany
              | some meaning =>
                  dsimp only [Option.map]
                  split
                  · exact nofun
                  · rw [hopened]
                    exact (meaning.reads_member record hgap hvalue).bind
                      (fun next after hafter => ih next hmore hafter hmany)
                      (fun hdoomed hfinal => doomed_of_readMembers hdoomed hfinal)

theorem length_lt_of_members {members : List (Option String × Tree)}
    (hmembers : Written text (.members first members) rest) :
    members.length + rest.length < text.length := by
  induction members generalizing text first with
  | nil =>
      cases hmembers with
      | noMember hgap =>
          have hless := hgap.length_le
          simp only [List.length_cons, List.length_nil] at hless ⊢
          omega
  | cons member members ih =>
      cases hmembers with
      | member hlead hkey hcolon hgap hvalue hmore =>
          have hothers := ih hmore
          have hless := hvalue.length_lt
          have hle := hlead.length_le
          have hkeyless := hkey.length_lt
          have hcolonle := hcolon.length_le
          have hgaple := hgap.length_le
          simp only [List.length_cons] at hcolonle ⊢
          omega

end Members

/-! ## Reading elements -/

section Elements

variable {first : Bool}

theorem endList_of_lead {c : Char} {more : List Char} (hlead : Lead first cursor.rest (c :: more))
    (hspace : Cursor.isSpace c = false) (hclosing : c ≠ ']') :
    ∃ error, endList cursor = .error error := by
  unfold endList
  dsimp only
  cases hlead with
  | first hgap =>
      have hrest := Cursor.rest_skipSpace hgap (by rintro d ⟨⟩; exact hspace)
      rw [hrest]
      split
      · exact ⟨_, rfl⟩
      · rename_i heq
        exact absurd (List.cons.inj heq).1 hclosing
      · split <;> exact ⟨_, rfl⟩
      · exact ⟨_, rfl⟩
  | comma hgap hmore =>
      have hrest := Cursor.rest_skipSpace hgap (by rintro d ⟨⟩; rfl)
      rw [hrest]
      split
      · exact ⟨_, rfl⟩
      · rename_i heq
        exact absurd (List.cons.inj heq).1 (by decide)
      · split <;> exact ⟨_, rfl⟩
      · exact ⟨_, rfl⟩

/-- The elements of a list are read field by field.  Elements too many are found at the end. -/
theorem readFields_of_written (short : Nat → Option Cause) (fields : List (FieldMeaning Doomed))
    (count : Nat) (record : σ) {trees : List Tree}
    (helements : Written text (.elements first trees) rest) (hfirst : (count == 0) = first)
    (hrest : cursor.rest = text) :
    match gatherList short fields count record trees with
    | some full => ∃ after,
        Record.readFields short (fields.map (·.field)) count record cursor = .ok (.ok full, after) ∧
          Gap after.rest (']' :: rest)
    | none => ∀ next after,
        Record.readFields short (fields.map (·.field)) count record cursor = .ok (.ok next, after) →
          ∃ error, endList after = .error error := by
  induction fields generalizing text first trees cursor count record with
  | nil =>
      cases helements with
      | noElement hgap =>
          rw [← hrest] at hgap
          exact ⟨cursor, rfl, hgap⟩
      | element hlead hvalue hmore =>
          obtain ⟨c, others, rfl, hopens⟩ := hvalue.head
          rw [← hrest] at hlead
          intro next after hread
          cases hread
          exact endList_of_lead hlead hopens.not_space hopens.ne_closing.1
  | cons meaning fields ih =>
      rw [List.map_cons, Record.readFields, hfirst]
      cases helements with
      | noElement hgap =>
          rw [← hrest] at hgap
          rw [nextElement_of_closing hgap, gatherList]
          dsimp only [bind, Except.bind]
          cases short count with
          | none => exact ⟨cursor, rfl, hgap⟩
          | some cause => exact nofun
      | @element _ _ value tree middle trees _ hlead hvalue hmore =>
          obtain ⟨c, others, rfl, hopens⟩ := hvalue.head
          rw [← hrest] at hlead
          obtain ⟨front, hnext, hfront⟩ :=
            nextElement_of_lead hlead hopens.not_space hopens.ne_closing.1
          have hone := meaning.reads_element record (.of_eq hfront) hvalue
          rw [hnext, gatherList]
          dsimp only [bind, Except.bind]
          cases helement : meaning.element record tree with
          | none =>
              rw [helement] at hone
              obtain ⟨error, herror⟩ := hone
              rw [herror]
              exact nofun
          | some next =>
              rw [helement] at hone
              obtain ⟨after, hread, hafter⟩ := hone
              rw [hread]
              exact ih (count + 1) next hmore rfl hafter

end Elements

/-! ## Records -/

/-- A record, with what its fields stand for. -/
structure Meaning (format : Record σ α) where
  /-- What never becomes a record. -/
  Doomed : σ → Prop
  fields : List (FieldMeaning Doomed)
  fields_eq : format.fields = fields.map (·.field)
  finish_eq_error : ∀ record, Doomed record → ∃ cause, format.finish record = .error cause

namespace Meaning

variable {format : Record σ α}

/-- What a value stands for as a record. -/
def decode (meaning : Meaning format) : Tree → Option α
  | .object members =>
      (gather meaning.fields format.blank members).bind fun record =>
        (format.finish record).toOption
  | .list trees =>
      (gatherList format.short meaning.fields 0 format.blank trees).bind fun record =>
        (format.finish record).toOption
  | _ => none

/-- What has been gathered is finished and closed. -/
theorem yields_finish {finish : σ → Gathered α} {close : Cursor → Except ReadError Cursor}
    {place : Cursor → Cursor} {record? : Option σ} {result : Except ReadError (Gathered σ × Cursor)}
    (hsome : ∀ record, record? = some record → ∃ behind after,
      result = .ok (.ok record, behind) ∧ close behind = .ok after ∧ after.rest = rest)
    (hnone : record? = none → ∀ record behind, result = .ok (.ok record, behind) →
      (∃ cause, finish record = .error cause) ∨ ∃ error, close behind = .error error) :
    Yields (record?.bind fun record => (finish record).toOption) rest (do
      let (part, cursor) ← result
      match part >>= finish with
      | .ok record => return (record, ← close cursor)
      | .error cause => (place cursor).fail cause) := by
  cases record? with
  | some record =>
      obtain ⟨behind, after, rfl, hclose, hafter⟩ := hsome record rfl
      dsimp only [bind, Except.bind, Option.bind]
      cases finish record with
      | error cause => exact ⟨_, rfl⟩
      | ok value =>
          dsimp only
          rw [hclose]
          exact ⟨after, rfl, hafter⟩
  | none =>
      cases result with
      | error error => exact ⟨error, rfl⟩
      | ok read =>
          obtain ⟨part, behind⟩ := read
          cases part with
          | error cause => exact ⟨_, rfl⟩
          | ok record =>
              dsimp only [bind, Except.bind, Option.bind]
              rcases hnone rfl record behind rfl with ⟨cause, hcause⟩ | ⟨error, herror⟩
              · rw [hcause]
                exact ⟨_, rfl⟩
              · cases finish record with
                | error cause => exact ⟨_, rfl⟩
                | ok value =>
                    dsimp only
                    rw [herror]
                    exact ⟨_, rfl⟩

theorem reads (meaning : Meaning format) : Reads format.read meaning.decode := by
  intro cursor text rest tree hgap hvalue
  obtain ⟨c, more, rfl, hopens, hat, hrest⟩ := atValue_of_written hgap hvalue
  unfold Record.read
  rw [hat, meaning.fields_eq]
  have hnext := Cursor.rest_next hrest
  by_cases hobject : c = '\x7b'
  · subst hobject
    obtain ⟨members, rfl⟩ := hopens.eq_object
    cases hvalue with
    | object hmembers =>
        have hfuel : members.length < cursor.skipSpace.fuel := by
          have hlength := length_lt_of_members hmembers
          rw [Cursor.fuel, hrest, List.length_cons]
          omega
        have hread := gathers_readMembers meaning.fields format.blank hmembers hnext hfuel
        refine yields_finish (fun record hgather => ?_) (fun hgather record behind hresult => ?_)
        · rw [hgather] at hread
          obtain ⟨behind, hread, hbehind⟩ := hread
          obtain ⟨after, hend, hafter⟩ := endObject_of_closing hbehind
          exact ⟨behind, after, hread, hend, hafter⟩
        · rw [hgather] at hread
          exact Or.inl (meaning.finish_eq_error record (hread record behind hresult))
  by_cases hlist : c = '['
  · subst hlist
    obtain ⟨trees, rfl⟩ := hopens.eq_list
    cases hvalue with
    | list helements =>
        have hread :=
          readFields_of_written format.short meaning.fields 0 format.blank helements rfl hnext
        refine yields_finish (fun record hgather => ?_) (fun hgather record behind hresult => ?_)
        · rw [hgather] at hread
          obtain ⟨behind, hread, hbehind⟩ := hread
          obtain ⟨after, hend, hafter⟩ := endList_of_closing hbehind
          exact ⟨behind, after, hread, hend, hafter⟩
        · rw [hgather] at hread
          exact Or.inr (hread record behind hresult)
  dsimp only [bind, Except.bind]
  rw [if_neg hobject, if_neg hlist]
  cases tree with
  | list trees => exact absurd hopens hlist
  | object members => exact absurd hopens hobject
  | null | boolean | number | text => exact refuse_eq_error format.expected _

end Meaning

/-! ## Documents -/

/-- A document is read for what its value stands for, and for nothing else. -/
theorem toOption_readDocument {read : Cursor → Except ReadError (α × Cursor)}
    {decode : Tree → Option α} (hreads : Reads read decode) {tree : Tree} {content : String}
    (hdocument : Document content.toList tree) :
    (readDocument read content).toOption = decode tree := by
  generalize htext : content.toList = text at hdocument
  cases hdocument with
  | mk hgap hvalue hend =>
      rw [← htext] at hgap
      have hread := hreads (show Gap (Cursor.start content.toList).rest _ from hgap) hvalue
      unfold readDocument
      cases hdecode : decode tree with
      | none =>
          rw [hdecode] at hread
          obtain ⟨error, herror⟩ := hread
          rw [herror]
          rfl
      | some item =>
          rw [hdecode] at hread
          obtain ⟨after, hread, rfl⟩ := hread
          have hrest := Cursor.rest_skipSpace hend nofun
          rw [hread]
          dsimp only [bind, Except.bind]
          rw [hrest]
          rfl

end Decommission.Json
