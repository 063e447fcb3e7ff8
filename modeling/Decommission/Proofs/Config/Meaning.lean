import Decommission.Config.Load
import Decommission.Proofs.Json.Members
import Decommission.Proofs.Text.Utf8

/-!
# What documents of a configuration stand for

A service, a target and a configuration are read from a value as its fields say, in any order of the
members.
-/

namespace Decommission

open Json

variable {cursor : Cursor} {text rest : List Char} {tree : Tree}

/-! ## Paths and services -/

namespace Path

def decode (tree : Tree) : Option Path :=
  tree.text?.map ofString

theorem reads_read : Reads read decode :=
  (reads_readString "path string").map ofString

end Path

namespace Service

def fieldMeanings : List (FieldMeaning fun _ : Draft => False) :=
  [.plain "name" (·.name) (fun draft name => { draft with name := some name }) _ _
      (reads_readString "a string"),
    .plain "label" (·.label) (fun draft label => { draft with label := some label }) _ _
      (reads_readString "a string"),
    .plain "plist" (·.definition) (fun draft path => { draft with definition := some path }) _ _
      Path.reads_read]

def meaning : Meaning format where
  Doomed _ := False
  fields := fieldMeanings
  fields_eq := rfl
  finish_eq_error _ hdoomed := hdoomed.elim

theorem decode_object (members : List (Option String × Tree)) :
    meaning.decode (.object members) =
      (gather fieldMeanings {} members).bind fun draft => draft.finish.toOption := rfl

theorem fields_commute : fieldMeanings.Pairwise FieldMeaning.Commutes := by
  simp only [fieldMeanings, List.pairwise_cons, List.forall_mem_cons, List.not_mem_nil,
    false_implies, implies_true, List.Pairwise.nil, and_true]
  refine ⟨⟨?_, ?_⟩, ?_⟩
  all_goals exact FieldMeaning.commutes_plain (fun _ _ => rfl) (fun _ _ => rfl) (fun _ _ _ => rfl)

theorem fields_mark : ∀ meaning ∈ fieldMeanings, meaning.Marks := by
  simp only [fieldMeanings, List.forall_mem_cons, List.not_mem_nil, false_implies, implies_true,
    and_true]
  refine ⟨?_, ?_, ?_⟩
  all_goals exact FieldMeaning.marks_plain fun _ _ => rfl

end Service

/-! ## Kinds -/

namespace TargetKind

/-- A kind is named by a text, or by the only key of an object that holds nothing. -/
def decode : Tree → Option TargetKind
  | .text content => content.bind ofName?
  | .object [(name, .null)] => name.bind ofName?
  | _ => none

theorem reads_readName : Reads readName fun tree => tree.text?.bind ofName? := by
  intro cursor text rest tree hgap hvalue
  refine (reads_readString "variant identifier" hgap hvalue).bind fun name after hafter => ?_
  dsimp only [ofName]
  cases ofName? name with
  | none => exact ⟨_, rfl⟩
  | some kind => exact ⟨after, rfl, hafter⟩

theorem yields_readKey {name : Option String} {key : List Char} (hgap : Gap cursor.rest key)
    (hkey : Quoted key name rest) : Yields (name.bind ofName?) rest (readKey cursor) := by
  obtain ⟨more, rfl⟩ := hkey.head
  have hrest := Cursor.rest_skipSpace hgap (by rintro c ⟨⟩; rfl)
  unfold readKey
  dsimp only
  rw [hrest]
  exact reads_readName (.of_eq hrest) (.text hkey)

/-- What is left of an object behind its first key. -/
def afterKey (tree : Tree) (members : List (Option String × Tree)) (kind : TargetKind) :
    Option TargetKind :=
  match tree, members with
  | .null, [] => some kind
  | _, _ => none

theorem decode_object (name : Option String) (tree : Tree) (members : List (Option String × Tree)) :
    decode (.object ((name, tree) :: members)) =
      (name.bind ofName?).bind (afterKey tree members) := by
  have hnone : ∀ kind? : Option TargetKind, none = kind?.bind fun _ =>
      (none : Option TargetKind) := by
    intro kind?
    cases kind? <;> rfl
  cases tree with
  | null =>
      cases members with
      | nil =>
          rw [show afterKey .null [] = some from rfl, Option.bind_fun_some]
          rfl
      | cons member members => exact hnone _
  | boolean | number | text | list | object => exact hnone _

theorem yields_object {members : List (Option String × Tree)}
    (hmembers : Written text (.members true members) rest) (hrest : cursor.rest = text) :
    Yields (decode (.object members)) rest (do
      let (kind, cursor) ← readKey cursor
      let cursor ← readNull (← readColon cursor)
      let cursor := cursor.skipSpace
      match cursor.rest with
      | '\x7d' :: _ => return (kind, cursor.next)
      | [] => cursor.fail .endInObject
      | _ :: _ => cursor.fail .expectedValue) := by
  cases hmembers with
  | noMember hgap =>
      rw [← hrest] at hgap
      have hclosing := Cursor.rest_skipSpace hgap (by rintro c ⟨⟩; rfl)
      unfold readKey
      dsimp only
      rw [hclosing]
      exact ⟨_, rfl⟩
  | @member _ _ key name colon inner value tree more members _ hlead hkey hcolon hgap hvalue
      hmore =>
      cases hlead with
      | first hlead =>
      rw [← hrest] at hlead
      rw [decode_object]
      refine (yields_readKey hlead hkey).bind fun kind after hafter => ?_
      rw [← hafter] at hcolon
      obtain ⟨front, hfront, hinner⟩ := readColon_of_gap hcolon
      rw [← hinner] at hgap
      have hnull := readNull_of_written hgap hvalue
      dsimp only
      rw [hfront]
      dsimp only [bind, Except.bind]
      rcases hnull with ⟨rfl, behind, hread, hbehind⟩ | ⟨hnull, error, herror⟩
      · rw [hread]
        dsimp only
        cases hmore with
        | noMember hgap =>
            rw [← hbehind] at hgap
            have hclosing := Cursor.rest_skipSpace hgap (by rintro c ⟨⟩; rfl)
            rw [hclosing]
            exact ⟨_, rfl, Cursor.rest_next hclosing⟩
        | member hlead =>
            cases hlead with
            | comma hgap =>
                rw [← hbehind] at hgap
                have hcomma := Cursor.rest_skipSpace hgap (by rintro c ⟨⟩; rfl)
                rw [hcomma]
                exact ⟨_, rfl⟩
      · rw [herror]
        cases tree with
        | null => exact absurd rfl hnull
        | boolean | number | text | list | object => exact ⟨error, rfl⟩

theorem reads_read : Reads read decode := by
  intro cursor text rest tree hgap hvalue
  obtain ⟨c, more, rfl, hopens, hat, hrest⟩ := atValue_of_written hgap hvalue
  unfold read
  rw [hat]
  dsimp only [bind, Except.bind]
  by_cases hquote : c = '"'
  · subst hquote
    obtain ⟨content, rfl⟩ := hopens.eq_text
    rw [if_pos rfl]
    exact reads_readName (.of_eq hrest) hvalue
  rw [if_neg hquote]
  by_cases hobject : c = '\x7b'
  · subst hobject
    obtain ⟨members, rfl⟩ := hopens.eq_object
    rw [if_pos rfl]
    cases hvalue with
    | object hmembers => exact yields_object hmembers (Cursor.rest_next hrest)
  · rw [if_neg hobject]
    cases tree with
    | text content => exact absurd hopens hquote
    | object members => exact absurd hopens hobject
    | null | boolean | number | list => exact ⟨_, rfl⟩

end TargetKind

/-! ## Targets -/

namespace Target

/-- A path met too early that is no text: whatever follows, there will be no target. -/
def Doomed (draft : Draft) : Prop :=
  ∃ found, draft.path = .early found ∧ ∀ text, found ≠ .text text

theorem ne_text_of_isNoNatural {found : Found} (hfound : found.IsNoNatural) (text : String) :
    found ≠ .text text := by
  rintro rfl
  exact hfound

/-- A text is read as a text, however deep values may nest. -/
theorem yields_readAny_text (depth : Nat) {content : Option String} (hgap : Gap cursor.rest text)
    (hvalue : Written text (.value (.text content)) rest) :
    Yields (content.map Found.text) rest (readAny depth cursor) := by
  obtain ⟨c, more, rfl, rfl, hat, hrest⟩ := atValue_of_written hgap hvalue
  cases hvalue with
  | text hquoted =>
      unfold readAny
      rw [hat]
      exact (yields_of_quoted hrest hquoted).map Found.text

theorem ne_text_of_readNumber {natural : Option Nat} {digit : Char} {more : List Char}
    (hrest : cursor.rest = digit :: more) (hdigit : (Text.digitValue? digit).isSome = true)
    (hvalue : Written (digit :: more) (.value (.number natural)) rest) {found : Found}
    {after : Cursor} (hread : readNumber false cursor = .ok (found, after)) (text : String) :
    found ≠ .text text := by
  rw [← hrest] at hvalue
  generalize htext : cursor.rest = written at hvalue
  cases hvalue with
  | number hnumber hfollows =>
      cases hnumber with
      | natural hmagnitude =>
          rw [← htext] at hmagnitude
          rcases readNumber_of_plain hmagnitude hfollows with ⟨-, behind, hread', -⟩ | ⟨-, hother⟩
          · rw [hread'] at hread
            cases hread
            exact nofun
          · exact ne_text_of_isNoNatural (hother found after hread) text
      | real hmagnitude =>
          rw [← htext] at hmagnitude
          exact ne_text_of_isNoNatural (isNoNatural_of_not_plain hmagnitude hfollows hread) text
      | negative hmagnitude =>
          rw [hrest] at htext
          obtain ⟨rfl, -⟩ := List.cons.inj htext
          cases hdigit

/-- What is no text is not read as one. -/
theorem ne_text_of_readAny {depth : Nat} (hgap : Gap cursor.rest text)
    (hvalue : Written text (.value tree) rest) (htree : ∀ content, tree ≠ .text content)
    {found : Found} {after : Cursor} (hread : readAny depth cursor = .ok (found, after))
    (text : String) : found ≠ .text text := by
  obtain ⟨c, more, rfl, hopens, hat, hrest⟩ := atValue_of_written hgap hvalue
  unfold readAny at hread
  rw [hat] at hread
  obtain ⟨⟨d, front⟩, hfront, hread⟩ := bind_eq_ok hread
  obtain ⟨rfl, rfl⟩ := Prod.mk.inj (Except.ok.inj hfront)
  dsimp only at hread
  split at hread
  · obtain ⟨behind, -, hread⟩ := bind_eq_ok hread
    cases hread
    exact nofun
  split at hread
  · obtain ⟨behind, -, hread⟩ := bind_eq_ok hread
    cases hread
    exact nofun
  split at hread
  · obtain ⟨behind, -, hread⟩ := bind_eq_ok hread
    cases hread
    exact nofun
  split at hread
  · exact ne_text_of_isNoNatural (isNoNatural_of_negative hread) text
  split at hread
  · rename_i hdigit
    obtain ⟨natural, rfl⟩ := hopens.eq_number (Or.inr hdigit)
    exact ne_text_of_readNumber hrest hdigit hvalue hread text
  split at hread
  · rename_i hquote
    subst hquote
    obtain ⟨content, rfl⟩ := hopens.eq_text
    exact absurd rfl (htree content)
  split at hread
  · cases depth with
    | zero => exact absurd hread (Cursor.failNext_ne_ok _ _ _)
    | succ depth =>
        obtain ⟨elements, -, hread⟩ := bind_eq_ok hread
        obtain ⟨behind, -, hread⟩ := bind_eq_ok hread
        cases hread
        exact nofun
  split at hread
  · cases depth with
    | zero => exact absurd hread (Cursor.failNext_ne_ok _ _ _)
    | succ depth =>
        obtain ⟨members, -, hread⟩ := bind_eq_ok hread
        obtain ⟨behind, -, hread⟩ := bind_eq_ok hread
        cases hread
        exact nofun
  · exact absurd hread (Cursor.failNext_ne_ok _ _ _)

theorem gathers_kindMember (draft : Draft) (hgap : Gap cursor.rest text)
    (hvalue : Written text (.value tree) rest) :
    Gathers Doomed ((TargetKind.decode tree).bind fun kind => (draft.withKind kind).toOption)
      (fun after => after.rest = rest) (kindField.member draft cursor) :=
  gathers_of_yields (TargetKind.reads_read hgap hvalue) draft.withKind

def kindMeaning : FieldMeaning Doomed where
  field := kindField
  member draft tree := (TargetKind.decode tree).bind fun kind => (draft.withKind kind).toOption
  element draft tree :=
    (tree.text?.bind TargetKind.ofName?).map fun kind => { draft with kind := some kind }
  reads_member draft _ _ _ _ hgap hvalue := gathers_kindMember draft hgap hvalue
  reads_element draft :=
    TargetKind.reads_readName.map fun kind => ({ draft with kind := some kind } : Draft)
  stays_doomed := by
    rintro draft next cursor after ⟨found, hpath, htext⟩ - hmember
    obtain ⟨⟨kind, behind⟩, -, hmember⟩ := bind_eq_ok hmember
    have hkind : draft.withKind kind = .error (.invalidType found "path string") := by
      unfold Draft.withKind
      rw [hpath]
      cases found with
      | text text => exact absurd rfl (htext text)
      | null | boolean | unsigned | negative | real | sequence | map => rfl
    dsimp only at hmember
    rw [hkind] at hmember
    cases hmember

/-- Met before the kind, a path is kept as the text that it is. -/
def pathMember (draft : Draft) (tree : Tree) : Option Draft :=
  if draft.kind.isSome then (Path.decode tree).map fun path => { draft with path := .read path }
  else tree.text?.map fun text => { draft with path := .early (.text text) }

theorem gathers_pathMember (depth : Nat) (draft : Draft) (hgap : Gap cursor.rest text)
    (hvalue : Written text (.value tree) rest) :
    Gathers Doomed (pathMember draft tree) (fun after => after.rest = rest)
      ((pathField depth).member draft cursor) := by
  unfold pathMember
  by_cases hkind : draft.kind.isSome = true
  · simp only [pathField, if_pos hkind]
    rw [Option.map_eq_bind]
    exact gathers_of_yields (Path.reads_read hgap hvalue)
      fun path => .ok { draft with path := .read path }
  · simp only [pathField, if_neg hkind]
    cases tree with
    | text content =>
        have hread := yields_readAny_text depth hgap hvalue
        cases content with
        | none | some content =>
            exact gathers_of_yields hread fun found => .ok { draft with path := .early found }
    | null | boolean | number | list | object =>
        intro next after hnext
        obtain ⟨⟨found, behind⟩, hread, hnext⟩ := bind_eq_ok hnext
        cases hnext
        exact ⟨found, rfl, ne_text_of_readAny hgap hvalue nofun hread⟩

def pathMeaning (depth : Nat) : FieldMeaning Doomed where
  field := pathField depth
  member := pathMember
  element draft tree := (Path.decode tree).map fun path => { draft with path := .read path }
  reads_member draft _ _ _ _ hgap hvalue := gathers_pathMember depth draft hgap hvalue
  reads_element draft := Path.reads_read.map fun path => ({ draft with path := .read path } : Draft)
  stays_doomed := by
    rintro draft next cursor after ⟨found, hpath, htext⟩ hset -
    have hmissing : draft.hasPath = false := hset
    rw [Draft.hasPath, hpath] at hmissing
    cases hmissing

def fieldMeanings (depth : Nat) : List (FieldMeaning Doomed) :=
  [kindMeaning, pathMeaning depth]

def meaning (depth : Nat) : Meaning (format depth) where
  Doomed := Doomed
  fields := fieldMeanings depth
  fields_eq := rfl
  finish_eq_error := by
    rintro draft ⟨found, hpath, -⟩
    show ∃ cause, draft.finish = .error cause
    unfold Draft.finish
    rw [hpath]
    cases draft.kind with
    | none => exact ⟨_, rfl⟩
    | some kind => exact ⟨_, rfl⟩

theorem decode_object (depth : Nat) (members : List (Option String × Tree)) :
    (meaning depth).decode (.object members) =
      (gather (fieldMeanings depth) {} members).bind fun draft => draft.finish.toOption := rfl

theorem hasPath_of_withKind {draft next : Draft} {kind : TargetKind}
    (hnext : draft.withKind kind = .ok next) :
    next.hasPath = draft.hasPath ∧ next.kind = some kind := by
  obtain ⟨kind?, path⟩ := draft
  unfold Draft.withKind at hnext
  cases path with
  | missing | read =>
      cases hnext
      exact ⟨rfl, rfl⟩
  | early found =>
      cases found with
      | text text =>
          cases hnext
          exact ⟨rfl, rfl⟩
      | null | boolean | unsigned | negative | real | sequence | map => cases hnext

theorem hasPath_of_kindMember {draft next : Draft}
    (hnext : kindMeaning.member draft tree = some next) :
    next.hasPath = draft.hasPath ∧ next.kind.isSome = true := by
  obtain ⟨kind, -, hkind⟩ := Option.bind_eq_some_iff.mp hnext
  obtain ⟨hpath, hset⟩ := hasPath_of_withKind (ok_of_toOption hkind)
  exact ⟨hpath, by rw [hset]; rfl⟩

theorem kind_of_pathMember {draft next : Draft} (hnext : pathMember draft tree = some next) :
    next.kind = draft.kind ∧ next.hasPath = true := by
  unfold pathMember at hnext
  split at hnext
  · obtain ⟨path, -, rfl⟩ := Option.map_eq_some_iff.mp hnext
    exact ⟨rfl, rfl⟩
  · obtain ⟨content, -, rfl⟩ := Option.map_eq_some_iff.mp hnext
    exact ⟨rfl, rfl⟩

theorem kind_commutes_path (depth : Nat) : kindMeaning.Commutes (pathMeaning depth) where
  keeps_second hnext := (hasPath_of_kindMember hnext).1
  keeps_first hnext := congrArg Option.isSome (kind_of_pathMember hnext).1
  comm draft tree other hkind hpath := by
    -- What is met first makes no difference, since an early text becomes the same path.
    obtain ⟨kind, path⟩ := draft
    cases kind with
    | some kind => cases hkind
    | none =>
    cases path with
    | early | read => cases hpath
    | missing =>
        show ((TargetKind.decode tree).bind _).bind _ = (other.text?.map _).bind _
        cases hdecode : TargetKind.decode tree with
        | none =>
            cases htext : other.text? with
            | none => rfl
            | some content =>
                show none = (TargetKind.decode tree).bind _
                rw [hdecode]
                rfl
        | some kind =>
            show (other.text?.map _).map _ = _
            cases htext : other.text? with
            | none => rfl
            | some content =>
                show _ = (TargetKind.decode tree).bind _
                rw [hdecode]
                rfl

theorem fields_commute (depth : Nat) : (fieldMeanings depth).Pairwise FieldMeaning.Commutes :=
  .cons (by simpa [fieldMeanings] using kind_commutes_path depth) (.cons nofun .nil)

theorem fields_mark (depth : Nat) : ∀ meaning ∈ fieldMeanings depth, meaning.Marks := by
  simp only [fieldMeanings, List.forall_mem_cons, List.not_mem_nil, false_implies, implies_true,
    and_true]
  exact ⟨fun _ _ _ hnext => (hasPath_of_kindMember hnext).2,
    fun _ _ _ hnext => (kind_of_pathMember hnext).2⟩

end Target

/-! ## Configurations -/

namespace Config

def fieldMeanings : List (FieldMeaning fun _ : Draft => False) :=
  [.plain "services" (·.services) (fun draft value => { draft with services := some value }) _ _
      (reads_readList Service.meaning.reads),
    .plain "targets" (·.targets) (fun draft value => { draft with targets := some value }) _ _
      (reads_readList (Target.meaning Target.depthInConfig).reads),
    .plain "log_path" (·.logPath) (fun draft value => { draft with logPath := some value }) _ _
      Path.reads_read,
    .plain "poll_interval_ms" (·.pollInterval)
      (fun draft value => { draft with pollInterval := some value }) _ _ reads_readUnsigned,
    .plain "stop_timeout_secs" (·.stopTimeout)
      (fun draft value => { draft with stopTimeout := some value }) _ _ reads_readUnsigned,
    .plain "launchctl" (·.launchctl) (fun draft value => { draft with launchctl := some value }) _ _
      Path.reads_read,
    .plain "domain" (·.domain) (fun draft value => { draft with domain := some value }) _ _
      (reads_readString "a string"),
    .plain "dry_run" (·.dryRun) (fun draft value => { draft with dryRun := some value }) _ _
      reads_readBoolean]

def meaning : Meaning format where
  Doomed _ := False
  fields := fieldMeanings
  fields_eq := rfl
  finish_eq_error _ hdoomed := hdoomed.elim

theorem decode_object (members : List (Option String × Tree)) :
    meaning.decode (.object members) = (gather fieldMeanings {} members).map Draft.finish := by
  show (gather fieldMeanings {} members).bind (fun draft => some draft.finish) = _
  cases gather fieldMeanings {} members <;> rfl

theorem fields_commute : fieldMeanings.Pairwise FieldMeaning.Commutes := by
  simp only [fieldMeanings, List.pairwise_cons, List.forall_mem_cons, List.not_mem_nil,
    false_implies, implies_true, List.Pairwise.nil, and_true]
  refine ⟨⟨?_, ?_, ?_, ?_, ?_, ?_, ?_⟩, ⟨?_, ?_, ?_, ?_, ?_, ?_⟩, ⟨?_, ?_, ?_, ?_, ?_⟩,
    ⟨?_, ?_, ?_, ?_⟩, ⟨?_, ?_, ?_⟩, ⟨?_, ?_⟩, ?_⟩
  all_goals exact FieldMeaning.commutes_plain (fun _ _ => rfl) (fun _ _ => rfl) (fun _ _ _ => rfl)

theorem fields_mark : ∀ meaning ∈ fieldMeanings, meaning.Marks := by
  simp only [fieldMeanings, List.forall_mem_cons, List.not_mem_nil, false_implies, implies_true,
    and_true]
  refine ⟨?_, ?_, ?_, ?_, ?_, ?_, ?_, ?_⟩
  all_goals exact FieldMeaning.marks_plain fun _ _ => rfl

end Config

/-- A file that holds the bytes of a text is read as that text. -/
theorem FileSystem.readText_of_readBytes {files : FileSystem} {path : Path} {text : List Char}
    (hbytes : files.readBytes path = .ok (Utf8.encode text)) :
    files.readText path = .ok (String.ofList text) := by
  unfold readText
  rw [hbytes]
  dsimp only [bind, Except.bind]
  rw [Utf8.decode?_encode]
  rfl

end Decommission
