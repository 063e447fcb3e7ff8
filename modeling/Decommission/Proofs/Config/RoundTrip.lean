import Decommission.Proofs.Config.Meaning
import Decommission.Proofs.Json.Rearranging

/-!
# Writing and reading back

A configuration, a service and a target have a written form if all their paths are text, and their
written forms are read back as what they were, in whatever order the members stand.
-/

namespace Decommission

open Json

/-! ## Writing -/

section Writing

theorem Path.toValue_eq_error_iff {path : Path} :
    path.toValue = .error .pathNotText ↔ path.text? = none := by
  unfold toValue
  cases path.text? with
  | none => simp
  | some text => simp

theorem Path.decode_of_toValue {path : Path} {value : Value} (hwritten : path.toValue = .ok value) :
    decode value.tree = some path := by
  unfold toValue at hwritten
  cases htext : path.text? with
  | none =>
      rw [htext] at hwritten
      cases hwritten
  | some text =>
      rw [htext] at hwritten
      cases hwritten
      exact congrArg some (ofString_of_text? htext)

variable {α : Type} {write : α → Except Unwritable Value}

/-- There is only one reason for a failure. -/
theorem mapM_eq_error_iff {items : List α} :
    items.mapM write = .error .pathNotText ↔ ∃ item ∈ items, write item = .error .pathNotText := by
  induction items with
  | nil => simp [pure, Except.pure]
  | cons item items ih =>
      rw [List.mapM_cons]
      cases hitem : write item with
      | error reason =>
          cases reason
          simp [bind, Except.bind, hitem]
      | ok value =>
          cases hitems : items.mapM write with
          | error reason =>
              rw [hitems] at ih
              simpa [bind, Except.bind, pure, Except.pure, hitem] using ih
          | ok values =>
              rw [hitems] at ih
              simpa [bind, Except.bind, pure, Except.pure, hitem] using ih

theorem list?_of_mapM {decode : Tree → Option α}
    (hdecode : ∀ {item value}, write item = .ok value → decode value.tree = some item)
    {items : List α} {values : List Value} (hwritten : items.mapM write = .ok values) :
    Tree.list? decode (Value.list values).tree = some items := by
  rw [Value.tree, Value.trees_eq_map, Tree.list?]
  induction items generalizing values with
  | nil =>
      cases hwritten
      rfl
  | cons item items ih =>
      rw [List.mapM_cons] at hwritten
      obtain ⟨value, hitem, hwritten⟩ := bind_eq_ok hwritten
      obtain ⟨others, hitems, hwritten⟩ := bind_eq_ok hwritten
      cases hwritten
      rw [List.map_cons, List.mapM_cons, hdecode hitem, ih hitems]
      rfl

end Writing

/-- Something is written if its paths are text, and what is written is read back in both forms and
in any order of members. -/
structure RoundTrips {α : Type} (write : α → Except Unwritable Value) (paths : α → List Path)
    (ReadAs : List Char → α → Prop) (item : α) : Prop where
  fails_iff : write item = .error .pathNotText ↔ ∃ path ∈ paths item, path.text? = none
  reads_back : (∀ path ∈ paths item, path.text? ≠ none) → ∃ value, write item = .ok value ∧
    ∀ arranged, value.Rearranges arranged →
      ReadAs arranged.compact item ∧ ReadAs (arranged.spread 0) item

theorem roundTrips_of_written {α : Type} {write : α → Except Unwritable Value}
    {paths : α → List Path} {ReadAs : List Char → α → Prop} {item : α}
    (hfails : write item = .error .pathNotText ↔ ∃ path ∈ paths item, path.text? = none)
    (hreads : ∀ {value arranged}, write item = .ok value → value.Rearranges arranged →
      ReadAs arranged.compact item ∧ ReadAs (arranged.spread 0) item) :
    RoundTrips write paths ReadAs item where
  fails_iff := hfails
  reads_back htext := by
    cases hwritten : write item with
    | error reason =>
        cases reason
        obtain ⟨path, hmem, hnone⟩ := hfails.mp hwritten
        exact absurd hnone (htext path hmem)
    | ok value => exact ⟨value, rfl, fun arranged hrearranges => hreads hwritten hrearranges⟩

/-- What has a written form that stands for it, in every order, is read back. -/
theorem reads_back_of_decode {α : Type} {item : α} {read : Cursor → Except ReadError (α × Cursor)}
    {decode : Tree → Option α} (hreads : Reads read decode) (hstable : Stable decode)
    {value arranged : Value} (hdecode : decode value.tree = some item)
    (hrearranges : value.Rearranges arranged) :
    readDocument read (String.ofList arranged.compact) = .ok item ∧
      readDocument read (String.ofList (arranged.spread 0)) = .ok item := by
  rw [hstable.rearranges hrearranges] at hdecode
  have hread : ∀ text, Writes text arranged.tree →
      readDocument read (String.ofList text) = .ok item := by
    intro text hwrites
    have hdocument := document_of_writes hwrites
    rw [← @String.toList_ofList text] at hdocument
    exact ok_of_toOption ((toOption_readDocument hreads hdocument).trans hdecode)
  exact ⟨hread _ arranged.writes_compact, hread _ (arranged.writes_spread 0)⟩

/-! ## Services -/

namespace Service

def paths (service : Service) : List Path := [service.definition]

theorem toValue_eq_error_iff {service : Service} :
    service.toValue = .error .pathNotText ↔ service.definition.text? = none := by
  rw [← Path.toValue_eq_error_iff]
  unfold toValue
  cases service.definition.toValue with
  | error reason => simp [bind, Except.bind]
  | ok value => simp [bind, Except.bind, pure, Except.pure]

theorem decode_of_toValue {service : Service} {value : Value}
    (hwritten : service.toValue = .ok value) : meaning.decode value.tree = some service := by
  obtain ⟨definition, hdefinition, hwritten⟩ := bind_eq_ok hwritten
  cases hwritten
  have hpath := Path.decode_of_toValue hdefinition
  rw [Value.tree, decode_object]
  simp only [Value.tree.memberTrees]
  simp [gather, gatherMember, fieldMeanings, FieldMeaning.plain, RecordField.plain, Tree.text?,
    Value.tree, hpath, Draft.finish, Except.toOption]

theorem stable_decode : Stable meaning.decode := by
  refine meaning.stable_decode fields_commute fields_mark ?_
  show ∀ meaning ∈ fieldMeanings, meaning.IsStable
  simp only [fieldMeanings, List.forall_mem_cons, List.not_mem_nil, false_implies, implies_true,
    and_true]
  exact ⟨.plain stable_text?, .plain stable_text?, .plain (stable_text?.map Path.ofString)⟩

theorem roundTrips (service : Service) :
    RoundTrips toValue paths (fun text service => ofText (String.ofList text) = .ok service)
      service :=
  roundTrips_of_written (by simp [toValue_eq_error_iff, paths]) fun hwritten hrearranges =>
    reads_back_of_decode meaning.reads stable_decode (decode_of_toValue hwritten) hrearranges

end Service

/-! ## Targets -/

namespace TargetKind

/-- What is written has no nothing in it, so no object names a kind. -/
theorem stable_decode : Stable decode := by
  have hnone : ∀ members : List (String × Value), decode (Value.object members).tree = none := by
    intro members
    rw [Value.tree, Value.memberTrees_eq_map]
    rcases members with _ | ⟨⟨key, value⟩, _ | ⟨second, members⟩⟩
    · rfl
    · cases value <;> rfl
    · cases value <;> rfl
  rintro _ _ (_ | _ | _)
  · rw [hnone, hnone]
  · rfl
  · rw [hnone, hnone]

end TargetKind

namespace Target

def paths (target : Target) : List Path := [target.path]

theorem toValue_eq_error_iff {target : Target} :
    target.toValue = .error .pathNotText ↔ target.path.text? = none := by
  rw [← Path.toValue_eq_error_iff]
  unfold toValue
  cases target.path.toValue with
  | error reason => simp [bind, Except.bind]
  | ok value => simp [bind, Except.bind, pure, Except.pure]

theorem decode_of_toValue (depth : Nat) {target : Target} {value : Value}
    (hwritten : target.toValue = .ok value) : (meaning depth).decode value.tree = some target := by
  obtain ⟨path, hpath, hwritten⟩ := bind_eq_ok hwritten
  cases hwritten
  have hpath := Path.decode_of_toValue hpath
  rw [Value.tree, decode_object]
  simp only [Value.tree.memberTrees]
  simp [gather, gatherMember, fieldMeanings, kindMeaning, kindField, pathMeaning, pathField,
    pathMember, Draft.hasPath, Draft.withKind, TargetKind.decode, TargetKind.ofName?_name,
    Value.tree, hpath, Draft.finish, Except.toOption]

theorem stable_pathMember (draft : Draft) : Stable (pathMember draft) := by
  intro value other hpermutes
  simp only [pathMember, Path.decode, stable_text? hpermutes]

theorem stable_decode (depth : Nat) : Stable (meaning depth).decode := by
  refine (meaning depth).stable_decode (fields_commute depth) (fields_mark depth) ?_
  show ∀ meaning ∈ fieldMeanings depth, meaning.IsStable
  simp only [fieldMeanings, List.forall_mem_cons, List.not_mem_nil, false_implies, implies_true,
    and_true]
  exact ⟨⟨fun draft => TargetKind.stable_decode.bind _, fun draft => (stable_text?.bind _).map _⟩,
    ⟨stable_pathMember, fun draft => (stable_text?.map Path.ofString).map _⟩⟩

theorem roundTrips (target : Target) :
    RoundTrips toValue paths (fun text target => ofText (String.ofList text) = .ok target)
      target :=
  roundTrips_of_written (by simp [toValue_eq_error_iff, paths]) fun hwritten hrearranges =>
    reads_back_of_decode (meaning depthAlone).reads (stable_decode depthAlone)
      (decode_of_toValue depthAlone hwritten) hrearranges

end Target

/-! ## Configurations -/

namespace Config

/-- The paths that are written. -/
def paths (config : Config) : List Path :=
  config.services.map Service.definition ++ config.targets.map Target.path ++
    [config.logPath, config.launchctl]

theorem unsigned?_toNat (value : UInt64) :
    Tree.unsigned? (.number (some value.toNat)) = some value := by
  rw [Tree.unsigned?, if_pos value.toNat_lt_size, UInt64.ofNat_toNat]

/-- A configuration is written part by part, and every part has its own paths. -/
theorem toValue_eq_error_iff {config : Config} :
    config.toValue = .error .pathNotText ↔ ∃ path ∈ config.paths, path.text? = none := by
  have hparts : config.toValue = .error .pathNotText ↔
      config.services.mapM Service.toValue = .error .pathNotText ∨
        config.targets.mapM Target.toValue = .error .pathNotText ∨
          config.logPath.toValue = .error .pathNotText ∨
            config.launchctl.toValue = .error .pathNotText := by
    unfold toValue
    cases config.services.mapM Service.toValue with
    | error reason => cases reason; simp [bind, Except.bind]
    | ok services =>
    cases config.targets.mapM Target.toValue with
    | error reason => cases reason; simp [bind, Except.bind]
    | ok targets =>
    cases config.logPath.toValue with
    | error reason => cases reason; simp [bind, Except.bind]
    | ok logPath =>
    cases config.launchctl.toValue with
    | error reason => simp [bind, Except.bind]
    | ok launchctl => simp [bind, Except.bind, pure, Except.pure]
  rw [hparts, mapM_eq_error_iff, mapM_eq_error_iff, Path.toValue_eq_error_iff,
    Path.toValue_eq_error_iff]
  simp [paths, Service.toValue_eq_error_iff, Target.toValue_eq_error_iff, or_and_right, exists_or]

theorem decode_of_toValue {config : Config} {value : Value}
    (hwritten : config.toValue = .ok value) :
    meaning.decode value.tree = some config := by
  obtain ⟨services, hservices, hwritten⟩ := bind_eq_ok hwritten
  obtain ⟨targets, htargets, hwritten⟩ := bind_eq_ok hwritten
  obtain ⟨logPath, hlogPath, hwritten⟩ := bind_eq_ok hwritten
  obtain ⟨launchctl, hlaunchctl, hwritten⟩ := bind_eq_ok hwritten
  cases hwritten
  have hservices := list?_of_mapM Service.decode_of_toValue hservices
  have htargets := list?_of_mapM (Target.decode_of_toValue Target.depthInConfig) htargets
  have hlogPath := Path.decode_of_toValue hlogPath
  have hlaunchctl := Path.decode_of_toValue hlaunchctl
  rw [Value.tree] at hservices htargets
  rw [Value.tree, decode_object]
  simp only [Value.tree.memberTrees]
  simp [gather, gatherMember, fieldMeanings, FieldMeaning.plain, RecordField.plain, Tree.text?,
    Tree.boolean?, unsigned?_toNat, hservices, htargets, hlogPath, hlaunchctl, Value.tree,
    Draft.finish]

theorem stable_decode : Stable meaning.decode := by
  refine meaning.stable_decode fields_commute fields_mark ?_
  show ∀ meaning ∈ fieldMeanings, meaning.IsStable
  simp only [fieldMeanings, List.forall_mem_cons, List.not_mem_nil, false_implies, implies_true,
    and_true]
  exact ⟨.plain (stable_list? Service.stable_decode),
    .plain (stable_list? (Target.stable_decode Target.depthInConfig)),
    .plain (stable_text?.map Path.ofString), .plain stable_unsigned?, .plain stable_unsigned?,
    .plain (stable_text?.map Path.ofString), .plain stable_text?, .plain stable_boolean?⟩

/-- A file with this text is loaded as the configuration. -/
def LoadsFrom (text : List Char) (config : Config) : Prop :=
  ∀ (files : FileSystem) (path : Path), files.readBytes path = .ok (Utf8.encode text) →
    load files path = .ok config

theorem loadsFrom_of_ofText {text : List Char} {config : Config}
    (htext : ofText (String.ofList text) = .ok config) : LoadsFrom text config := by
  intro files path hbytes
  rw [load, FileSystem.readText_of_readBytes hbytes]
  dsimp only [Except.mapError, bind, Except.bind]
  rw [htext]

theorem roundTrips (config : Config) : RoundTrips toValue paths LoadsFrom config := by
  refine roundTrips_of_written toValue_eq_error_iff fun hwritten hrearranges => ?_
  obtain ⟨hcompact, hspread⟩ :=
    reads_back_of_decode meaning.reads stable_decode (decode_of_toValue hwritten) hrearranges
  exact ⟨loadsFrom_of_ofText hcompact, loadsFrom_of_ofText hspread⟩

end Config

/-- Configurations, services and targets are read back as they were written, in either form and in
any order of members; only a path that is no text cannot be written. -/
theorem documents_round_trip :
    (∀ config : Config, RoundTrips Config.toValue Config.paths Config.LoadsFrom config) ∧
      (∀ service : Service, RoundTrips Service.toValue Service.paths
        (fun text service => Service.ofText (String.ofList text) = .ok service) service) ∧
      (∀ target : Target, RoundTrips Target.toValue Target.paths
        (fun text target => Target.ofText (String.ofList text) = .ok target) target) :=
  ⟨Config.roundTrips, Service.roundTrips, Target.roundTrips⟩

end Decommission
