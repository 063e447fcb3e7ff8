import Decommission.Config.Validate
import Mathlib.Data.List.Nodup
import Mathlib.Data.List.TakeWhile

/-!
# Valid configurations

What a valid configuration is, said without an order, and which defect is the first one of a
configuration that is not valid.  A configuration is accepted if and only if it is valid, and one
that is refused is refused for its first defect.
-/

namespace Decommission

/-- Trimming leaves nothing of a blank text, and something of any other. -/
theorem Text.isBlank_iff {text : String} : isBlank text = true ↔ trim text = "" := by
  have hblank : text.toList.dropWhile isBlankChar = [] ↔ isBlank text = true := by
    rw [List.dropWhile_eq_nil_iff, isBlank, List.all_eq_true]
  rw [← hblank, trim, ← String.ofList_nil, String.ofList_inj, List.reverse_eq_nil_iff]
  constructor
  · intro hfront
    rw [hfront]
    rfl
  · intro hempty
    rw [List.dropWhile_eq_nil_iff] at hempty
    -- What is left after the front was trimmed would begin with a character that is not blank.
    by_contra hfront
    have hhead := List.head_dropWhile_not isBlankChar hfront
    rw [hempty _ (List.mem_reverse.mpr (List.head_mem hfront))] at hhead
    cases hhead

/-- A service has a name, a label and a definition. -/
structure Service.IsComplete (service : Service) : Prop where
  name : Text.trim service.name ≠ ""
  label : Text.trim service.label ≠ ""
  definition : service.definition.bytes ≠ []

namespace Config

/-- The services are complete, and no two of them have one label. -/
structure ServicesValid (services : List Service) : Prop where
  complete : ∀ service ∈ services, service.IsComplete
  labels : (services.map (·.label)).Nodup

structure IsValid (config : Config) : Prop where
  services : ServicesValid config.services
  targets : ∀ target ∈ config.targets, target.path.isAbsolute = true
  pollInterval : 0 < config.pollInterval
  domain : Text.trim config.domain ≠ ""

/-- What is first wrong with a service that comes after services with the labels `taken`. -/
inductive ServiceDefect (taken : List String) (service : Service) : Defect → Prop where
  | name (hname : Text.trim service.name = "") : ServiceDefect taken service .emptyName
  | label (hname : Text.trim service.name ≠ "") (hlabel : Text.trim service.label = "") :
      ServiceDefect taken service (.emptyLabel service.name)
  | definition (hname : Text.trim service.name ≠ "") (hlabel : Text.trim service.label ≠ "")
      (hdefinition : service.definition.bytes = []) :
      ServiceDefect taken service (.noDefinition service.name)
  | duplicate (hcomplete : service.IsComplete) (hlabel : service.label ∈ taken) :
      ServiceDefect taken service (.duplicateLabel service.label)

/-- The first defect of a configuration: that of a service behind services that are valid, then that
of a target behind targets that are absolute, then the poll interval, then the domain. -/
inductive FirstDefect (config : Config) : Defect → Prop where
  | service {before service after defect} (hservices : config.services = before ++ service :: after)
      (hbefore : ServicesValid before)
      (hdefect : ServiceDefect (before.map (·.label)) service defect) : FirstDefect config defect
  | target {before target after} (hservices : ServicesValid config.services)
      (htargets : config.targets = before ++ target :: after)
      (hbefore : ∀ earlier ∈ before, earlier.path.isAbsolute = true)
      (htarget : target.path.isAbsolute = false) : FirstDefect config (.relativeTarget target.path)
  | pollInterval (hservices : ServicesValid config.services)
      (htargets : ∀ target ∈ config.targets, target.path.isAbsolute = true)
      (hinterval : config.pollInterval = 0) : FirstDefect config .noPollInterval
  | domain (hservices : ServicesValid config.services)
      (htargets : ∀ target ∈ config.targets, target.path.isAbsolute = true)
      (hinterval : 0 < config.pollInterval) (hdomain : Text.trim config.domain = "") :
      FirstDefect config .emptyDomain

/-! ## Services -/

section Services

variable {taken : List String} {service : Service} {services : List Service} {defect : Defect}

theorem servicesValid_nil : ServicesValid [] :=
  ⟨by simp, by simp⟩

theorem servicesValid_cons : ServicesValid (service :: services) ↔
    service.IsComplete ∧ (∀ other ∈ services, other.label ≠ service.label) ∧
      ServicesValid services := by
  constructor
  · rintro ⟨hcomplete, hlabels⟩
    rw [List.map_cons, List.nodup_cons] at hlabels
    refine ⟨hcomplete service (by simp), fun other hother hsame => hlabels.1 ?_,
      fun other hother => hcomplete other (by simp [hother]), hlabels.2⟩
    exact List.mem_map.mpr ⟨other, hother, hsame⟩
  · rintro ⟨hservice, hothers, hcomplete, hlabels⟩
    refine ⟨List.forall_mem_cons.mpr ⟨hservice, hcomplete⟩, ?_⟩
    rw [List.map_cons, List.nodup_cons]
    refine ⟨fun hmem => ?_, hlabels⟩
    obtain ⟨other, hother, hsame⟩ := List.mem_map.mp hmem
    exact hothers other hother hsame

/-- Only which labels are taken matters, not their order. -/
theorem ServiceDefect.congr {others : List String} (hdefect : ServiceDefect taken service defect)
    (hsame : ∀ label, label ∈ taken ↔ label ∈ others) : ServiceDefect others service defect := by
  cases hdefect with
  | name hname => exact .name hname
  | label hname hlabel => exact .label hname hlabel
  | definition hname hlabel hdefinition => exact .definition hname hlabel hdefinition
  | duplicate hcomplete hlabel => exact .duplicate hcomplete ((hsame _).mp hlabel)

theorem defect_or_complete (taken : List String) (service : Service) :
    (∃ defect, ServiceDefect taken service defect) ∨
      service.IsComplete ∧ service.label ∉ taken := by
  by_cases hname : Text.trim service.name = ""
  · exact Or.inl ⟨_, .name hname⟩
  by_cases hlabel : Text.trim service.label = ""
  · exact Or.inl ⟨_, .label hname hlabel⟩
  by_cases hdefinition : service.definition.bytes = []
  · exact Or.inl ⟨_, .definition hname hlabel hdefinition⟩
  have hcomplete : service.IsComplete := ⟨hname, hlabel, hdefinition⟩
  by_cases htaken : service.label ∈ taken
  · exact Or.inl ⟨_, .duplicate hcomplete htaken⟩
  · exact Or.inr ⟨hcomplete, htaken⟩

/-- A service with a defect ends the search. -/
theorem serviceDefect?_of_defect (hdefect : ServiceDefect taken service defect)
    (rest : List Service) : serviceDefect? taken (service :: rest) = some defect := by
  unfold serviceDefect?
  simp only [Text.isBlank_iff, Path.isEmpty, List.isEmpty_iff]
  cases hdefect with
  | name hname => rw [if_pos hname]
  | label hname hlabel => rw [if_neg hname, if_pos hlabel]
  | definition hname hlabel hdefinition => rw [if_neg hname, if_neg hlabel, if_pos hdefinition]
  | duplicate hcomplete hlabel =>
      rw [if_neg hcomplete.name, if_neg hcomplete.label, if_neg hcomplete.definition, if_pos hlabel]

/-- The search goes on behind a service without one, and its label is taken. -/
theorem serviceDefect?_of_complete (hcomplete : service.IsComplete)
    (hlabel : service.label ∉ taken) (rest : List Service) :
    serviceDefect? taken (service :: rest) = serviceDefect? (service.label :: taken) rest := by
  rw [serviceDefect?]
  simp only [Text.isBlank_iff, Path.isEmpty, List.isEmpty_iff]
  rw [if_neg hcomplete.name, if_neg hcomplete.label, if_neg hcomplete.definition, if_neg hlabel]

theorem serviceDefect?_eq_none_iff : serviceDefect? taken services = none ↔
    ServicesValid services ∧ ∀ service ∈ services, service.label ∉ taken := by
  induction services generalizing taken with
  | nil => simp [serviceDefect?, servicesValid_nil]
  | cons service rest ih =>
      rw [servicesValid_cons, List.forall_mem_cons]
      rcases defect_or_complete taken service with ⟨defect, hdefect⟩ | ⟨hcomplete, hlabel⟩
      · rw [serviceDefect?_of_defect hdefect]
        refine ⟨nofun, ?_⟩
        rintro ⟨⟨hcomplete, -⟩, hlabel, -⟩
        cases hdefect with
        | name hname => exact absurd hname hcomplete.name
        | label _ hblank => exact absurd hblank hcomplete.label
        | definition _ _ hdefinition => exact absurd hdefinition hcomplete.definition
        | duplicate _ htaken => exact absurd htaken hlabel
      · rw [serviceDefect?_of_complete hcomplete hlabel, ih]
        simp only [List.mem_cons, not_or]
        grind

theorem serviceDefect?_eq_some_iff : serviceDefect? taken services = some defect ↔
    ∃ before service after, services = before ++ service :: after ∧ ServicesValid before ∧
      (∀ earlier ∈ before, earlier.label ∉ taken) ∧
      ServiceDefect (before.map (·.label) ++ taken) service defect := by
  constructor
  · intro hsearch
    induction services generalizing taken with
    | nil => cases hsearch
    | cons service rest ih =>
        rcases defect_or_complete taken service with ⟨found, hfound⟩ | ⟨hcomplete, hlabel⟩
        · rw [serviceDefect?_of_defect hfound] at hsearch
          cases hsearch
          exact ⟨[], service, rest, rfl, servicesValid_nil, by simp, hfound⟩
        · rw [serviceDefect?_of_complete hcomplete hlabel] at hsearch
          obtain ⟨before, other, after, rfl, hbefore, hfree, hdefect⟩ := ih hsearch
          simp only [List.mem_cons, not_or] at hfree
          refine ⟨service :: before, other, after, rfl, ?_, ?_, hdefect.congr ?_⟩
          · exact servicesValid_cons.mpr
              ⟨hcomplete, fun earlier hearlier => (hfree earlier hearlier).1, hbefore⟩
          · exact List.forall_mem_cons.mpr
              ⟨hlabel, fun earlier hearlier => (hfree earlier hearlier).2⟩
          · intro label
            simp [or_left_comm]
  · rintro ⟨before, service, after, rfl, hbefore, hfree, hdefect⟩
    induction before generalizing taken with
    | nil => exact serviceDefect?_of_defect hdefect after
    | cons head before ih =>
        obtain ⟨hcomplete, hothers, hbefore⟩ := servicesValid_cons.mp hbefore
        obtain ⟨hlabel, hfree⟩ := List.forall_mem_cons.mp hfree
        rw [List.cons_append, serviceDefect?_of_complete hcomplete hlabel]
        refine ih hbefore (fun earlier hearlier => ?_) (hdefect.congr fun label => ?_)
        · rw [List.mem_cons, not_or]
          exact ⟨hothers earlier hearlier, hfree earlier hearlier⟩
        · simp [or_left_comm]

theorem ServicesValid.perm {others : List Service} (hvalid : ServicesValid services)
    (hperm : services.Perm others) : ServicesValid others where
  complete service hservice := hvalid.complete service (hperm.mem_iff.mpr hservice)
  labels := (hperm.map _).nodup_iff.mp hvalid.labels

end Services

/-! ## Targets -/

section Targets

variable {targets : List Target} {defect : Defect}

theorem targetDefect?_eq_none_iff :
    targetDefect? targets = none ↔ ∀ target ∈ targets, target.path.isAbsolute = true := by
  simp [targetDefect?]

theorem targetDefect?_eq_some_iff : targetDefect? targets = some defect ↔
    ∃ before target after, targets = before ++ target :: after ∧
      (∀ earlier ∈ before, earlier.path.isAbsolute = true) ∧ target.path.isAbsolute = false ∧
      defect = .relativeTarget target.path := by
  simp only [targetDefect?, Option.map_eq_some_iff, List.find?_eq_some_iff_append]
  constructor
  · rintro ⟨target, ⟨htarget, before, after, rfl, hbefore⟩, rfl⟩
    exact ⟨before, target, after, rfl, by simpa using hbefore, by simpa using htarget, rfl⟩
  · rintro ⟨before, target, after, rfl, hbefore, htarget, rfl⟩
    exact ⟨target, ⟨by simpa using htarget, before, after, rfl, by simpa using hbefore⟩, rfl⟩

end Targets

/-! ## Configurations -/

/-- The first defect of the settings that are neither services nor targets. -/
def settingDefect? (config : Config) : Option Defect :=
  if config.pollInterval = 0 then some .noPollInterval
  else if Text.isBlank config.domain then some .emptyDomain
  else none

section Configurations

variable {config : Config} {defect : Defect}

theorem defect?_eq (config : Config) : config.defect? = (serviceDefect? [] config.services).or
    ((targetDefect? config.targets).or config.settingDefect?) := rfl

theorem pollInterval_pos_iff : 0 < config.pollInterval ↔ config.pollInterval ≠ 0 := by
  rw [UInt64.lt_iff_toNat_lt, ne_eq, ← UInt64.toNat_inj]
  exact Nat.pos_iff_ne_zero

theorem settingDefect?_eq_none_iff : config.settingDefect? = none ↔
    0 < config.pollInterval ∧ Text.trim config.domain ≠ "" := by
  rw [pollInterval_pos_iff, ne_eq (Text.trim _), ← Text.isBlank_iff, settingDefect?]
  split_ifs <;> simp [*]

theorem settingDefect?_eq_some_iff : config.settingDefect? = some defect ↔
    config.pollInterval = 0 ∧ .noPollInterval = defect ∨
      0 < config.pollInterval ∧ Text.trim config.domain = "" ∧ .emptyDomain = defect := by
  rw [pollInterval_pos_iff, ← Text.isBlank_iff, settingDefect?]
  split_ifs <;> simp [*]

theorem services_eq_none_iff :
    serviceDefect? [] config.services = none ↔ ServicesValid config.services := by
  simp [serviceDefect?_eq_none_iff]

theorem defect?_eq_none_iff : config.defect? = none ↔ config.IsValid := by
  rw [defect?_eq, Option.or_eq_none_iff, Option.or_eq_none_iff, services_eq_none_iff,
    targetDefect?_eq_none_iff, settingDefect?_eq_none_iff]
  constructor
  · rintro ⟨hservices, htargets, hinterval, hdomain⟩
    exact ⟨hservices, htargets, hinterval, hdomain⟩
  · rintro ⟨hservices, htargets, hinterval, hdomain⟩
    exact ⟨hservices, htargets, hinterval, hdomain⟩

theorem defect?_eq_some_iff : config.defect? = some defect ↔ config.FirstDefect defect := by
  rw [defect?_eq, Option.or_eq_some_iff, Option.or_eq_some_iff, services_eq_none_iff,
    targetDefect?_eq_none_iff, serviceDefect?_eq_some_iff, targetDefect?_eq_some_iff,
    settingDefect?_eq_some_iff]
  constructor
  · rintro (⟨before, service, after, hservices, hbefore, -, hdefect⟩ |
      ⟨hservices, ⟨before, target, after, htargets, hbefore, htarget, rfl⟩ |
        ⟨htargets, ⟨hinterval, rfl⟩ | ⟨hinterval, hdomain, rfl⟩⟩⟩)
    · rw [List.append_nil] at hdefect
      exact .service hservices hbefore hdefect
    · exact .target hservices htargets hbefore htarget
    · exact .pollInterval hservices htargets hinterval
    · exact .domain hservices htargets hinterval hdomain
  · intro hfirst
    cases hfirst with
    | service hservices hbefore hdefect =>
        exact Or.inl ⟨_, _, _, hservices, hbefore, by simp, by rwa [List.append_nil]⟩
    | target hservices htargets hbefore htarget =>
        exact Or.inr ⟨hservices, Or.inl ⟨_, _, _, htargets, hbefore, htarget, rfl⟩⟩
    | pollInterval hservices htargets hinterval =>
        exact Or.inr ⟨hservices, Or.inr ⟨htargets, Or.inl ⟨hinterval, rfl⟩⟩⟩
    | domain hservices htargets hinterval hdomain =>
        exact Or.inr ⟨hservices, Or.inr ⟨htargets, Or.inr ⟨hinterval, hdomain, rfl⟩⟩⟩

theorem validate_eq_ok_iff : config.validate = .ok () ↔ config.IsValid := by
  rw [← defect?_eq_none_iff, validate]
  cases config.defect? <;> simp

theorem validate_eq_error_iff :
    config.validate = .error defect ↔ config.FirstDefect defect := by
  rw [← defect?_eq_some_iff, validate]
  cases config.defect? <;> simp

/-- Whether a configuration is valid does not depend on the order of its services or targets. -/
theorem IsValid.perm {services : List Service} {targets : List Target} (hvalid : config.IsValid)
    (hservices : config.services.Perm services) (htargets : config.targets.Perm targets) :
    IsValid { config with services, targets } where
  services := hvalid.services.perm hservices
  targets target htarget := hvalid.targets target (htargets.mem_iff.mpr htarget)
  pollInterval := hvalid.pollInterval
  domain := hvalid.domain

end Configurations

/-- A configuration is accepted if and only if it is valid, whatever the order of its services and
targets, and refused if and only if it has a first defect, for that defect. -/
theorem validate_exact (config : Config) :
    (config.validate = .ok () ↔ config.IsValid) ∧
    (∀ defect, config.validate = .error defect ↔ config.FirstDefect defect) ∧
    ∀ services targets, config.services.Perm services → config.targets.Perm targets →
      (config.validate = .ok () ↔ validate { config with services, targets } = .ok ()) := by
  refine ⟨validate_eq_ok_iff, fun _ => validate_eq_error_iff, fun services targets hservices
    htargets => ?_⟩
  rw [validate_eq_ok_iff, validate_eq_ok_iff]
  constructor
  · intro hvalid
    exact hvalid.perm hservices htargets
  · intro hvalid
    exact hvalid.perm hservices.symm htargets.symm

/-- The standard configuration is accepted in any order.  A configuration with many defects is
refused for the missing definition of its second service, which also has the label of the first. -/
theorem validate_exact_standard :
    let config := standard
    let minion := Service.ofRole "minion"
    let faulty : Config :=
      { standard with
        services := [minion, ⟨"salt-api", minion.label, ⟨[]⟩⟩, ⟨"\u2003\n", "", ⟨[]⟩⟩]
        targets := [⟨.symlink, .ofString "opt/salt"⟩]
        pollInterval := 0 }
    config.validate = .ok () ∧
      validate { config with
        services := config.services.reverse, targets := config.targets.reverse } = .ok () ∧
      faulty.FirstDefect (.noDefinition "salt-api") := by
  intro config minion faulty
  have hvalid : config.validate = .ok () := by
    have hdefect : config.defect? = none := by decide +kernel
    rw [validate, hdefect]
  have hfaulty : faulty.validate = .error (.noDefinition "salt-api") := by
    have hdefect : faulty.defect? = some (.noDefinition "salt-api") := by decide +kernel
    rw [validate, hdefect]
  obtain ⟨-, -, hperm⟩ := validate_exact config
  obtain ⟨-, hdefects, -⟩ := validate_exact faulty
  refine ⟨hvalid, ?_, (hdefects _).mp hfaulty⟩
  exact (hperm _ _ (List.reverse_perm _).symm (List.reverse_perm _).symm).mp hvalid

end Config

end Decommission
