import Decommission.FileSystem.Arrange
import Decommission.Proofs.Config.RoundTrip
import Decommission.Proofs.Invocation.Status

/-!
# Layers of a configuration

What the command line says goes before what the configuration file says, and that goes before the
defaults.  The file may leave out any of its members, have them in any order, and hold others that
nobody knows.
-/

namespace Decommission

open Json

/-- A setting as it is given on the command line, else in the file, else by default. -/
def Layered {α : Type} (given? : Option α) (members : List (Option String × Tree)) (name : String)
    (decode : Tree → Option α) (default value : α) : Prop :=
  ∃ written?, Gives members name decode written? ∧ value = (given?.or written?).getD default

namespace CommandLine

/-- The members of the configuration file; there are none without a file. -/
inductive Gets (line : CommandLine) (files : FileSystem) : List (Option String × Tree) → Prop where
  | nothing (hnone : line.config = none) : line.Gets files []
  | file {path content members} (hpath : line.config = some path)
      (hread : files.readText path = .ok content)
      (hdocument : Document content.toList (.object members)) : line.Gets files members

/-- A configuration each setting of which comes from its own layers.  The lists and what belongs to
the service manager cannot be given on the command line. -/
structure Layers (line : CommandLine) (members : List (Option String × Tree)) (config : Config) :
    Prop where
  logPath : Layered line.logFile members "log_path" Path.decode Config.standard.logPath
    config.logPath
  stopTimeout : Layered line.stopTimeout members "stop_timeout_secs" Tree.unsigned?
    Config.standard.stopTimeout config.stopTimeout
  pollInterval : Layered line.pollInterval members "poll_interval_ms" Tree.unsigned?
    Config.standard.pollInterval config.pollInterval
  dryRun : ∃ written?, Gives members "dry_run" Tree.boolean? written? ∧
    (config.dryRun = true ↔ line.dryRun = true ∨ written? = some true)
  services : Layered none members "services" (Tree.list? Service.meaning.decode)
    Config.standard.services config.services
  targets : Layered none members "targets"
    (Tree.list? (Target.meaning Target.depthInConfig).decode) Config.standard.targets config.targets
  launchctl : Layered none members "launchctl" Path.decode Config.standard.launchctl
    config.launchctl
  domain : Layered none members "domain" Tree.text? Config.standard.domain config.domain

end CommandLine

namespace Invocation

variable {line : CommandLine} {files : FileSystem} {members : List (Option String × Tree)}

theorem load_of_document {path : Path} {content : String} {tree : Tree}
    (hread : files.readText path = .ok content) (hdocument : Document content.toList tree) :
    (Config.load files path).toOption = Config.meaning.decode tree := by
  have hdecode := toOption_readDocument Config.meaning.reads hdocument
  rw [← hdecode, Config.load, hread]
  show ((Config.ofText content).mapError Fault.document).toOption = (Config.ofText content).toOption
  cases Config.ofText content <;> rfl

/-- A file is loaded if each of its keys is text and stands once, and the known ones have values of
their kind. -/
theorem exists_load {path : Path} {content : String} (hread : files.readText path = .ok content)
    (hdocument : Document content.toList (.object members))
    (hkeys : ∀ member ∈ members, member.1 ≠ none)
    (hdistinct : members.Pairwise fun first second => first.1 ≠ second.1)
    (hvalues : ∀ meaning ∈ Config.fieldMeanings, ∀ tree,
      (some meaning.field.name, tree) ∈ members →
        ∀ draft, ∃ next, meaning.member draft tree = some next) :
    ∃ loaded, Config.load files path = .ok loaded := by
  have hblank : ∀ meaning ∈ Config.fieldMeanings, meaning.field.isSet {} = false := by
    simp only [Config.fieldMeanings, List.forall_mem_cons, List.not_mem_nil, false_implies,
      implies_true, and_true]
    exact ⟨rfl, rfl, rfl, rfl, rfl, rfl, rfl, rfl⟩
  obtain ⟨draft, hgather⟩ := exists_gather Config.fields_commute hkeys hdistinct
    fun meaning hmem tree hmember => ⟨hblank meaning hmem, hvalues meaning hmem tree hmember⟩
  refine ⟨draft.finish, ok_of_toOption ?_⟩
  rw [load_of_document hread hdocument, Config.decode_object, hgather]
  rfl

/-- What is loaded has been gathered from the members of the file. -/
theorem exists_draft_of_loads {loaded : Config} (hgets : line.Gets files members)
    (hloads : line.Loads files loaded) :
    ∃ draft, gather Config.fieldMeanings {} members = some draft ∧ loaded = draft.finish := by
  cases hgets with
  | nothing hnone =>
      cases hloads with
      | standard => exact ⟨{}, rfl, rfl⟩
      | file hpath =>
          rw [hnone] at hpath
          cases hpath
  | file hpath hread hdocument =>
      cases hloads with
      | standard hnone =>
          rw [hnone] at hpath
          cases hpath
      | file hpath' hload =>
          obtain rfl := Option.some.inj (hpath.symm.trans hpath')
          have hdecode := load_of_document hread hdocument
          rw [hload, Config.decode_object] at hdecode
          obtain ⟨draft, hgather, hfinish⟩ := Option.map_eq_some_iff.mp hdecode.symm
          exact ⟨draft, hgather, hfinish.symm⟩

/-- The configuration of a gathered draft has every setting from its own layers. -/
theorem layers_of_gather (line : CommandLine) {draft : Config.Draft}
    (hgather : gather Config.fieldMeanings {} members = some draft) :
    line.Layers members (line.apply draft.finish) := by
  have hcommute := Config.fields_commute
  have hmarks := Config.fields_mark
  refine
    { logPath := ⟨draft.logPath, gives_of_gather hcommute hmarks rfl (fun _ _ => rfl) rfl hgather,
        Option.getD_or.symm⟩
      stopTimeout := ⟨draft.stopTimeout,
        gives_of_gather hcommute hmarks rfl (fun _ _ => rfl) rfl hgather, Option.getD_or.symm⟩
      pollInterval := ⟨draft.pollInterval,
        gives_of_gather hcommute hmarks rfl (fun _ _ => rfl) rfl hgather, Option.getD_or.symm⟩
      dryRun := ⟨draft.dryRun, gives_of_gather hcommute hmarks rfl (fun _ _ => rfl) rfl hgather, ?_⟩
      services := ⟨draft.services,
        gives_of_gather hcommute hmarks rfl (fun _ _ => rfl) rfl hgather, rfl⟩
      targets := ⟨draft.targets,
        gives_of_gather hcommute hmarks rfl (fun _ _ => rfl) rfl hgather, rfl⟩
      launchctl := ⟨draft.launchctl,
        gives_of_gather hcommute hmarks rfl (fun _ _ => rfl) rfl hgather, rfl⟩
      domain := ⟨draft.domain,
        gives_of_gather hcommute hmarks rfl (fun _ _ => rfl) rfl hgather, rfl⟩ }
  show (draft.dryRun.getD false || line.dryRun) = true ↔ _
  cases draft.dryRun with
  | none => simp
  | some value => simp [or_comm]

/-- The configuration that is validated has every setting from its own layers: the command line goes
before the file, and the file before the defaults. -/
theorem configuration_layered {loaded : Config} (hgets : line.Gets files members)
    (hloads : line.Loads files loaded) :
    line.Layers members (line.apply loaded) ∧
      configuration line files =
        match (line.apply loaded).validate with
        | .ok () => .ok (line.apply loaded)
        | .error defect =>
            .error ("Invalid configuration: " ++ chain (.configuration defect.message)) := by
  obtain ⟨draft, hgather, rfl⟩ := exists_draft_of_loads hgets hloads
  exact ⟨layers_of_gather line hgather, configuration_of_loads hloads⟩

/-- A file gives the stop timeout, the domain and something that nobody knows, and the command line
another stop timeout and the log. -/
theorem configuration_layered_partial :
    let written : Value := .object
      [("stop_timeout_secs", .unsigned 5), ("comment", .list [.object [("domain", .boolean true)]]),
        ("domain", .text "gui/501")]
    let files := FileSystem.empty.write (.ofString "/config.json") (Utf8.encode written.compact)
    let line : CommandLine :=
      { config := some (.ofString "/config.json"), logFile := some (.ofString "/log")
        stopTimeout := some 0 }
    let loaded : Config := { Config.standard with stopTimeout := 5, domain := "gui/501" }
    let members : List (Option String × Tree) :=
      [(some "stop_timeout_secs", .number (some 5)),
        (some "comment", .list [.object [(some "domain", .boolean true)]]),
        (some "domain", .text (some "gui/501"))]
    line.Gets files members ∧ line.Loads files loaded ∧ line.Layers members (line.apply loaded) ∧
      configuration line files = .ok (line.apply loaded) := by
  intro written files line loaded members
  have hbytes :
      files.readBytes (.ofString "/config.json") = .ok (Utf8.encode written.compact) := rfl
  have hread := FileSystem.readText_of_readBytes hbytes
  have hdocument : Document (String.ofList written.compact).toList (.object members) := by
    rw [String.toList_ofList]
    exact document_of_writes written.writes_compact
  have hgets : line.Gets files members := .file rfl hread hdocument
  have hloads : line.Loads files loaded := by
    refine .file rfl (ok_of_toOption ?_)
    rw [load_of_document hread hdocument]
    rfl
  have hvalid : (line.apply loaded).validate = .ok () := by
    have hdefect : (line.apply loaded).defect? = none := by decide +kernel
    rw [Config.validate, hdefect]
  have hlayered := configuration_layered hgets hloads
  rw [hvalid] at hlayered
  exact ⟨hgets, hloads, hlayered.1, hlayered.2⟩

end Invocation

end Decommission
