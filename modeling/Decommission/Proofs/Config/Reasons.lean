import Decommission.Proofs.Invocation.Status
import Decommission.Proofs.Run.Wording

/-!
# Why there is no configuration

What is written when a configuration cannot be used, and which texts in it come from outside.  The
path of the configuration file is quoted, and an error of the system has a text of its own; but names
and texts from the document stand in the reason as they are.
-/

namespace Decommission

/-! ## Reading the file -/

/-- The codes of the errors that a file is not read with. -/
def Errno.ofReading : List Errno :=
  [noEntry, noDevice, accessDenied, notDirectory, isDirectory, nameTooLong, tooManyLinks]

/-- An error that can come up while a file is read. -/
def IoError.IsOfReading (error : IoError) : Prop :=
  error = .nulInPath ∨ error = .notText ∨ ∃ code ∈ Errno.ofReading, error = .os code

theorem IoError.IsOfReading.isOneLine_message {error : IoError} (herror : error.IsOfReading) :
    IsOneLine error.message := by
  obtain rfl | rfl | ⟨code, hcode, rfl⟩ := herror
  · simp [message, nulInPath, IsOneLine]
  · simp [message, notText, IsOneLine]
  · have hall : ∀ code ∈ Errno.ofReading, IsOneLine (IoError.os code).message := by decide +kernel
    exact hall code hcode

namespace FileSystem

variable {files : FileSystem}

theorem advance_error {follow : Bool} {place : Place} {steps : List Name} {code : Errno}
    (hadvance : files.advance follow place steps = .error code) : code ∈ Errno.ofReading := by
  have hmissing : Errno.noEntry ∈ Errno.ofReading := by decide
  have hlong : Errno.nameTooLong ∈ Errno.ofReading := by decide
  have hfile : Errno.notDirectory ∈ Errno.ofReading := by decide
  induction steps generalizing place with
  | nil =>
      rw [advance] at hadvance
      split at hadvance
      · cases hadvance
      · cases hadvance
        exact hmissing
  | cons name rest ih =>
      rw [advance] at hadvance
      split at hadvance
      · split at hadvance
        · exact ih hadvance
        split at hadvance
        · exact ih hadvance
        split at hadvance
        · cases hadvance
          exact hlong
        split at hadvance
        · split at hadvance
          · cases hadvance
          · cases hadvance
            exact hmissing
        · split at hadvance <;> cases hadvance
        · exact ih hadvance
      · cases hadvance
        exact hfile

theorem walk_error {follow : Bool} {links : Nat} {place : Place} {steps : List Name}
    {code : Errno} (hwalk : files.walk follow links place steps = .error code) :
    code ∈ Errno.ofReading := by
  induction links generalizing place steps with
  | zero =>
      rw [walk] at hwalk
      split at hwalk
      · rename_i hadvance
        cases hwalk
        exact advance_error hadvance
      · cases hwalk
      · cases hwalk
        decide
  | succ links ih =>
      rw [walk] at hwalk
      split at hwalk
      · rename_i hadvance
        cases hwalk
        exact advance_error hadvance
      · cases hwalk
      · exact ih hwalk

theorem resolve_error {follow : Bool} {path : Path} {error : IoError}
    (hresolve : files.resolve follow path = .error error) : error.IsOfReading := by
  unfold resolve refused? at hresolve
  by_cases hnul : path.hasNul
  · rw [if_pos hnul] at hresolve
    cases hresolve
    exact .inl rfl
  rw [if_neg hnul] at hresolve
  by_cases hempty : path.isEmpty
  · rw [if_pos hempty] at hresolve
    cases hresolve
    exact .inr (.inr ⟨_, by decide, rfl⟩)
  rw [if_neg hempty] at hresolve
  by_cases hlong : Path.tooLong ≤ path.bytes.length
  · rw [if_pos hlong] at hresolve
    cases hresolve
    exact .inr (.inr ⟨_, by decide, rfl⟩)
  rw [if_neg hlong] at hresolve
  dsimp only at hresolve
  cases hwalk : files.walk follow linkLimit (startOf files.here path) path.steps with
  | error code =>
      rw [hwalk] at hresolve
      cases hresolve
      exact .inr (.inr ⟨code, walk_error hwalk, rfl⟩)
  | ok spot =>
      rw [hwalk] at hresolve
      cases hresolve

theorem readBytes_error {path : Path} {error : IoError}
    (hread : files.readBytes path = .error error) : error.IsOfReading := by
  unfold readBytes at hread
  cases hresolve : files.resolve true path with
  | error cause =>
      rw [hresolve] at hread
      cases hread
      exact resolve_error hresolve
  | ok spot =>
      rw [hresolve] at hread
      simp only [bind, Except.bind, pure, Except.pure, throw, throwThe,
        MonadExceptOf.throw] at hread
      split at hread
      · split at hread
        · split at hread
          · cases hread
          · cases hread
            exact .inr (.inr ⟨_, by decide, rfl⟩)
        · cases hread
          exact .inr (.inr ⟨_, by decide, rfl⟩)
      all_goals
        cases hread
        exact .inr (.inr ⟨_, by decide, rfl⟩)

/-- A file is not read because there is no way to it, or because it is no text. -/
theorem readText_error {path : Path} {error : IoError}
    (hread : files.readText path = .error error) : error.IsOfReading := by
  unfold readText at hread
  cases hbytes : files.readBytes path with
  | error cause =>
      rw [hbytes] at hread
      cases hread
      exact readBytes_error hbytes
  | ok bytes =>
      rw [hbytes] at hread
      simp only [bind, Except.bind, pure, Except.pure, throw, throwThe,
        MonadExceptOf.throw] at hread
      split at hread
      · cases hread
      · cases hread
        exact .inr (.inl rfl)

end FileSystem

/-! ## Reading the document -/

namespace Json

/-- The texts in what was found that are not the program's own. -/
def Found.texts : Found → List String
  | .real digits => [digits]
  | .null | .boolean _ | .unsigned _ | .negative _ | .text _ | .sequence | .map => []

/-- The texts in a cause that stand in its message as they are. -/
def Cause.texts : Cause → List String
  | .invalidType found expected | .invalidValue found expected => found.texts ++ [expected]
  | .invalidLength _ expected => [expected]
  | .missingField name | .duplicateField name => [name]
  | .unknownVariant name known => name :: known
  | _ => []

theorem Found.isOneLine_describe (found : Found) :
    IsOneLine found.describe ↔ AreOneLine found.texts := by
  cases found with
  | boolean value =>
      have hvalue : IsOneLine (toString value) := by cases value <;> decide
      show IsOneLine ("boolean `" ++ toString value ++ "`") ↔ AreOneLine []
      simp +decide [hvalue]
  | unsigned value | negative value =>
      show IsOneLine ("integer `" ++ toString value ++ "`") ↔ AreOneLine []
      simp +decide
  | real digits =>
      show IsOneLine ("floating point `" ++ digits ++ "`") ↔ AreOneLine [digits]
      simp +decide
  | text value =>
      show IsOneLine ("string " ++ Text.quoted value) ↔ AreOneLine []
      simp +decide [isOneLine_quoted]
  | null => exact iff_of_true (by decide) areOneLine_nil
  | sequence => exact iff_of_true (by decide) areOneLine_nil
  | map => exact iff_of_true (by decide) areOneLine_nil

/-- The causes that have the same message each time. -/
def Cause.fixed : List Cause :=
  [.endInList, .endInObject, .endInString, .endInValue, .expectedColon, .expectedListEnd,
    .expectedObjectEnd, .expectedWord, .expectedValue, .invalidEscape, .invalidNumber,
    .numberOutOfRange, .controlCharacter, .keyNotString, .loneSurrogate, .unfinishedSurrogate,
    .trailingComma, .trailingCharacters, .nestedTooDeep]

theorem Cause.isOneLine_of_mem_fixed : ∀ cause ∈ fixed, IsOneLine cause.message := by
  decide +kernel

theorem Cause.isOneLine_message (cause : Cause) :
    IsOneLine cause.message ↔ AreOneLine cause.texts := by
  cases cause with
  | invalidType found expected =>
      show IsOneLine ("invalid type: " ++ found.describe ++ ", expected " ++ expected) ↔ _
      simp +decide [texts, areOneLine_append, found.isOneLine_describe]
  | invalidValue found expected =>
      show IsOneLine ("invalid value: " ++ found.describe ++ ", expected " ++ expected) ↔ _
      simp +decide [texts, areOneLine_append, found.isOneLine_describe]
  | invalidLength length expected =>
      show IsOneLine ("invalid length " ++ toString length ++ ", expected " ++ expected) ↔ _
      simp +decide [texts]
  | missingField name =>
      show IsOneLine ("missing field `" ++ name ++ "`") ↔ _
      simp +decide [texts]
  | duplicateField name =>
      show IsOneLine ("duplicate field `" ++ name ++ "`") ↔ _
      simp +decide [texts]
  | unknownVariant name known =>
      show IsOneLine ("unknown variant `" ++ name ++ "`, expected one of " ++
        ", ".intercalate (known.map fun variant => "`" ++ variant ++ "`")) ↔ _
      rw [isOneLine_append, isOneLine_intercalate (by decide)]
      simp +decide [texts, AreOneLine]
  | endInList | endInObject | endInString | endInValue | expectedColon | expectedListEnd
  | expectedObjectEnd | expectedWord | expectedValue | invalidEscape | invalidNumber
  | numberOutOfRange | controlCharacter | keyNotString | loneSurrogate | unfinishedSurrogate
  | trailingComma | trailingCharacters | nestedTooDeep =>
      exact iff_of_true (isOneLine_of_mem_fixed _ (by decide)) areOneLine_nil

theorem ReadError.isOneLine_message (error : ReadError) :
    IsOneLine error.message ↔ AreOneLine error.cause.texts := by
  show IsOneLine (error.cause.message ++ " at line " ++ toString error.position.line ++
    " column " ++ toString error.position.column) ↔ _
  simp +decide [error.cause.isOneLine_message]

end Json

/-! ## Reasons -/

/-- The texts in a defect that stand in its message as they are. -/
def Config.Defect.texts : Defect → List String
  | .emptyLabel name | .noDefinition name => [name]
  | .duplicateLabel label => [label]
  | .relativeTarget path => [path.display]
  | .emptyName | .noPollInterval | .emptyDomain => []

theorem Config.Defect.isOneLine_message (defect : Defect) :
    IsOneLine defect.message ↔ AreOneLine defect.texts := by
  cases defect with
  | emptyName | noPollInterval | emptyDomain => exact iff_of_true (by decide) areOneLine_nil
  | emptyLabel name =>
      show IsOneLine ("service " ++ name ++ " has an empty launchd label") ↔ AreOneLine [name]
      simp [IsOneLine]
  | noDefinition name =>
      show IsOneLine ("service " ++ name ++ " has no definition file") ↔ AreOneLine [name]
      simp [IsOneLine]
  | duplicateLabel label =>
      show IsOneLine ("duplicate service label " ++ label) ↔ AreOneLine [label]
      simp [IsOneLine]
  | relativeTarget path =>
      show IsOneLine ("cleanup path " ++ path.display ++ " must be absolute") ↔
        AreOneLine [path.display]
      simp [IsOneLine]

theorem Config.load_error {files : FileSystem} {path : Path} {fault : Fault}
    (hload : load files path = .error fault) :
    (∃ error : IoError, error.IsOfReading ∧ fault = .io error) ∨
      ∃ error, fault = .document error := by
  unfold load at hload
  cases htext : files.readText path with
  | error error =>
      rw [htext] at hload
      cases hload
      exact .inl ⟨error, FileSystem.readText_error htext, rfl⟩
  | ok text =>
      rw [htext] at hload
      cases hconfig : ofText text with
      | error error =>
          simp only [bind, Except.bind, Except.mapError, hconfig] at hload
          cases hload
          exact .inr ⟨error, rfl⟩
      | ok config =>
          simp only [bind, Except.bind, Except.mapError, hconfig] at hload
          cases hload

/-- Why there is no configuration, and the texts in it that are not the program's own. -/
inductive CommandLine.Blames (line : CommandLine) (files : FileSystem) :
    String → List String → Prop where
  | unread {path error} (hpath : line.config = some path)
      (hload : Config.load files path = .error (.io error)) :
      Blames line files ("Failed to load configuration from " ++ Text.quotedBytes path.bytes ++
        ": " ++ Invocation.chain (.io error)) []
  | unparsed {path error} (hpath : line.config = some path)
      (hload : Config.load files path = .error (.document error)) :
      Blames line files ("Failed to load configuration from " ++ Text.quotedBytes path.bytes ++
        ": " ++ Invocation.chain (.document error)) error.cause.texts
  | invalid {loaded defect} (hloads : line.Loads files loaded)
      (hdefect : (line.apply loaded).validate = .error defect) :
      Blames line files
        ("Invalid configuration: " ++ Invocation.chain (.configuration defect.message))
        defect.texts

section Reasons

variable {line : CommandLine} {files : FileSystem} {reason : String} {texts : List String}

theorem CommandLine.Rejects.exists_blames (hrejects : line.Rejects files reason) :
    ∃ texts, line.Blames files reason texts := by
  cases hrejects with
  | notLoaded hpath hload =>
      obtain ⟨error, -, rfl⟩ | ⟨error, rfl⟩ := Config.load_error hload
      · exact ⟨_, .unread hpath hload⟩
      · exact ⟨_, .unparsed hpath hload⟩
  | invalid hloads hdefect => exact ⟨_, .invalid hloads hdefect⟩

theorem CommandLine.Blames.isOneLine_iff (hblames : line.Blames files reason texts) :
    IsOneLine reason ↔ AreOneLine texts := by
  cases hblames with
  | @unread path error hpath hload =>
      have herror : IsOneLine error.message := by
        obtain ⟨cause, hcause, heq⟩ | ⟨document, heq⟩ := Config.load_error hload
        · cases heq
          exact hcause.isOneLine_message
        · cases heq
      show IsOneLine ("Failed to load configuration from " ++ Text.quotedBytes path.bytes ++ ": " ++
        (": ".intercalate ["IO error: " ++ error.message, error.message])) ↔ _
      simp +decide [herror, isOneLine_quotedBytes]
  | @unparsed path error hpath hload =>
      show IsOneLine ("Failed to load configuration from " ++ Text.quotedBytes path.bytes ++ ": " ++
        (": ".intercalate ["JSON error: " ++ error.message, error.message])) ↔ _
      simp +decide [error.isOneLine_message, isOneLine_quotedBytes]
  | @invalid loaded defect hloads hdefect =>
      show IsOneLine ("Invalid configuration: " ++
        (": ".intercalate ["Configuration error: " ++ defect.message])) ↔ _
      simp +decide [defect.isOneLine_message]

end Reasons

end Decommission
