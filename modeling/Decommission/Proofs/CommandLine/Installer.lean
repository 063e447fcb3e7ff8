import Decommission.Invocation
import Decommission.Proofs.Results
import Decommission.Proofs.Text.Utf8

/-!
# Arguments of the installer

A command line is cut in two: in front there are the options of the program, and behind them what the
installer passes.  The installer's arguments are kept as they are, and nothing that the program does
depends on them, even if they look like options.
-/

namespace Decommission

theorem head?_utf8EncodeChar {c : Char}
    (hdash : (String.utf8EncodeChar c).head? = some CommandLine.dash) : c = '-' := by
  have hsequence := Utf8.sequence_utf8EncodeChar c
  generalize String.utf8EncodeChar c = bytes at hsequence hdash
  cases hsequence with
  | one ha hcode =>
      cases hdash
      rw [← Char.val_inj, ← UInt32.toNat_inj, hcode]
      rfl
  | two ha | three ha | four ha =>
      cases hdash
      exact absurd ha (by decide)

/-- Only a text that begins with a dash begins with its byte. -/
theorem head?_bytesOf_ne {text : String} (hdash : text.toList.head? ≠ some '-') :
    (bytesOf text).head? ≠ some CommandLine.dash := by
  rw [bytesOf]
  intro hhead
  cases hcharacters : text.toList with
  | nil =>
      rw [hcharacters] at hhead
      cases hhead
  | cons c rest =>
      obtain ⟨byte, tail, hencode⟩ : ∃ byte tail, String.utf8EncodeChar c = byte :: tail :=
        List.exists_cons_of_ne_nil (Utf8.utf8EncodeChar_ne_nil c)
      rw [hcharacters, Utf8.encode_cons, hencode] at hhead
      apply hdash
      rw [hcharacters, List.head?_cons, head?_utf8EncodeChar (c := c) (by rw [hencode]; exact hhead)]

namespace CommandLine

variable {line result : CommandLine} {pending : Pending} {arguments options : List Bytes}
variable {argument : Bytes} {texts : List String}

/-- What does not begin with a dash is no option. -/
theorem shape_of_not_dash (hdash : argument.head? ≠ some dash) : Shape.of argument = .other := by
  unfold Shape.of
  split
  · exact absurd rfl hdash
  · exact absurd rfl hdash
  · exact absurd rfl hdash
  · rfl

theorem mapM_decode?_bytesOf (texts : List String) :
    (texts.map bytesOf).mapM Utf8.decode? = some (texts.map String.toList) := by
  induction texts with
  | nil => rfl
  | cons text texts ih =>
      rw [List.map_cons, List.mapM_cons, bytesOf, Utf8.decode?_encode, ih]
      rfl

/-! ## One argument -/

/-- What an argument comes to. -/
inductive Turn where
  /-- More options can follow. -/
  | goesOn (line : CommandLine) (pending : Pending)
  /-- The installer's arguments begin, with this one or behind it. -/
  | begins (kept : Bool)

/-- Reads an argument behind options. -/
def turn (line : CommandLine) (pending : Pending) (argument : Bytes) : Except Refusal Turn :=
  match Shape.of argument with
  | .escape => .ok (.begins false)
  | .setting setting none => do return .goesOn (← line.settle pending) (some (setting, none))
  | .setting setting (some value) => do
      let line ← line.settle pending
      return .goesOn (← line.set setting value) none
  | .switch switch (some value) => .error (.unneededValue switch (shown value))
  | .switch switch none => do
      let line ← line.settle pending
      return .goesOn (← line.turnOn switch) none
  | .nameless name => .error (.unknown ("--" ++ shown name))
  | .cluster letters => do
      let (line, pending) ← line.readCluster pending letters
      return .goesOn line pending
  | .other =>
      match pending with
      | some (setting, none) => .ok (.goesOn line (some (setting, some argument)))
      | _ => .ok (.begins true)

/-- Options are read argument by argument, until the installer's arguments begin. -/
theorem readFrom_cons (line : CommandLine) (pending : Pending) (argument : Bytes)
    (rest : List Bytes) : readFrom line pending (argument :: rest) =
      line.turn pending argument >>= fun
        | .goesOn line pending => readFrom line pending rest
        | .begins kept => readInstaller line pending (if kept then argument :: rest else rest) := by
  rw [readFrom.eq_def, turn.eq_def]
  dsimp only
  cases Shape.of argument with
  | escape | nameless => rfl
  | setting setting value? => cases value? <;> simp only [bind_assoc, pure_bind]
  | switch switch value? =>
      cases value? with
      | none => simp only [bind_assoc, pure_bind]
      | some value => rfl
  | cluster letters => simp only [bind_assoc, pure_bind]
  | other => rcases pending with _ | ⟨setting, _ | value⟩ <;> rfl

theorem eq_bytesOf_of_mapM {texts : List (List Char)}
    (hdecode : arguments.mapM Utf8.decode? = some texts) :
    arguments = (texts.map String.ofList).map bytesOf := by
  induction arguments generalizing texts with
  | nil =>
      cases hdecode
      rfl
  | cons argument arguments ih =>
      rw [List.mapM_cons] at hdecode
      obtain ⟨text, htext, hrest⟩ := Option.bind_eq_some_iff.mp hdecode
      obtain ⟨others, hothers, hall⟩ := Option.bind_eq_some_iff.mp hrest
      cases hall
      rw [ih hothers, List.map_cons, List.map_cons, bytesOf, String.toList_ofList,
        Utf8.encode_of_decode? htext]

theorem readInstaller_bytesOf (hsettle : line.settle pending = .ok result) (texts : List String) :
    readInstaller line pending (texts.map bytesOf) =
      .ok { result with installerArguments := texts } := by
  have htexts : (texts.map String.toList).map String.ofList = texts := by
    simp [Function.comp_def]
  rw [readInstaller, hsettle, mapM_decode?_bytesOf]
  show Except.ok _ = _
  rw [htexts]

/-- The installer's arguments are kept as they are. -/
theorem exists_settled_of_readInstaller
    (hread : readInstaller line pending arguments = .ok result) :
    ∃ settled texts, line.settle pending = .ok settled ∧ arguments = texts.map bytesOf ∧
      result = { settled with installerArguments := texts } := by
  rw [readInstaller] at hread
  obtain ⟨settled, hsettle, hread⟩ := bind_eq_ok hread
  cases hdecode : arguments.mapM Utf8.decode? with
  | none =>
      rw [hdecode] at hread
      cases hread
  | some texts =>
      rw [hdecode] at hread
      cases hread
      exact ⟨settled, texts.map String.ofList, hsettle, eq_bytesOf_of_mapM hdecode, rfl⟩

/-! ## Options and what follows them -/

/-- Behind options, an argument that is none begins the installer's arguments. -/
theorem readFrom_append (hread : readFrom line pending options = .ok result)
    (hnone : result.installerArguments = []) {first : String}
    (hfirst : Shape.of (bytesOf first) = .other) (later : List String) :
    readFrom line pending (options ++ (first :: later).map bytesOf) =
      .ok { result with installerArguments := first :: later } := by
  induction options generalizing line pending with
  | nil =>
      have hsettle : line.settle pending = .ok result := hread
      have hturn : line.turn pending (bytesOf first) = .ok (.begins true) := by
        rw [turn.eq_def, hfirst]
        rcases pending with _ | ⟨setting, _ | value⟩
        · rfl
        · cases hsettle
        · rfl
      rw [List.nil_append, List.map_cons, readFrom_cons, hturn]
      exact readInstaller_bytesOf hsettle (first :: later)
  | cons argument rest ih =>
      rw [readFrom_cons] at hread
      obtain ⟨turn, hturn, hread⟩ := bind_eq_ok hread
      rw [List.cons_append, readFrom_cons, hturn]
      cases turn with
      | goesOn next waiting => exact ih hread
      | begins kept =>
          obtain ⟨settled, texts, hsettle, harguments, rfl⟩ :=
            exists_settled_of_readInstaller hread
          obtain rfl : texts = [] := hnone
          -- Only an escape leaves no argument to the installer.
          cases kept with
          | true => cases harguments
          | false =>
              obtain rfl : rest = [] := harguments
              exact readInstaller_bytesOf hsettle (first :: later)

/-! ## What options leave alone -/

theorem installerArguments_of_set {setting : Setting} {value : Bytes}
    (hset : line.set setting value = .ok result) :
    result.installerArguments = line.installerArguments := by
  cases setting <;>
    · obtain ⟨_, -, hresult⟩ := bind_eq_ok hset
      cases hresult
      rfl

theorem installerArguments_of_turnOn {switch : Switch} (hturn : line.turnOn switch = .ok result) :
    result.installerArguments = line.installerArguments := by
  cases switch with
  | help | version => cases hturn
  | dryRun | verbose =>
      rw [turnOn] at hturn
      split at hturn
      · cases hturn
      · cases hturn
        rfl

theorem installerArguments_of_settle (hsettle : line.settle pending = .ok result) :
    result.installerArguments = line.installerArguments := by
  rcases pending with _ | ⟨setting, _ | value⟩
  · cases hsettle
    rfl
  · cases hsettle
  · exact installerArguments_of_set hsettle

theorem installerArguments_of_readCluster {letters : List Char} {waiting : Pending}
    (hread : line.readCluster pending letters = .ok (result, waiting)) :
    result.installerArguments = line.installerArguments := by
  induction letters generalizing line pending with
  | nil =>
      cases hread
      rfl
  | cons letter rest ih =>
      rw [readCluster] at hread
      obtain ⟨settled, hsettle, hread⟩ := bind_eq_ok hread
      rw [← installerArguments_of_settle hsettle]
      split at hread
      · split at hread
        · cases hread
          rfl
        · obtain ⟨next, hset, hread⟩ := bind_eq_ok hread
          cases hread
          exact installerArguments_of_set hset
      · obtain ⟨next, hturn, hread⟩ := bind_eq_ok hread
        rw [← installerArguments_of_turnOn hturn]
        exact ih hread

theorem installerArguments_of_turn {waiting : Pending}
    (hturn : line.turn pending argument = .ok (.goesOn result waiting)) :
    result.installerArguments = line.installerArguments := by
  rw [turn.eq_def] at hturn
  split at hturn
  · cases hturn
  · obtain ⟨settled, hsettle, hturn⟩ := bind_eq_ok hturn
    cases hturn
    exact installerArguments_of_settle hsettle
  · obtain ⟨settled, hsettle, hturn⟩ := bind_eq_ok hturn
    obtain ⟨next, hset, hturn⟩ := bind_eq_ok hturn
    cases hturn
    rw [installerArguments_of_set hset, installerArguments_of_settle hsettle]
  · cases hturn
  · obtain ⟨settled, hsettle, hturn⟩ := bind_eq_ok hturn
    obtain ⟨next, hswitch, hturn⟩ := bind_eq_ok hturn
    cases hturn
    rw [installerArguments_of_turnOn hswitch, installerArguments_of_settle hsettle]
  · cases hturn
  · obtain ⟨⟨next, left⟩, hcluster, hturn⟩ := bind_eq_ok hturn
    cases hturn
    exact installerArguments_of_readCluster hcluster
  · split at hturn <;> cases hturn
    rfl

/-- What is read is made of options and of the installer's arguments. -/
theorem exists_options_of_readFrom (hread : readFrom line pending arguments = .ok result)
    (hnone : line.installerArguments = []) :
    ∃ options settled, arguments = options ++ result.installerArguments.map bytesOf ∧
      readFrom line pending options = .ok settled ∧ settled.installerArguments = [] ∧
      result = { settled with installerArguments := result.installerArguments } := by
  induction arguments generalizing line pending with
  | nil =>
      have hresult : result.installerArguments = [] := by
        rw [installerArguments_of_settle hread, hnone]
      exact ⟨[], result, by rw [hresult]; rfl, hread, hresult, rfl⟩
  | cons argument rest ih =>
      rw [readFrom_cons] at hread
      obtain ⟨turn, hturn, hread⟩ := bind_eq_ok hread
      cases turn with
      | goesOn next waiting =>
          obtain ⟨options, settled, hrest, hoptions, hsettled⟩ :=
            ih hread ((installerArguments_of_turn hturn).trans hnone)
          refine ⟨argument :: options, settled, congrArg (argument :: ·) hrest, ?_, hsettled⟩
          rw [readFrom_cons, hturn]
          exact hoptions
      | begins kept =>
          obtain ⟨settled, texts, hsettle, harguments, rfl⟩ :=
            exists_settled_of_readInstaller hread
          cases kept with
          | true =>
              have hempty := (installerArguments_of_settle hsettle).trans hnone
              exact ⟨[], settled, harguments, hsettle, hempty, rfl⟩
          | false =>
              refine ⟨[argument], { settled with installerArguments := [] },
                congrArg (argument :: ·) harguments, ?_, rfl, rfl⟩
              rw [readFrom_cons, hturn]
              exact readInstaller_bytesOf hsettle []

/-! ## What the program does -/

section Performing

variable {κ τ : Type} (children : Children κ) (clock : Clock τ) (rounds : Nat)
variable (program : Option Path) (files : FileSystem) (running : κ) (time : τ)

/-- Nothing that the program does depends on the installer's arguments. -/
theorem perform_eq_of_read (hoptions : read options = .ok line)
    (hread : read arguments = .ok { line with installerArguments := texts }) :
    Invocation.perform children clock rounds ⟨program, arguments⟩ files running time =
      Invocation.perform children clock rounds ⟨program, options⟩ files running time := by
  rw [Invocation.perform, Invocation.perform, hread, hoptions]
  rfl

/-- Whatever the program is told, it does what its options alone would have it do. -/
theorem exists_options_of_read (hread : read arguments = .ok line) :
    ∃ options, arguments = options ++ line.installerArguments.map bytesOf ∧
      read options = .ok { line with installerArguments := [] } ∧
      Invocation.perform children clock rounds ⟨program, arguments⟩ files running time =
        Invocation.perform children clock rounds ⟨program, options⟩ files running time := by
  obtain ⟨options, settled, harguments, hoptions, hnone, hline⟩ :=
    exists_options_of_readFrom hread rfl
  have hsettled : { line with installerArguments := [] } = settled := by
    rw [hline, ← hnone]
  refine ⟨options, harguments, hsettled ▸ hoptions, ?_⟩
  exact perform_eq_of_read children clock rounds program files running time hoptions
    (hline ▸ hread)

end Performing

/-- What the installer passes behind the options is kept word for word, and changes neither what the
options say nor what the program does. -/
theorem read_append (options : List Bytes) (line : CommandLine) (first : String)
    (later : List String) (hread : read options = .ok line)
    (hnone : line.installerArguments = []) (hdash : first.toList.head? ≠ some '-') :
    let arguments := options ++ (first :: later).map bytesOf
    let extended := { line with installerArguments := first :: later }
    read arguments = .ok extended ∧ (∀ base, extended.apply base = line.apply base) ∧
      extended.fallbackLogPath = line.fallbackLogPath ∧
      ∀ {κ τ : Type} (children : Children κ) (clock : Clock τ) (rounds : Nat)
        (program : Option Path) (files : FileSystem) (running : κ) (time : τ),
        Invocation.perform children clock rounds ⟨program, arguments⟩ files running time =
          Invocation.perform children clock rounds ⟨program, options⟩ files running time := by
  intro arguments extended
  have hextended : read arguments = .ok extended :=
    readFrom_append hread hnone (shape_of_not_dash (head?_bytesOf_ne hdash)) later
  refine ⟨hextended, fun base => rfl, rfl, ?_⟩
  intro κ τ children clock rounds program files running time
  exact perform_eq_of_read children clock rounds program files running time hread hextended

/-- Options of all kinds, and arguments of the installer that look like options. -/
theorem read_append_options :
    let options := ["--dry-run", "--log-file", "/var/tmp/p.txt", "--stop-timeout=0", "-vc",
      "run.json", "--poll-interval-ms", "+5"].map bytesOf
    let line : CommandLine :=
      { config := some (.ofString "run.json"), logFile := some (.ofString "/var/tmp/p.txt")
        stopTimeout := some 0, pollInterval := some 5, dryRun := true, verbose := true }
    read options = .ok line ∧ line.installerArguments = [] ∧
      read (options ++ ["", "--dry-run", "--", "--log-file=/", "-h"].map bytesOf) =
        .ok { line with installerArguments := ["", "--dry-run", "--", "--log-file=/", "-h"] } := by
  intro options line
  have hread : read options = .ok line := ok_of_toOption (by decide +kernel)
  refine ⟨hread, rfl, ?_⟩
  obtain ⟨hextended, -⟩ :=
    read_append options line "" ["--dry-run", "--", "--log-file=/", "-h"] hread rfl (by decide)
  exact hextended

end CommandLine

end Decommission
