import Kapsel.Daemon.OperatorDocument
import Kapsel.Filesystem.Directory
import Kapsel.Interaction.Execution

/-!
# Cold publication

`kapseld --replace-operator-config` reads a candidate, validates it and puts it in the place of
`operator.json`: an exclusive temporary file is written and synchronized, its identity and that of
the destination are checked, it is renamed over the destination, and the directory is synchronized.
Every call may fail, and one that failed may have had its effect; the process may stop anywhere.

What is reported depends on how far it came: a refusal before the rename is `NOT_PUBLISHED`, a
failure of the rename or of the last synchronization is `INDETERMINATE`.  The temporary file is
removed when its owner goes out of scope, by its name and after a check that the name still stands
for it.

* `Untouched`, `Drafted` and `Replaced` are the stages of the configuration directory.
* `always_replace`: every outcome is honest about the stage that it leaves.
* `publication_honest_and_atomic` says so of every moment of every run.

Only the publisher writes in the retained directories: the lifecycle lock excludes the service and
other publishers, and nobody else is in a directory that is private to the service.
-/

namespace Kapsel

open Grammar Authority Fallible Interaction Interaction.Program

namespace Daemon

open Json Application Filesystem

/-! ## Calls -/

/-- The retained directories of `InstallationRoots`. -/
inductive Root where
  | configuration
  | state
  deriving DecidableEq

/-- `Outcome`. -/
inductive Outcome where
  | published
  | notPublished
  | indeterminate
  deriving DecidableEq, Repr

/-- `Outcome::status`. -/
def Outcome.status : Outcome → Text × ℕ
  | .published => (utf8 "PUBLISHED\n", 0)
  | .notPublished => (utf8 "NOT_PUBLISHED\n", 4)
  | .indeterminate => (utf8 "INDETERMINATE\n", 5)

namespace Publication

/-- What the publisher asks the system, and the checks that are somebody else's. -/
inductive Call where
  | openDirectory (root : Root)
  | flock (file : ℕ)
  | within (root : Root) (c : Filesystem.Call Text)
  | readCandidate
  | descriptorDirectoryPath
  | validateReplacement (configuration : ServiceConfiguration)
  | writeStatus (line : Text)

/-- The answers. -/
def Answer : Call → Type
  | .openDirectory _ => Except Errno Unit
  | .flock _ => Except Errno Unit
  | .within _ c => Except Errno (Filesystem.Value c)
  | .readCandidate => Except Errno Bytes
  | .descriptorDirectoryPath => Except Errno Unit
  | .validateReplacement _ => Except ServiceError Unit
  | .writeStatus _ => Except Errno Unit

/-- `std::io::Result` of something that asks. -/
abbrev Io (α : Type) : Type := ExceptT Errno (Program Call Answer) α

/-- A call in a retained directory. -/
def inside (root : Root) (c : Filesystem.Call Text) : Io (Filesystem.Value c) :=
  ExceptT.mk (Program.call (Call.within root c))

/-- The process: whose it is, and the names of its temporary files. -/
structure Process where
  id : ℕ
  uid : ℕ
  gid : ℕ
  next : ℕ

/-- `OPERATOR_DOCUMENT_BYTES_MAX`. -/
def operatorDocumentBytesMax : ℕ := 160 * 1024

/-- `JOURNAL_BYTES_MAX`. -/
def journalBytesMax : ℕ := 64 * 1024 * 1024

/-- `LIFECYCLE_LOCK`. -/
def lifecycleLock : Text := utf8 "kapseld.lifecycle.lock"

/-- The name that is published under. -/
def operatorJson : Text := utf8 "operator.json"

/-! ## Custody -/

/-- The comparison of `require_private_identity`. -/
def privateIdentity (process : Process) (maximumBytes : ℕ) (metadata named : Metadata) : Bool :=
  metadata.regular && metadata.uid = process.uid && metadata.gid = process.gid &&
    metadata.links = 1 && metadata.mode = 0o600 && metadata.size ≤ maximumBytes &&
    named.node = metadata.node && named.regular = metadata.regular &&
    named.mode = metadata.mode && named.uid = metadata.uid && named.gid = metadata.gid &&
    named.links = 1 && named.size = metadata.size

/-- `require_private_identity`. -/
def requirePrivateIdentity (process : Process) (parent : Root) (name : Text) (file : ℕ)
    (maximumBytes : ℕ) : Io Unit := do
  let metadata ← inside parent (.fstat file)
  let named ← inside parent (.statat name)
  check (require (privateIdentity process maximumBytes metadata named) .other)

/-- `validate_optional_private_file`. -/
def validateOptionalPrivateFile (process : Process) (parent : Root) (name : Text)
    (maximumBytes : ℕ) : Io Unit := do
  match ← ExceptT.lift (inside parent (.openFile name)).run with
  | .ok file => requirePrivateIdentity process parent name file maximumBytes
  | .error .noent => return ()
  | .error error => throw error

/-- `acquire_lifecycle`. -/
def acquireLifecycle (process : Process) : Io Unit := do
  let lease ← match ← ExceptT.lift (inside .state (.create lifecycleLock)).run with
    | .ok file => pure file
    | .error .exist => inside .state (.openFile lifecycleLock)
    | .error error => throw error
  requirePrivateIdentity process .state lifecycleLock lease 0
  ExceptT.mk (Program.call (Call.flock lease))
  requirePrivateIdentity process .state lifecycleLock lease 0

/-- `InstallationRoots::open_at`. -/
def openRoots (process : Process) : Io Unit := do
  ExceptT.mk (Program.call (Call.openDirectory .state))
  acquireLifecycle process
  ExceptT.mk (Program.call (Call.openDirectory .configuration))

/-! ## The candidate -/

section
variable (C : Crypto) (reader : Reader)

/-- `validate_candidate`. -/
def validateCandidate (process : Process) : Io Bytes := do
  let bytes : Bytes ← ExceptT.mk (Program.call Call.readCandidate)
  check (require (bytes.length ≤ operatorDocumentBytesMax) .other)
  validateOptionalPrivateFile process .state (utf8 "journal.sqlite3") journalBytesMax
  validateOptionalPrivateFile process .state (utf8 "journal.sqlite3.kap0038-worker.lock") 0
  ExceptT.mk (Program.call Call.descriptorDirectoryPath)
  let document ← check ((parseServiceOperatorDocument C reader bytes).mapError fun _ => .other)
  mapErr (fun _ => .other)
    (ExceptT.mk (Program.call (Call.validateReplacement document.configuration)))
  return bytes

end

/-! ## The temporary file -/

/-- `TemporaryCandidate`. -/
structure TemporaryCandidate where
  name : Text
  file : ℕ

/-- The name of the temporary file. -/
def temporaryName (process : Process) : Text :=
  utf8 ".operator-" ++ utf8 (toString process.id) ++ utf8 "-" ++ utf8 (toString process.next) ++
    utf8 ".tmp"

/-- `Drop for TemporaryCandidate`. -/
def TemporaryCandidate.drop (process : Process) (temporary : TemporaryCandidate) :
    Program Call Answer Unit := do
  match ← (requirePrivateIdentity process .configuration temporary.name temporary.file
      operatorDocumentBytesMax).run with
  | .ok _ => do
      let _ ← (inside .configuration (.unlink temporary.name)).run
      return ()
  | .error _ => return ()

/-- `TemporaryCandidate::create`: what was created is dropped again where its check fails. -/
def TemporaryCandidate.create (process : Process) : Io TemporaryCandidate := do
  let file ← inside .configuration (.create (temporaryName process))
  let temporary := TemporaryCandidate.mk (temporaryName process) file
  match ← ExceptT.lift (requirePrivateIdentity process .configuration temporary.name
      temporary.file 0).run with
  | .ok _ => return temporary
  | .error error => do
      ExceptT.lift (temporary.drop process)
      throw error

/-! ## Publishing -/

/-- A failure is this outcome. -/
def orOutcome (outcome : Outcome) (p : Io Unit) : ExceptT Outcome (Program Call Answer) Unit :=
  mapErr (fun _ => outcome) p

/-- `publish_candidate`, while the temporary file is in scope. -/
def publishTemporary (process : Process) (temporary : TemporaryCandidate) (bytes : Bytes) :
    ExceptT Outcome (Program Call Answer) Unit := do
  orOutcome .notPublished (inside .configuration (.write temporary.file bytes))
  orOutcome .notPublished (inside .configuration (.fsync temporary.file))
  orOutcome .notPublished (requirePrivateIdentity process .configuration temporary.name
    temporary.file operatorDocumentBytesMax)
  orOutcome .notPublished (validateOptionalPrivateFile process .configuration operatorJson
    operatorDocumentBytesMax)
  orOutcome .indeterminate (inside .configuration (.rename temporary.name operatorJson))
  orOutcome .indeterminate (inside .configuration .syncDirectory)

/-- `publish_candidate`. -/
def publishCandidate (process : Process) (bytes : Bytes) : Program Call Answer Outcome := do
  match ← (TemporaryCandidate.create process).run with
  | .error _ => return .notPublished
  | .ok temporary => do
      let result ← (publishTemporary process temporary bytes).run
      temporary.drop process
      match result with
      | .ok _ => return .published
      | .error outcome => return outcome

section
variable (C : Crypto) (reader : Reader)

/-- `replace`. -/
def replace (process : Process) : Program Call Answer Outcome := do
  match ← (openRoots process).run with
  | .error _ => return .notPublished
  | .ok _ => do
      match ← (validateCandidate C reader process).run with
      | .error _ => return .notPublished
      | .ok bytes => publishCandidate process bytes

/-- `replace_operator_config`: the exit code. -/
def replaceOperatorConfig (process : Process) : Program Call Answer ℕ := do
  let outcome ← replace C reader process
  match ← Program.call (Call.writeStatus outcome.status.1) with
  | .ok _ => return outcome.status.2
  | .error _ => return 5

end

/-! ## The installation -/

/-- The two directories, the journal, and the ends of the publisher's pipes. -/
structure Installation where
  configuration : Directory Text
  state : Directory Text
  journal : Gateway.JournalFile
  stdin : Bytes
  stdout : Bytes

/-- `ServiceApplication::validate_replacement` succeeds against this journal. -/
def Validates (C : Crypto) (journal : Gateway.JournalFile) (configuration : ServiceConfiguration) :
    Prop :=
  ∃ outside s holder, Concludes (Gateway.healthy outside s) ⟨journal.db, holder⟩
    (Gateway.validateReplacement (C := C) journal.present configuration) (.ok ())

/-- The answer to a call, and the installation then.  Any call may fail; a validation succeeds
where the candidate passes it. -/
def reacts (C : Crypto) (w : Installation) : (c : Call) → Answer c → Installation → Prop
  | .openDirectory _, _, w' => w' = w
  | .flock _, _, w' => w' = w
  | .within .configuration c, answer, w' =>
      ∃ d, w.configuration.reacts c answer d ∧ w' = { w with configuration := d }
  | .within .state c, answer, w' => ∃ d, w.state.reacts c answer d ∧ w' = { w with state := d }
  | .readCandidate, .ok bytes, w' =>
      bytes = w.stdin.take (operatorDocumentBytesMax + 1) ∧ w' = w
  | .readCandidate, .error _, w' => w' = w
  | .descriptorDirectoryPath, _, w' => w' = w
  | .validateReplacement configuration, .ok _, w' => Validates C w.journal configuration ∧ w' = w
  | .validateReplacement _, .error _, w' => w' = w
  | .writeStatus line, .ok _, w' => w' = { w with stdout := w.stdout ++ line }
  | .writeStatus line, .error _, w' =>
      ∃ part, part <+: line ∧ w' = { w with stdout := w.stdout ++ part }

/-- What is read under the name that is published. -/
def Installation.operator (w : Installation) : Option Bytes := w.configuration.content operatorJson

/-- The candidate is within the bound, is parsed and passes the validation. -/
structure Accepted (C : Crypto) (reader : Reader) (w : Installation) : Prop where
  length : w.stdin.length ≤ operatorDocumentBytesMax
  passes : ∃ document, parseServiceOperatorDocument C reader w.stdin = .ok document ∧
    Validates C w.journal document.configuration

/-! ## Stages of the configuration directory -/

section
variable {start d d' : Directory Text} {candidate bytes : Bytes} {name : Text} {n : ℕ}

/-- The files that the published name may have stood for at the start are as they were. -/
def Preserves (start d : Directory Text) : Prop :=
  ∀ n, some n ∈ start.standings operatorJson → d.file n = start.file n

/-- The published name stands for what it stood for. -/
structure Untouched (start d : Directory Text) : Prop where
  entry : d.entry operatorJson = start.entry operatorJson
  earlier : d.earlier operatorJson = start.earlier operatorJson
  files : Preserves start d

/-- There is a temporary file, and nothing else has changed. -/
structure Drafted (start : Directory Text) (temporary : TemporaryCandidate) (file : File)
    (d : Directory Text) : Prop where
  untouched : Untouched start d
  entry : d.entry temporary.name = some temporary.file
  fresh : some temporary.file ∉ start.standings operatorJson
  file : d.file temporary.file = file

/-- The published name stands for the whole candidate.  A crash may bring back what it stood for,
but nothing else. -/
structure Replaced (start : Directory Text) (candidate : Bytes) (d : Directory Text) : Prop where
  files : Preserves start d
  entry : ∃ n, d.entry operatorJson = some n ∧ d.file n = ⟨candidate, true⟩ ∧
    ∀ standing ∈ d.earlier operatorJson,
      standing = some n ∨ standing ∈ start.standings operatorJson

/-- A property of a directory that is about the published name and the files only. -/
def AboutOperator (P : Directory Text → Prop) : Prop :=
  ∀ d d' : Directory Text, d'.entry operatorJson = d.entry operatorJson →
    d'.earlier operatorJson = d.earlier operatorJson → d'.file = d.file → P d → P d'

theorem Untouched.refl (d : Directory Text) : Untouched d d := ⟨rfl, rfl, fun _ _ => rfl⟩

theorem aboutOperator_untouched : AboutOperator (Untouched start) := by
  intro d d' hentry hearlier hfile h
  refine ⟨hentry.trans h.entry, hearlier.trans h.earlier, fun n hn => ?_⟩
  rw [hfile]
  exact h.files n hn

theorem aboutOperator_replaced : AboutOperator (Replaced start candidate) := by
  intro d d' hentry hearlier hfile h
  obtain ⟨n, hn, hcontent, hstandings⟩ := h.entry
  refine ⟨fun m hm => ?_, n, hentry.trans hn, ?_, ?_⟩
  · rw [hfile]
    exact h.files m hm
  · rw [hfile]
    exact hcontent
  · rw [hearlier]
    exact hstandings

/-- Binding another name is not about the published one. -/
theorem AboutOperator.bind {P : Directory Text → Prop} (hP : AboutOperator P)
    (hname : name ≠ operatorJson) (standing : Option ℕ) (h : P d) : P (d.bind name standing) :=
  hP d _ (Directory.entry_bind_of_ne standing hname.symm)
    (Directory.earlier_bind_of_ne standing hname.symm) rfl h

/-- A file that is not one of the published name may be written. -/
theorem Untouched.setFile (h : Untouched start d) (hfresh : some n ∉ start.standings operatorJson)
    (file : File) : Untouched start (d.setFile n file) := by
  refine ⟨h.entry, h.earlier, fun m hm => ?_⟩
  have hne : m ≠ n := by
    rintro rfl
    exact hfresh hm
  rw [Directory.file_setFile_of_ne file hne]
  exact h.files m hm

theorem Untouched.standings (h : Untouched start d) :
    d.standings operatorJson = start.standings operatorJson := by
  unfold Directory.standings
  rw [h.entry, h.earlier]

/-- **Creating** a file under another name drafts it. -/
theorem Untouched.create (h : Untouched start d) (hname : name ≠ operatorJson)
    (hunused : ¬d.InUse n) : Drafted start ⟨name, n⟩ ⟨[], false⟩ (d.create name n) := by
  have hfresh : some n ∉ start.standings operatorJson := by
    rw [← h.standings]
    exact fun hn => hunused ⟨operatorJson, hn⟩
  refine ⟨?_, Directory.entry_bind_self _, hfresh, Directory.file_setFile_self _⟩
  exact aboutOperator_untouched.bind hname _ (h.setFile hfresh _)

/-- **Writing** the temporary file changes its content. -/
theorem Drafted.setFile {temporary : TemporaryCandidate} {file : File}
    (h : Drafted start temporary file d) (file' : File) :
    Drafted start temporary file' (d.setFile temporary.file file') :=
  ⟨h.untouched.setFile h.fresh file', h.entry, h.fresh, Directory.file_setFile_self _⟩

theorem Drafted.append {temporary : TemporaryCandidate} {content : Bytes} {synced : Bool}
    (h : Drafted start temporary ⟨content, synced⟩ d) (bytes : Bytes) :
    Drafted start temporary ⟨content ++ bytes, false⟩ (d.append temporary.file bytes) := by
  have hwritten := h.setFile ⟨(d.file temporary.file).content ++ bytes, false⟩
  rw [h.file] at hwritten
  unfold Directory.append
  rw [h.file]
  exact hwritten

theorem Drafted.sync {temporary : TemporaryCandidate} {content : Bytes} {synced : Bool}
    (h : Drafted start temporary ⟨content, synced⟩ d) :
    Drafted start temporary ⟨content, true⟩ (d.sync temporary.file) := by
  have hsynced := h.setFile ⟨(d.file temporary.file).content, true⟩
  rw [h.file] at hsynced
  unfold Directory.sync
  rw [h.file]
  exact hsynced

/-- **Renaming** a complete and synchronized temporary file publishes it. -/
theorem Drafted.rename {temporary : TemporaryCandidate}
    (h : Drafted start temporary ⟨candidate, true⟩ d) (hname : temporary.name ≠ operatorJson) :
    Replaced start candidate (d.rename temporary.name operatorJson) := by
  have hmoves : d.entry temporary.name ≠ d.entry operatorJson := by
    intro hsame
    apply h.fresh
    rw [← h.untouched.standings, ← h.entry, hsame]
    exact List.mem_cons_self
  refine ⟨fun n hn => ?_, temporary.file, ?_, ?_, fun standing hstanding => .inr ?_⟩
  · rw [Directory.file_rename]
    exact h.untouched.files n hn
  · rw [Directory.entry_rename_target hname.symm]
    exact h.entry
  · rw [Directory.file_rename]
    exact h.file
  · rw [Directory.earlier_rename_target hname.symm hmoves, h.untouched.standings] at hstanding
    exact hstanding

/-- **Synchronizing** the directory makes what was published stable. -/
theorem Replaced.syncNames (h : Replaced start candidate d) :
    Replaced start candidate d.syncNames ∧ d.syncNames.Stable operatorJson := by
  obtain ⟨n, hn, hcontent, -⟩ := h.entry
  refine ⟨⟨h.files, n, hn, hcontent, fun _ hs => absurd hs List.not_mem_nil⟩,
    fun _ hs => absurd hs List.not_mem_nil, fun m hm => ?_⟩
  obtain rfl := Option.some.inj (hn.symm.trans hm)
  show (d.file n).synced = true
  rw [hcontent]

end

/-! ## What is left alone -/

/-- The call changes neither the configuration directory nor what the publisher reads or writes. -/
def Gentle : Call → Prop
  | .within .configuration (.openFile _) => True
  | .within .configuration (.fstat _) => True
  | .within .configuration (.statat _) => True
  | .within .configuration _ => False
  | .writeStatus _ => False
  | _ => True

/-- The configuration directory is at this stage, and the rest is as it was at the start. -/
structure Stage (start : Installation) (P : Directory Text → Prop) (w : Installation) : Prop where
  journal : w.journal = start.journal
  stdin : w.stdin = start.stdin
  stdout : w.stdout = start.stdout
  configuration : P w.configuration

section
variable {C : Crypto} {reader : Reader} {process : Process} {start w w' : Installation}
  {P Q : Directory Text → Prop} {inv : Installation → Prop} {past : List (Exchange Call Answer)}
  {name : Text} {file maximumBytes : ℕ}

theorem Stage.mono (h : Stage start P w) (hPQ : ∀ d, P d → Q d) : Stage start Q w :=
  ⟨h.journal, h.stdin, h.stdout, hPQ _ h.configuration⟩

theorem Stage.update (h : Stage start P w) {d : Directory Text} (hd : Q d) :
    Stage start Q { w with configuration := d } := ⟨h.journal, h.stdin, h.stdout, hd⟩

theorem Stage.reacts {c : Call} {answer : Answer c} (h : Stage start P w) (hc : Gentle c)
    (hreacts : reacts C w c answer w') : Stage start P w' := by
  cases c with
  | openDirectory root =>
    obtain rfl := hreacts
    exact h
  | flock file =>
    obtain rfl := hreacts
    exact h
  | within root c =>
    cases root with
    | state =>
      obtain ⟨d, -, rfl⟩ := hreacts
      exact ⟨h.journal, h.stdin, h.stdout, h.configuration⟩
    | configuration =>
      have hsame : w' = w := by
        obtain ⟨d, hd, rfl⟩ := hreacts
        cases c with
        | openFile name =>
          cases answer with
          | ok n => rw [hd.2]
          | error e => rw [hd.2]
        | fstat n =>
          cases answer with
          | ok metadata => rw [hd.2.2]
          | error e => rw [hd]
        | statat name =>
          cases answer with
          | ok metadata => rw [hd.2.2]
          | error e => rw [hd]
        | _ => exact hc.elim
      rw [hsame]
      exact h
  | readCandidate =>
    cases answer with
    | ok bytes =>
      obtain ⟨-, rfl⟩ := hreacts
      exact h
    | error e =>
      obtain rfl := hreacts
      exact h
  | descriptorDirectoryPath =>
    obtain rfl := hreacts
    exact h
  | validateReplacement configuration =>
    cases answer with
    | ok u =>
      obtain ⟨-, rfl⟩ := hreacts
      exact h
    | error e =>
      obtain rfl := hreacts
      exact h
  | writeStatus line => exact hc.elim

/-- **A program that only looks keeps the stage.** -/
theorem always_gentle {α : Type} {p : Program Call Answer α}
    (hp : p.Meets (fun _ c => Gentle c) [] fun _ _ => True) (hw : Stage start P w)
    (hinv : ∀ v, Stage start P v → inv v) :
    p.Always (reacts C) inv w fun _ v => Stage start P v := by
  have hkeeps := hp.relax fun _ c hc (v : Installation) a v' (hv : reacts C v c a v')
    (hstage : Stage start P v) => hstage.reacts hc hv
  exact ((always_of_meets hkeeps hw).relax hinv).mono fun _ _ _ h => h.1

theorem gentle_requirePrivateIdentity (parent : Root) :
    (requirePrivateIdentity process parent name file maximumBytes).run.Meets
      (fun _ c => Gentle c) past fun _ _ => True := by
  have hlooks : ∀ c : Filesystem.Call Text, Gentle (.within .configuration c) →
      Gentle (.within parent c) := by
    intro c hc
    cases parent with
    | configuration => exact hc
    | state => trivial
  refine (meets_bindExcept _ _).mpr ⟨hlooks _ trivial, fun metadata => ?_⟩
  cases metadata with
  | error e => trivial
  | ok metadata =>
    refine (meets_bindExcept _ _).mpr ⟨hlooks _ trivial, fun named => ?_⟩
    cases named with
    | error e => trivial
    | ok named => trivial

theorem gentle_validateOptionalPrivateFile (parent : Root) :
    (validateOptionalPrivateFile process parent name maximumBytes).run.Meets
      (fun _ c => Gentle c) past fun _ _ => True := by
  have hopen : Gentle (.within parent (.openFile name)) := by
    cases parent with
    | configuration => trivial
    | state => trivial
  refine (meets_bindExcept _ _).mpr ⟨hopen, fun answer => ?_⟩
  cases answer with
  | ok file => exact gentle_requirePrivateIdentity parent
  | error e =>
    cases e with
    | noent => trivial
    | exist => trivial
    | other => trivial

theorem gentle_acquireLifecycle :
    (acquireLifecycle process).run.Meets (fun _ c => Gentle c) past fun _ _ => True := by
  have hrest : ∀ lease past, (do
      requirePrivateIdentity process .state lifecycleLock lease 0
      ExceptT.mk (Program.call (Call.flock lease))
      requirePrivateIdentity process .state lifecycleLock lease 0 : Io Unit).run.Meets
        (fun _ c => Gentle c) past fun _ _ => True := by
    intro lease past
    refine (meets_bindExcept _ _).mpr ((gentle_requirePrivateIdentity .state).mono
      fun past r _ => ?_)
    cases r with
    | error e => trivial
    | ok u =>
      refine (meets_bindExcept _ _).mpr ⟨trivial, fun answer => ?_⟩
      cases answer with
      | error e => trivial
      | ok u => exact gentle_requirePrivateIdentity .state
  refine (meets_bindExcept _ _).mpr ⟨trivial, fun answer => ?_⟩
  cases answer with
  | ok lease => exact hrest lease _
  | error e =>
    cases e with
    | noent => trivial
    | other => trivial
    | exist =>
      refine (meets_bindExcept _ _).mpr ⟨trivial, fun answer => ?_⟩
      cases answer with
      | ok lease => exact hrest lease _
      | error e => trivial

theorem gentle_openRoots :
    (openRoots process).run.Meets (fun _ c => Gentle c) past fun _ _ => True := by
  refine (meets_bindExcept _ _).mpr ⟨trivial, fun answer => ?_⟩
  cases answer with
  | error e => trivial
  | ok u =>
    refine (meets_bindExcept _ _).mpr (gentle_acquireLifecycle.mono fun past r _ => ?_)
    cases r with
    | error e => trivial
    | ok u => exact ⟨trivial, fun _ => trivial⟩

end

/-! ## The runs of the publisher -/

/-- Where the outcome leaves the configuration directory. -/
def Stands (start : Directory Text) (candidate : Bytes) : Outcome → Directory Text → Prop
  | .published, d => Replaced start candidate d ∧ d.Stable operatorJson
  | .notPublished, d => Untouched start d
  | .indeterminate, d => Untouched start d ∨ Replaced start candidate d

theorem aboutOperator_stands {start : Directory Text} {candidate : Bytes} (outcome : Outcome) :
    AboutOperator (Stands start candidate outcome) := by
  intro d d' hentry hearlier hfile h
  cases outcome with
  | published =>
    refine ⟨aboutOperator_replaced d d' hentry hearlier hfile h.1, ?_, ?_⟩
    · rw [hentry, hearlier]
      exact h.2.entry
    · rw [hentry, hfile]
      exact h.2.file
  | notPublished => exact aboutOperator_untouched d d' hentry hearlier hfile h
  | indeterminate =>
    exact h.imp (aboutOperator_untouched d d' hentry hearlier hfile)
      (aboutOperator_replaced d d' hentry hearlier hfile)

/-- The published name stands for what it stood for, or for a candidate that is accepted. -/
def Held (C : Crypto) (reader : Reader) (start : Installation) (d : Directory Text) : Prop :=
  Untouched start.configuration d ∨
    Accepted C reader start ∧ Replaced start.configuration start.stdin d

theorem temporaryName_ne (process : Process) : temporaryName process ≠ operatorJson := by
  intro h
  have hfirst : (some 46 : Option UInt8) = some 111 := congrArg List.head? h
  exact absurd hfirst (by decide)

/-- The outcome of a result. -/
def outcomeOf : Except Outcome Unit → Outcome
  | .ok _ => .published
  | .error outcome => outcome

section
variable {C : Crypto} {reader : Reader} {process : Process} {start w : Installation}
  {P : Directory Text → Prop} {inv : Installation → Prop} {temporary : TemporaryCandidate}
  {bytes : Bytes}

/-- A call in the configuration directory. -/
theorem always_inside {c : Filesystem.Call Text}
    {post : Except Errno (Filesystem.Value c) → Installation → Prop} (hw : inv w)
    (h : ∀ answer d, w.configuration.reacts c answer d →
      inv { w with configuration := d } ∧ post answer { w with configuration := d }) :
    (inside .configuration c).run.Always (reacts C) inv w post := by
  refine ⟨hw, fun answer w' hreacts => ?_⟩
  obtain ⟨d, hd, rfl⟩ := hreacts
  exact h answer d hd

/-- **Dropping** the temporary file leaves the published name alone. -/
theorem always_drop (temporary : TemporaryCandidate) (hname : temporary.name ≠ operatorJson)
    (hP : AboutOperator P) (hw : Stage start P w) (hinv : ∀ v, Stage start P v → inv v) :
    (temporary.drop process).Always (reacts C) inv w fun _ v => Stage start P v := by
  refine (always_bind _ _).mpr
    ((always_gentle (gentle_requirePrivateIdentity _) hw hinv).mono ?_)
  intro r v _ hv
  cases r with
  | error e => exact ⟨hinv v hv, hv⟩
  | ok u =>
    refine (always_bind _ _).mpr (always_inside (hinv v hv) fun answer d hd => ?_)
    have hstage : Stage start P { v with configuration := d } := by
      cases answer with
      | ok u =>
        obtain ⟨-, rfl⟩ := hd
        exact hv.update (hP.bind hname none hv.configuration)
      | error e =>
        rcases hd with rfl | ⟨-, rfl⟩
        · exact hv
        · exact hv.update (hP.bind hname none hv.configuration)
    exact ⟨hinv _ hstage, hinv _ hstage, hstage⟩

/-- What `TemporaryCandidate::create` leaves. -/
def Created (start : Installation) : Except Errno TemporaryCandidate → Installation → Prop
  | .ok temporary, w => temporary.name ≠ operatorJson ∧
      Stage start (Drafted start.configuration temporary ⟨[], false⟩) w
  | .error _, w => Stage start (Untouched start.configuration) w

/-- **Creating** the temporary file leaves the published name alone. -/
theorem always_create (hw : Stage start (Untouched start.configuration) w)
    (hinv : ∀ v, Stage start (Untouched start.configuration) v → inv v) :
    (TemporaryCandidate.create process).run.Always (reacts C) inv w (Created start) := by
  have hname := temporaryName_ne process
  refine always_bindExcept (always_inside (hinv w hw) fun answer d hd => ?_)
  cases answer with
  | error e =>
    have hstage : Stage start (Untouched start.configuration) { w with configuration := d } := by
      rcases hd with rfl | ⟨-, n, hunused, rfl⟩
      · exact hw
      · exact hw.update (hw.configuration.create hname hunused).untouched
    exact ⟨hinv _ hstage, hstage⟩
  | ok n =>
    obtain ⟨-, hunused, rfl⟩ := hd
    have hdrafted := hw.update (hw.configuration.create hname hunused)
    have huntouched : ∀ v, Stage start (Drafted start.configuration ⟨temporaryName process, n⟩
        ⟨[], false⟩) v → inv v := fun v hv => hinv v (hv.mono fun _ h => h.untouched)
    refine ⟨huntouched _ hdrafted, always_bindExcept (always_lift
      ((always_gentle (gentle_requirePrivateIdentity _) hdrafted huntouched).mono
        ?_))⟩
    intro r v hv hstage
    cases r with
    | ok u => exact ⟨hv, hname, hstage⟩
    | error e =>
      refine always_bindExcept (always_lift ((always_drop ⟨temporaryName process, n⟩ hname
        aboutOperator_untouched (hstage.mono fun _ h => h.untouched) hinv).mono ?_))
      exact fun _ v' hv' h => ⟨hv', h⟩

/-- **Publishing** ends in an outcome that is honest, and never leaves anything under the published
name but what was there and the whole candidate. -/
theorem always_publishTemporary (haccepted : Accepted C reader start)
    (hname : temporary.name ≠ operatorJson)
    (hw : Stage start (Drafted start.configuration temporary ⟨[], false⟩) w)
    (hinv : ∀ v, Stage start (Held C reader start) v → inv v) :
    (publishTemporary process temporary start.stdin).run.Always (reacts C) inv w fun r v =>
      Stage start (Stands start.configuration start.stdin (outcomeOf r)) v := by
  have hdraft : ∀ {v : Installation} {file : File},
      Stage start (Drafted start.configuration temporary file) v → inv v :=
    fun hv => hinv _ (hv.mono fun _ h => .inl h.untouched)
  have hrefused : ∀ {v : Installation} {file : File},
      Stage start (Drafted start.configuration temporary file) v →
      Stage start (Stands start.configuration start.stdin .notPublished) v :=
    fun hv => hv.mono fun _ h => h.untouched
  have hplaced : ∀ {v : Installation},
      Stage start (Replaced start.configuration start.stdin) v → inv v :=
    fun hv => hinv _ (hv.mono fun _ h => .inr ⟨haccepted, h⟩)
  -- the write
  refine always_bindExcept (always_mapErr (always_inside (hdraft hw) fun answer d hd => ?_))
  cases answer with
  | error e =>
    obtain ⟨part, -, rfl⟩ := hd
    have hpart := hw.update (hw.configuration.append part)
    exact ⟨hdraft hpart, hrefused hpart⟩
  | ok u =>
  obtain rfl := hd
  have hwritten := hw.update (hw.configuration.append start.stdin)
  generalize { w with configuration := w.configuration.append temporary.file start.stdin } = v
    at hwritten
  refine ⟨hdraft hwritten, ?_⟩
  -- its synchronization
  refine always_bindExcept (always_mapErr (always_inside (hdraft hwritten) fun answer d hd => ?_))
  have hsynced := hwritten.update hwritten.configuration.sync
  cases answer with
  | error e =>
    rcases hd with rfl | rfl
    · exact ⟨hdraft hwritten, hrefused hwritten⟩
    · exact ⟨hdraft hsynced, hrefused hsynced⟩
  | ok u =>
  obtain rfl := hd
  generalize { v with configuration := v.configuration.sync temporary.file } = v at hsynced
  refine ⟨hdraft hsynced, ?_⟩
  -- the two checks
  refine always_bindExcept (always_mapErr
    ((always_gentle (gentle_requirePrivateIdentity _) hsynced fun _ => hdraft).mono
      fun r v hv hchecked => ?_))
  cases r with
  | error e => exact hrefused hchecked
  | ok u =>
  refine always_bindExcept (always_mapErr
    ((always_gentle (gentle_validateOptionalPrivateFile _) hchecked
      fun _ => hdraft).mono fun r v hv hready => ?_))
  cases r with
  | error e => exact hrefused hready
  | ok u =>
  -- the rename
  refine always_bindExcept (always_mapErr (always_inside (hdraft hready) fun answer d hd => ?_))
  have hrenamed := hready.update (hready.configuration.rename hname)
  cases answer with
  | error e =>
    rcases hd with rfl | ⟨-, rfl⟩
    · exact ⟨hdraft hready, hready.mono fun _ h => .inl h.untouched⟩
    · exact ⟨hplaced hrenamed, hrenamed.mono fun _ => .inr⟩
  | ok u =>
  obtain ⟨-, rfl⟩ := hd
  generalize { v with configuration := v.configuration.rename temporary.name operatorJson } = v
    at hrenamed
  refine ⟨hplaced hrenamed, ?_⟩
  -- the synchronization of the directory
  refine always_mapErr (always_inside (hplaced hrenamed) fun answer d hd => ?_)
  have hdurable : Stage start (Stands start.configuration start.stdin .published)
      { v with configuration := v.configuration.syncNames } :=
    hrenamed.update hrenamed.configuration.syncNames
  cases answer with
  | error e =>
    rcases hd with rfl | rfl
    · exact ⟨hplaced hrenamed, hrenamed.mono fun _ => .inr⟩
    · exact ⟨hplaced (hdurable.mono fun _ h => h.1), hdurable.mono fun _ h => .inr h.1⟩
  | ok u =>
    obtain rfl := hd
    exact ⟨hplaced (hdurable.mono fun _ h => h.1), hdurable⟩

theorem held_of_stands (haccepted : Accepted C reader start) {outcome : Outcome}
    {d : Directory Text} (h : Stands start.configuration start.stdin outcome d) :
    Held C reader start d := by
  cases outcome with
  | published => exact .inr ⟨haccepted, h.1⟩
  | notPublished => exact .inl h
  | indeterminate => exact h.imp_right fun h => ⟨haccepted, h⟩

theorem always_publishCandidate (haccepted : Accepted C reader start)
    (hw : Stage start (Untouched start.configuration) w)
    (hinv : ∀ v, Stage start (Held C reader start) v → inv v) :
    (publishCandidate process start.stdin).Always (reacts C) inv w fun outcome v =>
      Stage start (Stands start.configuration start.stdin outcome) v := by
  have huntouched : ∀ v, Stage start (Untouched start.configuration) v → inv v :=
    fun v hv => hinv v (hv.mono fun _ => .inl)
  refine (always_bind _ _).mpr ((always_create hw huntouched).mono fun r v _ hcreated => ?_)
  cases r with
  | error e => exact ⟨huntouched v hcreated, hcreated⟩
  | ok temporary =>
    obtain ⟨hname, hdrafted⟩ := hcreated
    refine (always_bind _ _).mpr ((always_publishTemporary haccepted hname hdrafted hinv).mono
      fun result v _ hstands => ?_)
    refine (always_bind _ _).mpr ((always_drop temporary hname (aboutOperator_stands _) hstands
      fun v hv => hinv v (hv.mono fun _ => held_of_stands haccepted)).mono fun _ v hv h => ?_)
    cases result with
    | ok u => exact ⟨hv, h⟩
    | error outcome => exact ⟨hv, h⟩

/-- **Validating** looks only, and what passes is the whole input and accepted. -/
theorem always_validateCandidate (hw : Stage start P w) (hinv : ∀ v, Stage start P v → inv v) :
    (validateCandidate C reader process).run.Always (reacts C) inv w fun r v =>
      Stage start P v ∧ ∀ bytes, r = .ok bytes → bytes = start.stdin ∧ Accepted C reader start := by
  have hfails : ∀ {e : Errno} {v : Installation}, Stage start P v → Stage start P v ∧
      ∀ bytes, (.error e : Except Errno Bytes) = .ok bytes →
        bytes = start.stdin ∧ Accepted C reader start :=
    fun hv => ⟨hv, fun _ h => nomatch h⟩
  refine always_bindExcept ⟨hinv w hw, fun answer v hreacts => ?_⟩
  have hread := hw.reacts (c := .readCandidate) trivial hreacts
  cases answer with
  | error e => exact ⟨hinv v hread, hfails hread⟩
  | ok bytes =>
  have hbytes : bytes = start.stdin.take (operatorDocumentBytesMax + 1) := by
    rw [hreacts.1, hw.stdin]
  refine ⟨hinv v hread, always_bindExcept ⟨hinv v hread, ?_⟩⟩
  by_cases hlength : bytes.length ≤ operatorDocumentBytesMax
  swap
  · rw [decide_eq_false hlength]
    exact hfails hread
  have hwhole : start.stdin.length ≤ operatorDocumentBytesMax := by
    rw [hbytes, List.length_take] at hlength
    omega
  obtain rfl : bytes = start.stdin := by
    rw [hbytes, List.take_of_length_le (by omega)]
  rw [decide_eq_true hlength]
  refine always_bindExcept ((always_gentle (gentle_validateOptionalPrivateFile _)
    hread hinv).mono fun r v hv hstage => ?_)
  cases r with
  | error e => exact hfails hstage
  | ok u =>
  refine always_bindExcept ((always_gentle (gentle_validateOptionalPrivateFile _)
    hstage hinv).mono fun r v hv hstage => ?_)
  cases r with
  | error e => exact hfails hstage
  | ok u =>
  refine always_bindExcept ⟨hv, fun answer v' hreacts => ?_⟩
  have hpath := hstage.reacts (c := .descriptorDirectoryPath) trivial hreacts
  refine ⟨hinv v' hpath, ?_⟩
  cases answer with
  | error e => exact hfails hpath
  | ok u =>
  refine always_bindExcept ⟨hinv v' hpath, ?_⟩
  cases hparsed : parseServiceOperatorDocument C reader start.stdin with
  | error e => exact hfails hpath
  | ok document =>
  refine always_bindExcept (always_mapErr ⟨hinv v' hpath, fun answer u hreacts => ?_⟩)
  have hvalid := hpath.reacts (c := .validateReplacement _) trivial hreacts
  refine ⟨hinv u hvalid, ?_⟩
  cases answer with
  | error e => exact hfails hvalid
  | ok _ =>
    refine ⟨hinv u hvalid, hvalid, fun bytes hbytes => ?_⟩
    obtain rfl := Except.ok.inj hbytes
    refine ⟨rfl, hwhole, document, hparsed, ?_⟩
    rw [← hpath.journal]
    exact hreacts.1

/-- **The publisher** ends in an outcome that is honest. -/
theorem always_replace (hinv : ∀ v, Stage start (Held C reader start) v → inv v) :
    (replace C reader process).Always (reacts C) inv start fun outcome v =>
      Stage start (Stands start.configuration start.stdin outcome) v := by
  have hstart : Stage start (Untouched start.configuration) start :=
    ⟨rfl, rfl, rfl, .refl _⟩
  have huntouched : ∀ v, Stage start (Untouched start.configuration) v → inv v :=
    fun v hv => hinv v (hv.mono fun _ => .inl)
  refine (always_bind _ _).mpr
    ((always_gentle gentle_openRoots hstart huntouched).mono fun r v hv hroots => ?_)
  cases r with
  | error e => exact ⟨hv, hroots⟩
  | ok u =>
    refine (always_bind _ _).mpr ((always_validateCandidate hroots huntouched).mono ?_)
    intro r v hv hvalidated
    cases r with
    | error e => exact ⟨hv, hvalidated.1⟩
    | ok bytes =>
      obtain ⟨hstage, hpasses⟩ := hvalidated
      obtain ⟨rfl, haccepted⟩ := hpasses bytes rfl
      exact always_publishCandidate haccepted hstage hinv

end

/-! ## What is reported -/

/-- Reading the published name gives this after some crash at the start already. -/
def LeftBy (start : Installation) (content : Option Bytes) : Prop :=
  ∃ before, start.configuration.Crashes before ∧ before.content operatorJson = content

/-- What the outcome promises of the published name, now and after a crash. -/
def Honest (start w : Installation) : Outcome → Prop
  | .published => w.operator = some start.stdin ∧
      ∀ d, w.configuration.Crashes d → d.content operatorJson = some start.stdin
  | .notPublished => w.operator = start.operator ∧
      ∀ d, w.configuration.Crashes d → LeftBy start (d.content operatorJson)
  | .indeterminate => True

/-- The exit code and what is on the output belong to an honest outcome.  Where the output failed,
the line may be incomplete, and the code is 5. -/
def Reports (start w : Installation) (exit : ℕ) : Prop :=
  ∃ outcome part, Honest start w outcome ∧ part <+: outcome.status.1 ∧
    w.stdout = start.stdout ++ part ∧
    (part = outcome.status.1 ∧ exit = outcome.status.2 ∨ exit = 5)

section
variable {C : Crypto} {reader : Reader} {process : Process} {start w : Installation}
  {d d' : Directory Text} {candidate : Bytes}

/-- The start after a crash, with the published name as it is in another directory. -/
def restored (start d : Directory Text) : Directory Text where
  entry := Function.update start.entry operatorJson (d.entry operatorJson)
  earlier := fun _ => []
  file n := if some n ∈ start.standings operatorJson then d.file n else start.file n

theorem entry_restored (start d : Directory Text) :
    (restored start d).entry operatorJson = d.entry operatorJson := by
  show Function.update start.entry operatorJson (d.entry operatorJson) operatorJson = _
  rw [Function.update_self]

theorem file_restored {start d : Directory Text} {n : ℕ}
    (hn : some n ∈ start.standings operatorJson) : (restored start d).file n = d.file n := if_pos hn

/-- A crash that brings back what the name stood for at the start could have come then. -/
theorem leftBy_of_mem (hfiles : Preserves start.configuration d) (hcrash : d.Crashes d')
    (hmem : d'.entry operatorJson ∈ start.configuration.standings operatorJson) :
    LeftBy start (d'.content operatorJson) := by
  refine ⟨restored start.configuration d', ⟨fun name => ?_, fun n hsynced => ?_⟩, ?_⟩
  · by_cases hname : name = operatorJson
    · subst hname
      rw [entry_restored]
      exact hmem
    · have hentry : (restored start.configuration d').entry name = start.configuration.entry name :=
        Function.update_of_ne hname ..
      rw [hentry]
      exact List.mem_cons_self
  · by_cases hn : some n ∈ start.configuration.standings operatorJson
    · rw [file_restored hn, ← hfiles n hn]
      refine hcrash.file n ?_
      rw [hfiles n hn]
      exact hsynced
    · have hfile : (restored start.configuration d').file n = start.configuration.file n :=
        if_neg hn
      rw [hfile]
  · unfold Directory.content
    rw [entry_restored]
    cases hentry : d'.entry operatorJson with
    | none => rfl
    | some n =>
      rw [hentry] at hmem
      show some ((restored start.configuration d').file n).content = _
      rw [file_restored hmem]
      rfl

theorem Untouched.content (h : Untouched start.configuration d) :
    d.content operatorJson = start.operator := by
  unfold Installation.operator Directory.content
  rw [h.entry]
  cases hentry : start.configuration.entry operatorJson with
  | none => rfl
  | some n =>
    have hn : some n ∈ start.configuration.standings operatorJson := by
      rw [← hentry]
      exact List.mem_cons_self
    show some (d.file n).content = some (start.configuration.file n).content
    rw [h.files n hn]

theorem Untouched.leftBy (h : Untouched start.configuration d) (hcrash : d.Crashes d') :
    LeftBy start (d'.content operatorJson) := by
  refine leftBy_of_mem h.files hcrash ?_
  rw [← h.standings]
  exact hcrash.entry operatorJson

theorem Replaced.content (h : Replaced start.configuration candidate d) :
    d.content operatorJson = some candidate := by
  obtain ⟨n, hn, hfile, -⟩ := h.entry
  unfold Directory.content
  rw [hn]
  show some (d.file n).content = _
  rw [hfile]

/-- After a crash the name stands for the candidate, or for what a crash could bring back at the
start. -/
theorem Replaced.crashed (h : Replaced start.configuration candidate d) (hcrash : d.Crashes d') :
    LeftBy start (d'.content operatorJson) ∨ d'.content operatorJson = some candidate := by
  obtain ⟨n, hn, hfile, hstandings⟩ := h.entry
  have hcandidate : d'.entry operatorJson = some n → d'.content operatorJson = some candidate := by
    intro hentry
    unfold Directory.content
    rw [hentry]
    show some (d'.file n).content = _
    rw [hcrash.file n (by rw [hfile]), hfile]
  rcases List.mem_cons.mp (hcrash.entry operatorJson) with hnow | hearlier
  · exact .inr (hcandidate (hnow.trans hn))
  · rcases hstandings _ hearlier with hnew | hold
    · exact .inr (hcandidate hnew)
    · exact .inl (leftBy_of_mem h.files hcrash hold)

theorem honest_of_stands {outcome : Outcome}
    (h : Stands start.configuration start.stdin outcome w.configuration) :
    Honest start w outcome := by
  cases outcome with
  | published =>
    refine ⟨h.1.content, fun d hcrash => ?_⟩
    rw [Directory.content_of_stable h.2 hcrash]
    exact h.1.content
  | notPublished => exact ⟨h.content, fun d hcrash => h.leftBy hcrash⟩
  | indeterminate => trivial

/-- What holds at every moment: the published name and the output. -/
structure Sound (C : Crypto) (reader : Reader) (start w : Installation) : Prop where
  held : Held C reader start w.configuration
  output : w.stdout = start.stdout ∨ ∃ exit, Reports start w exit

theorem always_replaceOperatorConfig :
    (replaceOperatorConfig C reader process).Always (reacts C) (Sound C reader start) start
      fun exit v => Reports start v exit := by
  refine (always_bind _ _).mpr ((always_replace fun v hv => ⟨hv.configuration, .inl hv.stdout⟩).mono
    fun outcome v hsound hstage => ⟨hsound, fun answer v' hreacts => ?_⟩)
  have hhonest : ∀ stdout, Honest start { v with stdout := stdout } outcome :=
    fun _ => honest_of_stands hstage.configuration
  cases answer with
  | ok u =>
    obtain rfl := hreacts
    have hreports : Reports start { v with stdout := v.stdout ++ outcome.status.1 }
        outcome.status.2 := by
      refine ⟨outcome, outcome.status.1, hhonest _, List.prefix_refl _, ?_, .inl ⟨rfl, rfl⟩⟩
      exact congrArg (· ++ outcome.status.1) hstage.stdout
    exact ⟨⟨hsound.held, .inr ⟨_, hreports⟩⟩, hreports⟩
  | error e =>
    obtain ⟨part, hpart, rfl⟩ := hreacts
    have hreports : Reports start { v with stdout := v.stdout ++ part } 5 := by
      refine ⟨outcome, part, hhonest _, hpart, ?_, .inr rfl⟩
      exact congrArg (· ++ part) hstage.stdout
    exact ⟨⟨hsound.held, .inr ⟨_, hreports⟩⟩, hreports⟩

end

/-- **Cold publication is atomic and its report is honest.**  At every moment of every run
`operator.json` is what it was or the whole candidate; after a crash at any moment it is what a
crash at the start could have left, or the whole candidate; and it is the candidate only where that
is accepted.  Nothing but a part of an honest report is ever on the output, and a run that ends has
reported. -/
theorem publication_honest_and_atomic (C : Crypto) (reader : Reader) (process : Process)
    {start w : Installation} {rest : Program Call Answer ℕ}
    (hrun : Reaches (reacts C) (replaceOperatorConfig C reader process) start rest w) :
    (w.operator = start.operator ∨ w.operator = some start.stdin ∧ Accepted C reader start) ∧
      (∀ d, w.configuration.Crashes d → LeftBy start (d.content operatorJson) ∨
        d.content operatorJson = some start.stdin ∧ Accepted C reader start) ∧
      (start.configuration.Stable operatorJson → ∀ d, w.configuration.Crashes d →
        d.content operatorJson = start.operator ∨
          d.content operatorJson = some start.stdin ∧ Accepted C reader start) ∧
      (w.stdout = start.stdout ∨ ∃ exit, Reports start w exit) ∧
      ∀ exit, rest = .done exit → Reports start w exit := by
  have halways := always_replaceOperatorConfig.of_reaches hrun
  have hsound := halways.now
  have hcrashed : ∀ d, w.configuration.Crashes d → LeftBy start (d.content operatorJson) ∨
      d.content operatorJson = some start.stdin ∧ Accepted C reader start := by
    intro d hcrash
    rcases hsound.held with huntouched | ⟨haccepted, hreplaced⟩
    · exact .inl (huntouched.leftBy hcrash)
    · exact (hreplaced.crashed hcrash).imp_right fun h => ⟨h, haccepted⟩
  refine ⟨?_, hcrashed, fun hstable d hcrash => ?_, hsound.output, fun exit hexit => ?_⟩
  · rcases hsound.held with huntouched | ⟨haccepted, hreplaced⟩
    · exact .inl huntouched.content
    · exact .inr ⟨hreplaced.content, haccepted⟩
  · rcases hcrashed d hcrash with ⟨before, hbefore, hcontent⟩ | hcandidate
    · exact .inl (hcontent.symm.trans (Directory.content_of_stable hstable hbefore))
    · exact .inr hcandidate
  · subst hexit
    exact halways.2

/-! ## A run -/

/-- A document without appointments and approvals. -/
def bareDocument : Document := .object (named [
  ("service_configuration_version", .number (utf8 "1")), ("authorization_keys", .array []),
  ("approvals", .array []), ("receipt_signing_key_id", .string (utf8 "receipts"))])

def emptyDirectory : Directory Text := ⟨fun _ => none, fun _ => [], fun _ => ⟨[], false⟩⟩

theorem unused_emptyDirectory (n : ℕ) : ¬emptyDirectory.InUse n := by
  rintro ⟨name, h⟩
  cases h with
  | tail _ h => cases h

/-- Nothing is installed, and the document comes in. -/
def bareInstallation : Installation :=
  ⟨emptyDirectory, emptyDirectory, ⟨false, .empty, fun _ => rfl⟩, bareDocument.print, []⟩

/-- A private file of the process. -/
def privateFile (n size : ℕ) : Metadata := ⟨n, true, 1, 1, 0o600, 1, size⟩

def candidateSize : ℕ := bareDocument.print.length

/-- The document is published where nothing fails. -/
theorem exists_published : ∃ w, Reaches (reacts Gateway.Known.crypto)
    (replaceOperatorConfig Gateway.Known.crypto compact ⟨7, 1, 1, 0⟩) bareInstallation (.done 0)
    w := by
  apply Exists.intro
  apply Reaches.after (a := .ok ()) rfl
  apply Reaches.after (a := .ok (0 : ℕ)) ⟨_, ⟨rfl, unused_emptyDirectory 0, rfl⟩, rfl⟩
  apply Reaches.after (a := .ok (privateFile 0 0)) ⟨_, ⟨rfl, rfl, rfl⟩, rfl⟩
  apply Reaches.after (a := .ok (privateFile 0 0)) ⟨_, ⟨rfl, rfl, rfl⟩, rfl⟩
  apply Reaches.after (a := .ok ()) rfl
  apply Reaches.after (a := .ok (privateFile 0 0)) ⟨_, ⟨rfl, rfl, rfl⟩, rfl⟩
  apply Reaches.after (a := .ok (privateFile 0 0)) ⟨_, ⟨rfl, rfl, rfl⟩, rfl⟩
  apply Reaches.after (a := .ok ()) rfl
  apply Reaches.after (a := .ok bareDocument.print) ⟨rfl, rfl⟩
  apply Reaches.after (a := .error .noent) ⟨_, ⟨fun _ => rfl, rfl⟩, rfl⟩
  apply Reaches.after (a := .error .noent) ⟨_, ⟨fun _ => rfl, rfl⟩, rfl⟩
  apply Reaches.after (a := .ok ()) rfl
  apply Reaches.after (a := .ok ()) ⟨⟨Gateway.Known.outside, 0, none, rfl⟩, rfl⟩
  apply Reaches.after (a := .ok (0 : ℕ)) ⟨_, ⟨rfl, unused_emptyDirectory 0, rfl⟩, rfl⟩
  apply Reaches.after (a := .ok (privateFile 0 0)) ⟨_, ⟨rfl, rfl, rfl⟩, rfl⟩
  apply Reaches.after (a := .ok (privateFile 0 0)) ⟨_, ⟨rfl, rfl, rfl⟩, rfl⟩
  apply Reaches.after (a := .ok ()) ⟨_, rfl, rfl⟩
  apply Reaches.after (a := .ok ()) ⟨_, rfl, rfl⟩
  apply Reaches.after (a := .ok (privateFile 0 candidateSize)) ⟨_, ⟨rfl, rfl, rfl⟩, rfl⟩
  apply Reaches.after (a := .ok (privateFile 0 candidateSize)) ⟨_, ⟨rfl, rfl, rfl⟩, rfl⟩
  apply Reaches.after (a := .error .noent) ⟨_, ⟨fun _ => rfl, rfl⟩, rfl⟩
  apply Reaches.after (a := .ok ()) ⟨_, ⟨fun h => (nomatch h), rfl⟩, rfl⟩
  apply Reaches.after (a := .ok ()) ⟨_, rfl, rfl⟩
  apply Reaches.after (a := .ok (privateFile 0 candidateSize)) ⟨_, ⟨rfl, rfl, rfl⟩, rfl⟩
  apply Reaches.after (a := .error .noent) ⟨_, rfl, rfl⟩
  apply Reaches.after (a := .ok ()) rfl
  exact .start

/-- The run of `exists_published` reports what it did. -/
theorem bareDocument_published : ∃ w, Reports bareInstallation w 0 ∧
    (w.operator = bareInstallation.operator ∨ w.operator = some bareDocument.print) := by
  obtain ⟨w, hrun⟩ := exists_published
  obtain ⟨hnow, -, -, -, hends⟩ := publication_honest_and_atomic _ _ _ hrun
  exact ⟨w, hends 0 rfl, hnow.imp_right fun h => h.1⟩

end Publication
end Daemon
end Kapsel
