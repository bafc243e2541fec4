import ConformanceSuite.Proofs.Text.Blank
import ConformanceSuite.Settings.Load

/-!
# Paths in use

Paths in settings are judged without the white space around them. The file of the audit is opened at
the path that was judged, but the directories of documents are searched at the paths as they were
given. So a directory in use is a sound path exactly if it was given without white space around it:
`paths_in_use`.
-/

namespace ConformanceSuite

namespace Settings

/-! ### Sound paths -/

/-- A path that is not blank, has no white space at either end, and keeps to the limits of its
length and of its steps. -/
structure IsSound (path : String) : Prop where
  present : Text.isBlank path = false
  trimmed : Text.IsTrimmed path
  length : path.utf8ByteSize ≤ 4096
  steps : ∀ step ∈ Path.steps path, step.utf8ByteSize ≤ 255

theorem pathLengthFault?_eq_none_iff {path : String} : pathLengthFault? path = none ↔
    path.utf8ByteSize ≤ 4096 ∧ ∀ step ∈ Path.steps path, step.utf8ByteSize ≤ 255 := by
  rw [pathLengthFault?, maxPathLength, maxComponentLength]
  split
  case isTrue hlong => exact iff_of_false nofun fun h => absurd h.1 (Nat.not_le.2 hlong)
  case isFalse hlong =>
    simp [Nat.not_lt.1 hlong]

/-- A path has no fault if and only if it is sound without the white space around it. -/
theorem pathFault?_eq_none_iff {path : String} :
    pathFault? path = none ↔ IsSound (Text.trim path) := by
  have htrim := Text.isTrimmed_trim path
  rw [pathFault?]
  cases hempty : (Text.trim path).isEmpty with
  | true =>
    simp only [if_true, reduceCtorEq, false_iff]
    exact fun h => by simpa [htrim.isBlank_eq, hempty] using h.present
  | false =>
    simp only [Bool.false_eq_true, if_false, pathLengthFault?_eq_none_iff]
    exact ⟨fun ⟨hlength, hsteps⟩ => ⟨htrim.isBlank_eq.trans hempty, htrim, hlength, hsteps⟩,
      fun h => ⟨h.length, h.steps⟩⟩

/-- A path whose trimmed form is sound is itself sound if and only if it is its trimmed form. -/
theorem isSound_iff_trim_eq {path : String} (h : IsSound (Text.trim path)) :
    IsSound path ↔ Text.trim path = path :=
  ⟨fun hpath => Text.trim_eq_self_iff.2 hpath.trimmed, fun heq => heq ▸ h⟩

theorem checkPath_eq_ok_iff {field path : String} :
    checkPath field path = .ok () ↔ IsSound (Text.trim path) := by
  rw [← pathFault?_eq_none_iff, checkPath]
  cases pathFault? path <;> simp

/-! ### Sections -/

theorem bind_eq_ok_iff {ε : Type} {x y : Except ε Unit} :
    (x >>= fun _ => y) = .ok () ↔ x = .ok () ∧ y = .ok () := by
  cases x <;> simp [bind, Except.bind]

theorem forM_eq_ok_iff {α ε : Type} {f : α → Except ε Unit} {items : List α} :
    forM items f = .ok () ↔ ∀ item ∈ items, f item = .ok () := by
  induction items with
  | nil => exact iff_of_true rfl nofun
  | cons item items ih => rw [List.forM_cons, bind_eq_ok_iff, ih, List.forall_mem_cons]

theorem require_eq_ok_iff {holds : Bool} {fault : Fault} :
    require holds fault = .ok () ↔ holds = true := by
  cases holds <;> simp [require]

theorem check_eq_ok_iff {s : Settings} : s.check = .ok () ↔
    s.server.check = .ok () ∧ s.schema.check = .ok () ∧ s.http.check = .ok () ∧
      s.audit.check = .ok () := by
  simp only [check, bind_eq_ok_iff]

theorem check_of_ofText {text : String} {s : Settings} (h : ofText text = .ok s) :
    s.check = .ok () := by
  unfold ofText at h
  split at h
  case h_1 => simp at h
  case h_2 =>
    split at h
    case h_1 => simp at h
    case h_2 hcheck => exact Except.ok.inj h ▸ hcheck

end Settings

/-- The settings of the documents are accepted if and only if they name 1 to 16 directories, all at
paths that are sound without the white space around them. -/
theorem SchemaSettings.check_eq_ok_iff {s : SchemaSettings} : s.check = .ok () ↔
    s.specDirs ≠ [] ∧ s.specDirs.length ≤ 16 ∧
      ∀ dir ∈ s.specDirs, Settings.IsSound (Text.trim dir) := by
  simp [check, Settings.bind_eq_ok_iff, Settings.forM_eq_ok_iff, Settings.require_eq_ok_iff,
    Settings.checkPath_eq_ok_iff, show maxSpecDirs = 16 from rfl]

/-- The settings of the audit are accepted if and only if they name a file at a path that is sound
without the white space around it, or name neither a file nor a path. -/
theorem AuditSettings.check_eq_ok_iff {s : AuditSettings} : s.check = .ok () ↔
    (s.sink = .file ∧ ∃ path, s.path = some path ∧ Settings.IsSound (Text.trim path)) ∨
      (s.sink ≠ .file ∧ s.path = none) := by
  rcases s with ⟨sink, path⟩
  cases sink <;> cases path <;> simp [check, Settings.checkPath_eq_ok_iff]

namespace Settings

/-! ### Paths in use -/

variable {s : Settings}

/-- The audit goes to the file at a path: whatever the files are, the file at that path is opened
and no other. -/
def AuditsAt (s : Settings) (path : String) : Prop :=
  ∀ files, s.openAudit files =
    match EventLog.openAt files path with
    | .error e => .error (.io e)
    | .ok files => .ok (.log path, files)

/-- The audit goes to no file, and opening it leaves the files as they are. -/
def AuditsToNoFile (s : Settings) : Prop :=
  ∃ destination, (∀ path, destination ≠ .log path) ∧
    ∀ files, s.openAudit files = .ok (destination, files)

theorem auditsAt_trim (hsink : s.audit.sink = .file) {path : String}
    (hpath : s.audit.path = some path) : s.AuditsAt (Text.trim path) := by
  intro files
  cases hopen : EventLog.openAt files (Text.trim path) <;>
    simp only [openAudit, hsink, hpath, hopen]

theorem auditsToNoFile (hsink : s.audit.sink ≠ .file) : s.AuditsToNoFile := by
  cases h : s.audit.sink with
  | stderr => exact ⟨.stderr, nofun, fun files => by simp only [openAudit, h]⟩
  | none => exact ⟨.nowhere, nofun, fun files => by simp only [openAudit, h]⟩
  | file => exact absurd h hsink

/-- Every path that accepted settings put to use is sound without the white space around it. The
file of the audit is opened at the path without that white space. The directories of documents are
searched as they were given, so that one is sound if and only if there is no such white space. -/
theorem paths_in_use {text : String} (h : ofText text = .ok s) :
    (∀ dir ∈ s.schema.registry.dirs,
      IsSound (Text.trim dir) ∧ (IsSound dir ↔ Text.trim dir = dir)) ∧
    ((s.audit.sink = .file ∧ ∃ path, s.audit.path = some path ∧ IsSound (Text.trim path) ∧
        s.AuditsAt (Text.trim path)) ∨
      (s.audit.sink ≠ .file ∧ s.AuditsToNoFile)) := by
  obtain ⟨-, hschema, -, haudit⟩ := check_eq_ok_iff.1 (check_of_ofText h)
  constructor
  · intro dir hdir
    have hsound := (SchemaSettings.check_eq_ok_iff.1 hschema).2.2 dir hdir
    exact ⟨hsound, isSound_iff_trim_eq hsound⟩
  · obtain ⟨hsink, path, hpath, hsound⟩ | ⟨hsink, -⟩ := AuditSettings.check_eq_ok_iff.1 haudit
    · exact .inl ⟨hsink, path, hpath, hsound, auditsAt_trim hsink hpath⟩
    · exact .inr ⟨hsink, auditsToNoFile hsink⟩

/-- Settings with white space around both paths. -/
def paddedText : String :=
  "[schema]\nspec_dirs = [\" specs \"]\n[audit]\nsink = \"file\"\npath = \" audit.log \"\n"

def padded : Settings :=
  { schema := ⟨[" specs "]⟩, audit := ⟨.file, some " audit.log "⟩ }

theorem ofText_paddedText : ofText paddedText = .ok padded := by
  have h : (ofText paddedText).toOption = some padded := by decide +kernel
  cases hread : ofText paddedText with
  | error e => simp [hread, Except.toOption] at h
  | ok s => simpa [hread, Except.toOption] using h

theorem paths_in_use_padded :
    ofText paddedText = .ok padded ∧ IsSound "specs" ∧ ¬ IsSound " specs " ∧
      IsSound "audit.log" ∧ padded.AuditsAt "audit.log" := by
  have hdir : Text.trim " specs " = "specs" := by decide +kernel
  have hfile : Text.trim " audit.log " = "audit.log" := by decide +kernel
  obtain ⟨hdirs, haudit⟩ := paths_in_use ofText_paddedText
  obtain ⟨hsound, hiff⟩ := hdirs " specs " List.mem_cons_self
  rw [hdir] at hsound hiff
  obtain ⟨-, path, hpath, hpathSound, hat⟩ | ⟨hsink, -⟩ := haudit
  · obtain rfl : " audit.log " = path := Option.some.inj hpath
    rw [hfile] at hpathSound hat
    exact ⟨ofText_paddedText, hsound, fun h => absurd (hiff.1 h) (by decide), hpathSound, hat⟩
  · exact absurd rfl hsink

/-- A directory in use need not be a sound path. -/
theorem directory_with_blanks :
    ¬ ∀ text s, ofText text = .ok s → ∀ dir ∈ s.schema.registry.dirs, IsSound dir := fun h =>
  absurd ((h _ _ ofText_paddedText " specs " List.mem_cons_self).trimmed.head ' ' (by decide))
    (by decide)

end Settings

end ConformanceSuite
