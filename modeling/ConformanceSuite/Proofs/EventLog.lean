import ConformanceSuite.EventLog
import ConformanceSuite.Proofs.Files.Append
import ConformanceSuite.Proofs.LogRecord
import ConformanceSuite.Proofs.Text.Split
import ConformanceSuite.Redirect.Audit
import ConformanceSuite.Run.Event

/-!
# One event, one line

Events of runs and of the audit are recorded in a log, which may be opened again at any time. Its
content is then what was there at first, and behind it one line for each event, in order. No line
has a line feed but its last byte, and each is read back as its event, so nothing that a text of an
event contains can end a line, join two or feign another: `EventLog.one_line_each`.
-/

namespace ConformanceSuite

/-! ### Events of records -/

namespace LogField

/-- The optional text of a field. -/
def text? : LogField → Option (Option String)
  | .unknown => some none
  | .text s => some (some s)
  | .natural _ => none

/-- The optional number of a field. -/
def natural? : LogField → Option (Option Nat)
  | .unknown => some none
  | .natural n => some (some n)
  | .text _ => none

@[simp] theorem text?_text (s : String) : (text s).text? = some (some s) := rfl

@[simp] theorem natural?_natural (n : Nat) : (natural n).natural? = some (some n) := rfl

@[simp] theorem text?_ofText? (s : Option String) : (ofText? s).text? = some s := by
  cases s <;> rfl

@[simp] theorem natural?_ofNatural? (n : Option Nat) : (ofNatural? n).natural? = some n := by
  cases n <;> rfl

end LogField

namespace LogRecord

/-- The optional text of the field with a name. -/
def textAt? (r : LogRecord) (name : String) : Option (Option String) :=
  (r.lookup name).bind LogField.text?

/-- The optional number of the field with a name. -/
def naturalAt? (r : LogRecord) (name : String) : Option (Option Nat) :=
  (r.lookup name).bind LogField.natural?

end LogRecord

/-- The event of a record of a run, and its time. -/
def Run.Event.ofRecord? (r : LogRecord) : Option (Run.Event × Nat) := do
  let event ← (← r.textAt? "event")
  let time ← (← r.naturalAt? "timestamp_ms")
  let specification ← r.textAt? "specification"
  let testCase ← r.textAt? "test_case"
  let testId ← r.textAt? "test_id"
  let method ← r.textAt? "method"
  let endpoint ← r.textAt? "endpoint"
  let expectedStatus ← r.naturalAt? "expected_status"
  let status ← r.naturalAt? "status_code"
  let responseMillis ← r.naturalAt? "response_time_ms"
  let responseSize ← r.naturalAt? "response_size"
  let error ← r.textAt? "error"
  return (⟨event, specification, testCase, testId, method, endpoint,
    expectedStatus.map Nat.toUInt16, status.map Nat.toUInt16, responseMillis, responseSize,
    error⟩, time)

theorem Run.Event.ofRecord?_fields (e : Run.Event) (time : Nat) :
    ofRecord? (e.fields time) = some (e, time) := by
  have hcode : Nat.toUInt16 ∘ UInt16.toNat = id := funext fun _ => UInt16.ofNat_toNat
  simp [ofRecord?, fields, LogRecord.textAt?, LogRecord.naturalAt?, List.lookup_cons, hcode]

namespace Redirect

/-- The channel with a name. -/
def Channel.ofName? (name : String) : Option Channel :=
  [Channel.fragment, .query, .error].find? fun channel => channel.name == name

theorem Channel.ofName?_name (channel : Channel) : ofName? channel.name = some channel := by
  cases channel <;> decide

/-- The outcome with a name. -/
def AuditOutcome.ofName? (name : String) : Option AuditOutcome :=
  [AuditOutcome.accepted, .codeHashInvalid, .acknowledged, .rejected].find? fun outcome =>
    outcome.name == name

theorem AuditOutcome.ofName?_name (outcome : AuditOutcome) :
    ofName? outcome.name = some outcome := by
  cases outcome <;> decide

/-- The event of a record of the audit, and its time. -/
def AuditEvent.ofRecord? (r : LogRecord) : Option (AuditEvent × Nat) := do
  let event ← (← r.textAt? "event")
  let time ← (← r.naturalAt? "timestamp_ms")
  let channel ← Channel.ofName? (← (← r.textAt? "channel"))
  let outcome ← AuditOutcome.ofName? (← (← r.textAt? "outcome"))
  let state ← r.textAt? "state"
  let oauthError ← r.textAt? "oauth_error"
  let errorKind ← r.textAt? "error_kind"
  if event = AuditEvent.eventName then some (⟨channel, outcome, state, oauthError, errorKind⟩, time)
  else none

theorem AuditEvent.ofRecord?_fields (e : AuditEvent) (time : Nat) :
    ofRecord? (e.fields time) = some (e, time) := by
  simp [ofRecord?, fields, LogRecord.textAt?, LogRecord.naturalAt?, List.lookup_cons,
    Channel.ofName?_name, AuditOutcome.ofName?_name]

end Redirect

/-- What is recorded in a log: an event of a run or of the audit, with its time. -/
inductive LogEntry where
  | run (event : Run.Event) (time : Nat)
  | redirect (event : Redirect.AuditEvent) (time : Nat)
  deriving DecidableEq

namespace LogEntry

/-- The record of an entry. -/
def record : LogEntry → LogRecord
  | .run event time => event.fields time
  | .redirect event time => event.fields time

/-- The entry of a record. Only the audit has channels. -/
def ofRecord? (r : LogRecord) : Option LogEntry :=
  if (r.lookup "channel").isSome then
    (Redirect.AuditEvent.ofRecord? r).map fun (event, time) => .redirect event time
  else (Run.Event.ofRecord? r).map fun (event, time) => .run event time

/-- The bytes of an entry, without the end of its line. -/
def text (e : LogEntry) : List UInt8 := Json.bytesOf e.record.text

/-- The entry of a line. -/
def ofText? (text : List UInt8) : Option LogEntry := (LogRecord.ofText? text).bind ofRecord?

theorem ofRecord?_record (e : LogEntry) : ofRecord? e.record = some e := by
  cases e with
  | run event time =>
    rw [ofRecord?, if_neg (by simp [record, Run.Event.fields, List.lookup_cons]), record,
      Run.Event.ofRecord?_fields]
    rfl
  | redirect event time =>
    rw [ofRecord?, if_pos (by simp [record, Redirect.AuditEvent.fields, List.lookup_cons]), record,
      Redirect.AuditEvent.ofRecord?_fields]
    rfl

theorem ofText?_text (e : LogEntry) : ofText? e.text = some e := by
  rw [ofText?, text, LogRecord.ofText?_text, Option.bind_some, ofRecord?_record]

theorem lineFeed_notMem_text (e : LogEntry) : EventLog.lineFeed ∉ e.text :=
  e.record.lineFeed_notMem_text

theorem nodup_names (e : LogEntry) : (e.record.map Prod.fst).Nodup := by
  cases e <;> simp [record, Run.Event.fields, Redirect.AuditEvent.fields]

/-- Entries whose numbers are of 64 bits also parse as JSON values. -/
theorem parse_text (e : LogEntry) (h : ∀ field ∈ e.record, field.2.Small) :
    Json.parse e.text = .ok e.record.toJson :=
  LogRecord.parse_text e.nodup_names h

end LogEntry

namespace EventLog

/-! ### Lines -/

/-- The lines of a content that have their end. -/
def completeLines (content : List UInt8) : List (List UInt8) :=
  (Text.splitAll lineFeed content).dropLast

/-- A content whose last line has its end. -/
def Finished (content : List UInt8) : Prop := ∀ b ∈ content.getLast?, b = lineFeed

theorem Finished.eq_concat {content : List UInt8} (h : Finished content) (hne : content ≠ []) :
    ∃ front, content = front ++ [lineFeed] := by
  obtain ⟨front, b, rfl⟩ := List.eq_nil_or_concat content |>.resolve_left hne
  have hb : b = lineFeed := h b (by simp)
  exact ⟨front, by rw [hb, List.concat_eq_append]⟩

theorem completeLines_concat (front rest : List UInt8) :
    completeLines (front ++ lineFeed :: rest) =
      Text.splitAll lineFeed front ++ completeLines rest := by
  rw [completeLines, Text.splitAll_append_cons,
    List.dropLast_append_of_ne_nil (Text.splitAll_ne_nil lineFeed rest), completeLines]

/-- Behind a content whose last line has its end, other lines stand on their own. -/
theorem completeLines_append {content : List UInt8} (h : Finished content) (more : List UInt8) :
    completeLines (content ++ more) = completeLines content ++ completeLines more := by
  by_cases hne : content = []
  · subst hne
    rfl
  · obtain ⟨front, rfl⟩ := h.eq_concat hne
    have hnothing : completeLines [] = [] := rfl
    rw [List.append_assoc, List.singleton_append, completeLines_concat, completeLines_concat,
      hnothing, List.append_nil]

theorem completeLines_lines {texts : List (List UInt8)} (h : ∀ text ∈ texts, lineFeed ∉ text) :
    completeLines (texts.flatMap (· ++ [lineFeed])) = texts := by
  induction texts with
  | nil => rfl
  | cons text rest ih =>
    obtain ⟨htext, hrest⟩ := List.forall_mem_cons.1 h
    rw [List.flatMap_cons, List.append_assoc, List.singleton_append, completeLines_concat,
      Text.splitAll_of_notMem htext, ih hrest, List.singleton_append]

theorem Finished.append_lines {content : List UInt8} (h : Finished content)
    (texts : List (List UInt8)) : Finished (content ++ texts.flatMap (· ++ [lineFeed])) := by
  rcases List.eq_nil_or_concat texts with rfl | ⟨front, text, rfl⟩
  · simpa using h
  · intro b hb
    simpa [List.flatMap_append, ← List.append_assoc] using hb.symm

/-! ### Steps -/

/-- What happens to a log: it is opened once more, or an entry is recorded through any of its
openings. -/
inductive Step where
  | reopen
  | record (entry : LogEntry)

/-- The file tree after a step on the log at a path. -/
def Step.perform (path : String) (files : FileTree) : Step → Except FileError FileTree
  | .reopen => openAt files path
  | .record entry => .ok (EventLog.record path entry.record files)

/-- The entry that a step records. -/
def Step.recorded? : Step → Option LogEntry
  | .reopen => none
  | .record entry => some entry

/-- A step on a log that can be read succeeds, and adds the line of its entry if it has one. -/
theorem Step.perform_of_read {path : String} {files : FileTree} {content : List UInt8}
    (h : files.read path = .ok content) (step : Step) :
    ∃ later, step.perform path files = .ok later ∧
      later.read path = .ok (content ++ lines (step.recorded?.toList.map LogEntry.record)) := by
  have happend : ∀ more later, files.append path more = .ok later →
      later.read path = .ok (content ++ more) := by
    intro more later hlater
    rw [FileTree.read_of_append hlater, h]
    rfl
  cases step with
  | reopen =>
    obtain ⟨later, hlater⟩ := FileTree.exists_append_of_read h []
    exact ⟨later, hlater, happend [] later hlater⟩
  | record entry =>
    obtain ⟨later, hlater⟩ := FileTree.exists_append_of_read h (line entry.record)
    refine ⟨later, by rw [perform, EventLog.record, hlater]; rfl, ?_⟩
    simpa [recorded?, lines] using happend _ later hlater

/-- A run of steps on a log that can be read succeeds, and adds the lines of its entries. -/
theorem perform_of_read {path : String} {files : FileTree} {content : List UInt8}
    (h : files.read path = .ok content) (steps : List Step) :
    ∃ later, steps.foldlM (Step.perform path) files = .ok later ∧
      later.read path =
        .ok (content ++ lines ((steps.filterMap Step.recorded?).map LogEntry.record)) := by
  induction steps generalizing files content with
  | nil => exact ⟨files, rfl, by simpa [lines] using h⟩
  | cons step rest ih =>
    obtain ⟨middle, hstep, hmiddle⟩ := step.perform_of_read h
    obtain ⟨later, hrest, hlater⟩ := ih hmiddle
    refine ⟨later, by rw [List.foldlM_cons, hstep]; exact hrest, ?_⟩
    rw [hlater]
    cases hrecorded : step.recorded? <;> simp [hrecorded, lines]

/-- What a log holds once entries have been recorded behind its earlier content. -/
structure OneLineEach (earlier content : List UInt8) (entries : List LogEntry) : Prop where
  /-- The earlier bytes come first, and then the line of each entry, in order. -/
  appended : content = earlier ++ entries.flatMap fun e => e.text ++ [lineFeed]
  /-- Within its line an entry has no line feed. -/
  single : ∀ e ∈ entries, lineFeed ∉ e.text
  /-- The line of an entry is read back as the entry. -/
  decoded : ∀ e ∈ entries, LogEntry.ofText? e.text = some e
  /-- It is the text of a JSON object with its fields, where all numbers are of 64 bits. -/
  parsed : ∀ e ∈ entries, (∀ field ∈ e.record, field.2.Small) →
    Json.parse e.text = .ok e.record.toJson
  /-- If the earlier lines had their ends, the lines of the entries are all that was added. -/
  separate : Finished earlier →
    completeLines content = completeLines earlier ++ entries.map LogEntry.text
  /-- And then all lines have their ends. -/
  finished : Finished earlier → Finished content

/-- One event, one line: whatever is recorded in a log that could be opened, and however often it is
opened again, everything is written, one line for each event, behind what the file held before. -/
theorem one_line_each {files opened : FileTree} {path : String}
    (hopen : openAt files path = .ok opened) (steps : List Step) :
    ∃ later content, steps.foldlM (Step.perform path) opened = .ok later ∧
      later.read path = .ok content ∧
      OneLineEach ((files.read path).toOption.getD []) content
        (steps.filterMap Step.recorded?) := by
  have hread := FileTree.read_of_append hopen
  rw [List.append_nil] at hread
  obtain ⟨later, hsteps, hlater⟩ := perform_of_read hread steps
  generalize (files.read path).toOption.getD [] = earlier at hlater ⊢
  generalize steps.filterMap Step.recorded? = entries at hlater ⊢
  have hlines : lines (entries.map LogEntry.record) =
      (entries.map LogEntry.text).flatMap (· ++ [lineFeed]) := by
    rw [lines, List.flatMap_map, List.flatMap_map]
    rfl
  have hsingle : ∀ text ∈ entries.map LogEntry.text, lineFeed ∉ text := by
    intro text htext
    obtain ⟨e, -, rfl⟩ := List.mem_map.1 htext
    exact e.lineFeed_notMem_text
  rw [hlines] at hlater
  refine ⟨later, _, hsteps, hlater, ?_⟩
  exact {
    appended := by rw [List.flatMap_map]
    single := fun e _ => e.lineFeed_notMem_text
    decoded := fun e _ => e.ofText?_text
    parsed := fun e _ => e.parse_text
    separate := fun hearlier => by
      rw [completeLines_append hearlier, completeLines_lines hsingle]
    finished := fun hearlier => hearlier.append_lines _ }

/-- A state that ends a line and begins an event of its own adds one line, and is read back. -/
theorem one_line_each_of_forged_state :
    let files : FileTree := ⟨.ofList [("/audit.log", .file [0x7b, 0x7d, 0x0a])], []⟩
    let forged : Redirect.AuditEvent :=
      ⟨.query, .rejected, some "s\"\x7d\n\x7b\"event\":\"redirect_received\"\x7d\n", none, none⟩
    let entries := [.redirect forged 1, LogEntry.run (.named "certificates_rejected") UInt64.size]
    ∃ opened later content, openAt files "/audit.log" = .ok opened ∧
      (Step.reopen :: entries.map .record).foldlM (Step.perform "/audit.log") opened = .ok later ∧
      later.read "/audit.log" = .ok content ∧
      completeLines content = [0x7b, 0x7d] :: entries.map LogEntry.text ∧
      (entries.map LogEntry.text).map LogEntry.ofText? = entries.map some := by
  intro files forged entries
  have hlocate : files.locate "/audit.log" = .ok ["audit.log"] := by
    have hfault : FileTree.pathFault? "/audit.log" = none := by
      have hlength : "/audit.log".utf8ByteSize < 4096 := by decide
      simp [FileTree.pathFault?, hlength]
    rw [FileTree.locate, hfault]
    rfl
  have hread : files.read "/audit.log" = .ok [0x7b, 0x7d, 0x0a] :=
    FileTree.read_of_locate hlocate rfl
  obtain ⟨opened, hopen⟩ := FileTree.exists_append_of_read hread []
  obtain ⟨later, content, hsteps, hcontent, h⟩ :=
    one_line_each hopen (Step.reopen :: entries.map .record)
  rw [hread] at h
  have hfinished : Finished [0x7b, 0x7d, 0x0a] := by simp [Finished, lineFeed]
  refine ⟨opened, later, content, hopen, hsteps, hcontent, h.separate hfinished, ?_⟩
  rw [List.map_map]
  exact List.map_congr_left h.decoded

end EventLog

end ConformanceSuite
