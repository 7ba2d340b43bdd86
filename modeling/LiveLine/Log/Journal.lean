import LiveLine.Log
import LiveLine.Runner
import LiveLine.Session

/-!
# What is logged

The records for what happens to sessions, in the runner, to the settings and to the script file.
-/

namespace LiveLine

open Log (record optional flag quoted)

def Annotation.Kind.name : Annotation.Kind → Text
  | .output => "output".toList
  | .error => "error".toList
  | .clear => "none".toList

namespace Log

/-! ## Sessions -/

/-- The record of a run that was judged. -/
def verdict (note : Annotation) (fallback : Nat) : Record :=
  match note.kind with
  | .error => record .debug "live.reconcile" "error"
      [("line", Text.ofNat note.line), ("fallback_line", Text.ofNat fallback)]
  | _ => record .debug "live.reconcile" "output" [("line", Text.ofNat note.line)]

/-- The record of a happening, unless it leaves none. -/
def happening? (editor : EditorId) (h : Happening) : Option Record :=
  let named (level : Level) (target message : String) (fields : List (String × Text)) :
      Option Record :=
    some (record level target message (("editor", editor.name) :: fields))
  match h with
  | .opened => named .debug "live.host" "editor_opened" []
  | .superseded => some (record .trace "live.trigger" "pending_trigger_superseded" [])
  | .cancelled _ => named .debug "live.session" "in_flight_run_cancelled" []
  | .rejected line => named .trace "live.classify" "line_rejected" [("line", Text.ofNat line)]
  | .started _ r => named .debug "live.session" "run_started"
      [("line", Text.ofNat r.targetLine), ("snippet_bytes", Text.ofNat r.source.byteLength)]
  | .judged v fallback => some (verdict v.note fallback)
  | .called (.apply id d) => named .trace "live.present" "decoration_applied"
      [("id", Text.ofNat id), ("line", Text.ofNat d.line)]
  | .called (.remove id) => named .trace "live.present" "decoration_removed" [("id", Text.ofNat id)]
  | .shown note decorations => named .trace "live.present" "annotation_applied"
      [("kind", quoted note.kind.name), ("line", Text.ofNat note.line),
        ("decorations", Text.ofNat decorations)]
  | .dropped note lineCount => named .debug "live.present" "annotation_dropped_invalid_line"
      [("kind", quoted note.kind.name), ("line", Text.ofNat note.line),
        ("line_count", Text.ofNat lineCount)]
  | .presented note shown stale => named .debug "live.session" "run_presented"
      [("kind", quoted note.kind.name), ("line", Text.ofNat note.line), ("shown", flag shown),
        ("stale", flag stale)]
  | .disposed => named .debug "live.session" "session_disposed" []
  | .scheduled | .fired | .finished .. | .aborted _ | .called (.alert _) => none

/-- The records of entries; the script is read again as soon as a run was judged. -/
def entries (reading : Record) (es : List Entry) : List Record :=
  es.flatMap fun e =>
    (happening? e.editor e.event).toList ++ (if e.event matches .judged .. then [reading] else [])

/-! ## The runner -/

/-- The kind of an error, as it is logged. -/
def errorKind : FileError → Text
  | .notFound => "NotFound".toList
  | .execFormat | .noChild => "Uncategorized".toList
  | .permissionDenied => "PermissionDenied".toList
  | .alreadyExists => "AlreadyExists".toList
  | .notADirectory => "NotADirectory".toList
  | .isADirectory => "IsADirectory".toList
  | .nameTooLong => "InvalidFilename".toList
  | .notEmpty => "DirectoryNotEmpty".toList
  | .tooManyLinks => "FilesystemLoop".toList
  | .zeroByte | .zeroByteInCommand => "InvalidInput".toList

/-- An error in full. -/
def fileError (e : FileError) : Text :=
  match e.code? with
  | some code => "Os \x7b code: ".toList ++ Text.ofNat code ++ ", kind: ".toList ++ errorKind e ++
      ", message: ".toList ++ quoted e.description ++ " \x7d".toList
  | none => "Error \x7b kind: ".toList ++ errorKind e ++ ", message: ".toList ++
      quoted e.description ++ " \x7d".toList

def mark (pid : Nat) : RunMark → Record
  | .writeFailed path => record .debug "live.runner" "scratch_write_failed"
      [("kind", quoted "write".toList), ("path", path)]
  | .spawned => record .debug "live.runner" "interpreter_spawned" [("pid", optional (some pid))]
  | .completed line code stdoutLength stderrLength elapsed =>
    record .info "live.runner" "run_complete"
      [("line", Text.ofNat line), ("code", optional code), ("stdout_len", Text.ofNat stdoutLength),
        ("stderr_len", Text.ofNat stderrLength), ("elapsed_ms", Text.ofNat elapsed)]
  | .failed line error elapsed => record .info "live.runner" "run_failed"
      [("line", Text.ofNat line), ("kind", quoted error.name), ("elapsed_ms", Text.ofNat elapsed)]
  | .removeFailed e => record .debug "live.runner" "scratch_remove_failed" [("e", fileError e)]

/-! ## Files and settings -/

/-- The record of reading a script. -/
def reading (path : Path) (content : Except FileError Bytes) : Record :=
  match content with
  | .ok bytes =>
    if (Utf8.decode? bytes).isSome then
      record .trace "io" "file_read_ok"
        [("file", path), ("size_bytes", Text.ofNat bytes.length)]
    else record .warn "io" "file_read_error" [("file", path),
      ("e", "Error \x7b kind: InvalidData, message: ".toList ++
        quoted "stream did not contain valid UTF-8".toList ++ " \x7d".toList)]
  | .error e => record .warn "io" "file_read_error" [("file", path), ("e", fileError e)]

def illFormed (path : Path) : Record :=
  record .warn "config" "config_parse_failed" [("path", path)]

/-- The record of the settings in force. -/
def settings (c : Configuration) (interpreter : Path) : Record :=
  let s := c.settings
  record .info "config" "live_config_effective"
    [("interpreter", interpreter), ("debounce_ms", Text.ofNat s.debounceDelay),
      ("run_timeout_ms", Text.ofNat s.runTimeout), ("on_supersede", quoted s.onSupersede.name),
      ("output_color", quoted s.outputColor), ("error_color", quoted s.errorColor),
      ("from_file", flag c.raw.isSome)]

/-! ## Telemetry -/

def telemetry (t : Telemetry) (channelFailures : Nat) : Record :=
  record .info "runtime.shutdown" "telemetry"
    [("triggers_scheduled", Text.ofNat t.scheduled),
      ("triggers_superseded", Text.ofNat t.superseded), ("triggers_fired", Text.ofNat t.fired),
      ("runs_started", Text.ofNat t.started), ("runs_cancelled", Text.ofNat t.cancelled),
      ("annotations_dropped", Text.ofNat t.dropped),
      ("channel_send_failures", Text.ofNat channelFailures)]

end Log

end LiveLine
