/-
Structured logging to stdout: one JSON object a line, whatever the messages
hold.
-/
import TeslamateWatchdog.Foundation.JsonRoundTrip

namespace TeslamateWatchdog

open Foundation

/-- What the formatter reads of a `logging.LogRecord`.  The attributes are the
entries of its `__dict__` that are JSON with texts for keys, in order, with
whatever `extra=` added.  Of such values `default=str` replaces none. -/
structure LogRecord where
  created : String
  levelname : String
  name : String
  message : String
  attributes : List (String × Json)
  exception : Option String
  attributes_distinct : ∀ entry ∈ attributes, entry.2.Distinct

/-- `_RESERVED`: the attributes every record has. -/
def reservedAttributes : List String :=
  ["name", "msg", "args", "levelname", "levelno", "pathname", "filename",
    "module", "exc_info", "exc_text", "stack_info", "lineno", "funcName",
    "created", "msecs", "relativeCreated", "thread", "threadName",
    "processName", "process", "taskName"]

namespace LogRecord

/-- `record.context`, where it is a dictionary. -/
def context (record : LogRecord) : Option Json :=
  match record.attributes.lookup "context" with
  | some (.obj members) => some (.obj members)
  | _ => none

/-- Anything else attached via `extra=`. -/
def extras (record : LogRecord) : List (String × Json) :=
  record.attributes.filter fun entry =>
    entry.1 ∉ reservedAttributes ∧
      entry.1 ∉ ["context", "message", "asctime"]

/-- The four keys every line begins with. -/
def heading (record : LogRecord) : List (String × Json) :=
  [("ts", .str record.created), ("level", .str record.levelname),
    ("logger", .str record.name), ("msg", .str record.message)]

/-- The dictionary that `format` puts together. -/
def payload (record : LogRecord) : Json :=
  .obj (Dict.ofMembers (record.heading ++
    (record.context.map fun context => ("context", context)).toList ++
    record.extras ++
    (record.exception.map fun text => ("exception", Json.str text)).toList))

/-- `JsonFormatter.format`. -/
def format (floats : Json.FloatRepr) (record : LogRecord) : String :=
  Json.dumpsCompact floats record.payload

end LogRecord

/-- What the stream handler writes for the records. -/
def logStream (floats : Json.FloatRepr) (records : List LogRecord) :
    List Char :=
  records.flatMap fun record => (record.format floats).toList ++ ['\n']

section Lines

variable {record : LogRecord} {records : List LogRecord}

theorem distinct_context {context : Json}
    (hcontext : record.context = some context) : context.Distinct := by
  unfold LogRecord.context at hcontext
  split at hcontext
  · rename_i members hlookup
    cases hcontext
    obtain ⟨key, hmem⟩ : ∃ key, (key, Json.obj members) ∈ record.attributes := by
      obtain ⟨front, back, hsplit, -⟩ := List.lookup_eq_some_iff.mp hlookup
      exact ⟨"context", by rw [hsplit]; simp⟩
    exact record.attributes_distinct _ hmem
  · cases hcontext

theorem distinct_payload_line (record : LogRecord) :
    record.payload.Distinct := by
  apply Json.distinct_ofMembers
  intro member hmember
  simp only [List.mem_append, LogRecord.heading, List.mem_cons,
    List.not_mem_nil, or_false, Option.mem_toList, Option.map_eq_some_iff]
    at hmember
  rcases hmember with ((((rfl | rfl | rfl | rfl) | ⟨context, hcontext, rfl⟩) |
    hextra) | ⟨text, -, rfl⟩)
  · exact Json.distinct_str _
  · exact Json.distinct_str _
  · exact Json.distinct_str _
  · exact Json.distinct_str _
  · exact distinct_context hcontext
  · exact record.attributes_distinct member (List.mem_of_mem_filter hextra)
  · exact Json.distinct_str _

/-- An extra attribute can take the place of the other headings, but not of the
message. -/
theorem look_msg (record : LogRecord) :
    record.payload.look ["msg"] = .str record.message := by
  have hnever : ∀ members : List (String × Json),
      "msg" ∉ members.map Prod.fst → members.reverse.lookup "msg" = none := by
    intro members hmsg
    rw [Dict.lookup_eq_none_iff, List.map_reverse, List.mem_reverse]
    exact hmsg
  have hcontext : ((record.context.map fun context =>
      ("context", context)).toList).reverse.lookup "msg" = none := by
    cases record.context <;> rfl
  have hexception : ((record.exception.map fun text =>
      ("exception", Json.str text)).toList).reverse.lookup "msg" = none := by
    cases record.exception <;> rfl
  have hextras : record.extras.reverse.lookup "msg" = none := by
    apply hnever
    intro hmsg
    obtain ⟨entry, hentry, hkey⟩ := List.mem_map.mp hmsg
    have hreserved := List.of_mem_filter hentry
    rw [hkey] at hreserved
    exact absurd hreserved (by decide)
  rw [LogRecord.payload, Json.look, Dict.lookup_ofMembers, List.reverse_append,
    List.reverse_append, List.reverse_append, List.lookup_append,
    List.lookup_append, List.lookup_append, hexception, hextras, hcontext]
  rfl

theorem newline_not_mem_format (floats : Json.FloatRepr) (record : LogRecord) :
    '\n' ∉ (record.format floats).toList := by
  intro hmem
  have hprintable := Json.printable_dumpsCompact floats record.payload _ hmem
  exact absurd hprintable.1 (by decide)

theorem splitOn_logStream (floats : Json.FloatRepr) (records : List LogRecord) :
    (logStream floats records).splitOn '\n' =
      records.map (fun record => (record.format floats).toList) ++ [[]] := by
  induction records with
  | nil => rfl
  | cons record rest ih =>
      have hrest : logStream floats (record :: rest) =
          (record.format floats).toList ++ '\n' :: logStream floats rest := by
        simp [logStream]
      rw [hrest, List.splitOn_append_cons_self_of_not_mem
        (newline_not_mem_format floats record), ih]
      rfl

theorem loads_format (floats : Json.FloatText) (record : LogRecord) :
    Json.loads floats (record.format floats.toFloatRepr).toList =
      some record.payload :=
  Json.loads_dumpsCompact (distinct_payload_line record)

/-- The lines of the log are the records, in order: each reads back as its own
dictionary with its own message, and no record runs over into another line. -/
theorem logStream_reads_back (floats : Json.FloatText)
    (records : List LogRecord) :
    ((logStream floats.toFloatRepr records).splitOn '\n').dropLast.map
        (Json.loads floats) =
      records.map (fun record => some record.payload) ∧
    ∀ record ∈ records, record.payload.look ["msg"] = .str record.message := by
  constructor
  · rw [splitOn_logStream, List.dropLast_concat, List.map_map]
    simp only [Function.comp_def, loads_format]
  · exact fun record _ => look_msg record

/-- What `_on_transition` logs of a sign-out. -/
def LogRecord.stateChanged : LogRecord where
  created := "2027-01-15T08:00:00+00:00"
  levelname := "WARNING"
  name := "src.main"
  message := "state changed"
  attributes := [("name", .str "src.main"), ("msg", .str "state changed"),
    ("levelno", .int 30), ("exc_info", .null),
    ("context", .obj [("from", .str "HEALTHY"), ("to", .str "LOGGED_OUT"),
      ("reason", .str "sign-in page detected (None)")])]
  exception := none
  attributes_distinct := by
    simp [Json.distinct_obj]

theorem logStream_reads_back_stateChanged :
    ((logStream Json.wholeFloats.toFloatRepr
        [.stateChanged, .stateChanged]).splitOn '\n').dropLast.map
          (Json.loads Json.wholeFloats) =
      [some LogRecord.stateChanged.payload,
        some LogRecord.stateChanged.payload] ∧
    LogRecord.stateChanged.payload.look ["msg"] = .str "state changed" := by
  obtain ⟨hlines, hmessages⟩ := logStream_reads_back Json.wholeFloats
    [.stateChanged, .stateChanged]
  exact ⟨hlines, hmessages .stateChanged List.mem_cons_self⟩

end Lines

end TeslamateWatchdog
