import JobControl.Event

/-!
# Events as documents
-/

namespace JobControl

open Json (required)

instance : Codec EventKind where
  encode k := .str k.label
  read := Json.named? EventKind.all EventKind.label

instance : Codec EventCategory where
  encode c := .str c.label
  read := Json.named? EventCategory.all EventCategory.label

instance : Codec Severity where
  encode s := .str s.label
  read := Json.named? Severity.all Severity.label

instance : Codec Event where
  encode e := .obj
    [("timestamp_ms", encode e.timestampMs), ("kind", encode e.kind),
      ("category", encode e.category), ("severity", encode e.severity),
      ("source", encode e.source), ("message", encode e.message), ("data", encode e.data)]
  read s j := do
    let fields ← j.object?
    return {
      timestampMs := ← required s fields "timestamp_ms"
      kind := ← required s fields "kind"
      category := ← required s fields "category"
      severity := ← required s fields "severity"
      source := ← required s fields "source"
      message := ← required s fields "message"
      data := ← required s fields "data" }

end JobControl
