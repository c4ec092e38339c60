import ClusterTick.Json.Record
import ClusterTick.Time.Instant

/-!
# Times in JSON

An instant is written as text, a span as its seconds and the nanoseconds beyond
them.
-/

namespace ClusterTick

instance : JsonForm Instant where
  toJson instant := .string instant.text
  ofJson?
    | .string text => Instant.read? text
    | _ => none

instance : JsonForm Span where
  toJson span :=
    .object [("secs", .ofNat span.seconds), ("nanos", .ofNat span.subsecond)]
  ofJson? json := do
    let fields ← Fields.read? ["secs", "nanos"] json
    let seconds : UInt64 ← fields.required "secs"
    let nanoseconds : UInt32 ← fields.required "nanos"
    return ⟨seconds.toNat * Span.perSecond + nanoseconds.toNat⟩
  shape := .ofNames ["secs", "nanos"]

end ClusterTick
