import HardwareIndex.Resource.Fault

/-!
# Warnings

The conditions an operator is told about, each with the data that identifies it,
and the line that tells it: a message followed by `name=value` fields.
-/

namespace HardwareIndex

/-- A condition worth a warning. -/
inductive Warning where
  | macMoved (kind : RecordKind) (mac : Mac) (previous object : ObjectName)
  | uuidMoved (kind : RecordKind) (uuid : Uuid) (previous object : ObjectName)
  | listingFailed (kind : RecordKind) (error : String)
  | invalidSkipped (kind : RecordKind) (error : ValidationError)
  | invalidObject (kind : RecordKind) (error : ValidationError)
  | markingFailed (kind : RecordKind) (object : ObjectName)
  | lookupTooEarly (kind : RecordKind)
  | lookupAmbiguous (kind : RecordKind) (macs uuids : List String)

/-- The line that tells a warning. -/
def Warning.text : Warning → String
  | .macMoved kind mac previous object =>
    s!"MAC moved to another record kind={kind} mac={mac} previous={previous} object={object}"
  | .uuidMoved kind uuid previous object =>
    s!"UUID moved to another record kind={kind} uuid={uuid} previous={previous} object={object}"
  | .listingFailed kind error =>
    s!"listing backing store failed kind={kind} error={error}"
  | .invalidSkipped kind error =>
    s!"skipping invalid object kind={kind} object={error.object} reason={error.reason}"
  | .invalidObject kind error =>
    s!"invalid object kind={kind} object={error.object} reason={error.reason}"
  | .markingFailed kind object =>
    s!"failed to mark object invalid kind={kind} object={object}"
  | .lookupTooEarly kind =>
    s!"lookup before index is ready kind={kind}"
  | .lookupAmbiguous kind macs uuids =>
    s!"lookup matches several records kind={kind} macs={Text.quoteList macs} uuids={Text.quoteList uuids}"

end HardwareIndex
