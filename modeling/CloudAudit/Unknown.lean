/-! What cannot be told is recorded as unknown. -/
namespace CloudAudit

def unknownText : String := "unknown"

end CloudAudit
