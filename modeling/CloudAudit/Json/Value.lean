/-! JSON values. Members keep the order of the text, repeated keys included. -/
namespace CloudAudit

inductive Json where
  | null
  | bool (value : Bool)
  /-- A number as it is written. -/
  | number (text : String)
  | string (text : String)
  | array (items : List Json)
  | object (members : List (String × Json))
deriving Repr

end CloudAudit
