import CollectorGateway.Device.Json
import CollectorGateway.Json.Parser
import CollectorGateway.Text.Record

/-!
What the presentation side asks of the gateway. As JSON a request is an object
with the name of the request and, for most, an object with its data; or the
array of the two. The members may come in any order. Data that comes before
the name is kept until the name is known, and only trees of limited depth can
be kept.
-/

namespace CollectorGateway

inductive PermitAction where
  | opening
  | closing
  deriving DecidableEq, Repr

namespace PermitAction

def duration : PermitAction → UInt32
  | opening => 0xFFFFFFFF
  | closing => 0

def label : PermitAction → String
  | opening => "open"
  | closing => "close"

def describe : PermitAction → String
  | opening => "Open"
  | closing => "Close"

def choices : List (String × PermitAction) := [opening, closing].map fun a => (a.label, a)

/-- In data that was kept, the content of a choice may also be an empty
object. -/
def ofJson? (kept : Bool) : Json → Option PermitAction
  | .object [(key, .object [])] =>
    if kept then do choices.lookup (String.ofList (← TextUnit.text? key)) else none
  | j => j.pick? choices

end PermitAction

inductive Request where
  | getNetworkInfo
  | getDeviceArray
  | setPermitJoin (action : PermitAction)
  | sendToggle (target : Option Address)
  | sendConfig (target : Option Address) (polling reporting fields : UInt16)
  deriving DecidableEq, Repr

namespace Address

def describe : Address → String
  | short a => Record.tagged "Short" (toString a.toNat)
  | extended a => Record.tagged "Extended" (toString a.toNat)

end Address

namespace Request

open Json (ofNat record required optional)

def describe : Request → String
  | getNetworkInfo => "GetNetworkInfo"
  | getDeviceArray => "GetDeviceArray"
  | setPermitJoin action => Record.text "SetPermitJoin" [("action", action.describe)]
  | sendToggle target =>
    Record.text "SendToggle" [("target_address", Record.option (target.map Address.describe))]
  | sendConfig target polling reporting fields =>
    Record.text "SendConfig"
      [("target_address", Record.option (target.map Address.describe)),
        ("polling_interval", toString polling.toNat),
        ("reporting_interval", toString reporting.toNat),
        ("frame_control", toString fields.toNat)]

def toJson : Request → Json
  | getNetworkInfo => record [("request", .ofText "getNetworkInfo")]
  | getDeviceArray => record [("request", .ofText "getDeviceArray")]
  | setPermitJoin action =>
    record [("request", .ofText "setPermitJoin"),
      ("data", record [("action", .ofText action.label)])]
  | sendToggle target =>
    record [("request", .ofText "sendToggle"),
      ("data", record [("targetAddress", .ofOption Address.toJson target)])]
  | sendConfig target polling reporting fields =>
    record [("request", .ofText "sendConfig"),
      ("data", record [("targetAddress", .ofOption Address.toJson target),
        ("pollingInterval", ofNat polling.toNat), ("reportingInterval", ofNat reporting.toNat),
        ("frameControl", ofNat fields.toNat)])]

def ofData? (kept : Bool) (name : String) (data : Option Json) : Option Request :=
  match name, data with
  | "getNetworkInfo", none | "getNetworkInfo", some .null => some getNetworkInfo
  | "getDeviceArray", none | "getDeviceArray", some .null => some getDeviceArray
  | "setPermitJoin", some data => do
    let fs ← data.fields? ["action"]
    return setPermitJoin (← required fs "action" (PermitAction.ofJson? kept))
  | "sendToggle", some data => do
    let fs ← data.fields? ["targetAddress"]
    return sendToggle (← optional fs "targetAddress" Address.ofJson?)
  | "sendConfig", some data => do
    let fs ← data.fields?
      ["targetAddress", "pollingInterval", "reportingInterval", "frameControl"]
    return sendConfig (← optional fs "targetAddress" Address.ofJson?)
      (← required fs "pollingInterval" Json.u16?) (← required fs "reportingInterval" Json.u16?)
      (← required fs "frameControl" Json.u16?)
  | _, _ => none

def name? (j : Json) : Option String :=
  match j.choice? with
  | some (name, none) | some (name, some .null) => some name
  | _ => none

def keptDepth : Nat := 126

def ofJson? : Json → Option Request
  | .array [name, data] => do ofData? false (← name.text?) (some data)
  | j => do
    let fs ← j.fields? ["request", "data"]
    let name ← required fs "request" name?
    match fs with
    | ("data", data) :: _ =>
      if data.isKeepable keptDepth then ofData? true name (some data) else none
    | _ => ofData? false name (fs.lookup "data")

def ofText? (cs : List Char) : Option Request := do ofJson? (← Json.parse? cs)

end Request

end CollectorGateway
