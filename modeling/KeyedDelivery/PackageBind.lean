import KeyedDelivery.Json.Record
import KeyedDelivery.Json.Writer
import KeyedDelivery.Text.Utf8

/-!
# Package bindings

The event that a package was bound to a device of a user, or unbound from it, and its JSON.
-/

namespace KeyedDelivery

/-- Whether a package is attached or detached. -/
inductive BindType where
  | unbind
  | bind
  deriving DecidableEq, Repr, Inhabited

def BindType.code : BindType → Int32
  | .unbind => 0
  | .bind => 1

def BindType.ofCode (n : Int32) : Except String BindType :=
  if n = 0 then .ok .unbind
  else if n = 1 then .ok .bind
  else .error ("unknown bindType " ++ Text.integer n.toInt)

/-- A package that is bound or unbound. -/
structure PackageBind where
  appId : String
  userCode : String
  deviceCode : String
  packageId : String
  packageSource : String
  packageType : Int32
  bindType : BindType
  deriving DecidableEq, Repr, Inhabited

namespace PackageBind

/-- The key of a binding: the user's code and the package's identifier. -/
def partitionKey (b : PackageBind) : String := b.userCode ++ b.packageId

/-- A binding of which some fields were read. -/
structure Draft where
  appId : Option String := none
  userCode : Option String := none
  deviceCode : Option String := none
  packageId : Option String := none
  packageSource : Option String := none
  packageType : Option Int32 := none
  bindType : Option BindType := none

/-- How a binding is written as a record. -/
def format : Json.Format Draft PackageBind where
  title := "PackageBindOp"
  fields := [
    .of "appId" Json.string (·.appId) fun v d => { d with appId := some v },
    .of "userCode" Json.string (·.userCode) fun v d => { d with userCode := some v },
    .of "deviceCode" Json.string (·.deviceCode) fun v d => { d with deviceCode := some v },
    .of "packageId" Json.string (·.packageId) fun v d => { d with packageId := some v },
    .of "packageSource" Json.string (·.packageSource) fun v d =>
      { d with packageSource := some v },
    .of "packageType" Json.int32 (·.packageType) fun v d => { d with packageType := some v },
    .of "bindType" (Json.int32.refine BindType.ofCode) (·.bindType) fun v d =>
      { d with bindType := some v }]
  blank := {}
  finish d := do
    let appId ← Json.required "appId" d.appId
    let userCode ← Json.required "userCode" d.userCode
    let deviceCode ← Json.required "deviceCode" d.deviceCode
    let packageId ← Json.required "packageId" d.packageId
    let packageSource ← Json.required "packageSource" d.packageSource
    let packageType ← Json.required "packageType" d.packageType
    let bindType ← Json.required "bindType" d.bindType
    return ⟨appId, userCode, deviceCode, packageId, packageSource, packageType, bindType⟩

def ofJson (text : String) : Except Json.Fault PackageBind := format.decode text

def toJson (b : PackageBind) : String :=
  String.ofList <| Json.writeObject [
    ("appId", Json.writeString b.appId),
    ("userCode", Json.writeString b.userCode),
    ("deviceCode", Json.writeString b.deviceCode),
    ("packageId", Json.writeString b.packageId),
    ("packageSource", Json.writeString b.packageSource),
    ("packageType", Json.writeInteger b.packageType.toInt),
    ("bindType", Json.writeInteger b.bindType.code.toInt)]

/-- The bytes of a binding's JSON. -/
def toBytes (b : PackageBind) : List UInt8 := Text.bytesOf b.toJson

end PackageBind

end KeyedDelivery
