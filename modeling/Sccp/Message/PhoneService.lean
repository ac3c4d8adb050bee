/-
  Sccp.Message.PhoneService

  Payloads that phones send back from service applications.

  A payload is structured XML, or in data envelopes a submission: a route of percent-encoded
  components and then form values.  White space before it and white space or NUL after it are
  padding of the transport.
-/

import Sccp.Lib.Utf8
import Sccp.Message.ConferenceList

namespace Sccp.PhoneService

open Sccp.Config (split)
open Sccp.Features (isControl)
open Sccp.ConferenceList (PhoneXmlError)

def MAX_PHONE_SERVICE_DATA_BYTES : Nat := 2000
def MAX_PHONE_SERVICE_RESPONSE_ITEMS : Nat := 3
def MAX_PHONE_SERVICE_ROUTE_SEGMENTS : Nat := 32
def MAX_PHONE_SERVICE_ROUTE_COMPONENT_BYTES : Nat := 1024
def MAX_PHONE_SERVICE_SUBMITTED_VALUES : Nat := 32
def MAX_PHONE_SERVICE_PARAMETER_NAME_BYTES : Nat := 128
def MAX_PHONE_SERVICE_PARAMETER_VALUE_BYTES : Nat := 1024
def MAX_PHONE_SERVICE_RESPONSE_DATA_CHARS : Nat := 256
def MAX_PHONE_SERVICE_RESPONSE_URL_CHARS : Nat := 256
def MAX_PHONE_SERVICE_ERROR_MESSAGE_CHARS : Nat := 256

/-! ## Payloads -/

/-- Envelope direction used to choose the permitted payload grammar. -/
inductive PhoneServiceMessageKind where
  | data
  | response
  deriving DecidableEq

structure CiscoIpPhoneResponseItem where
  status : UInt32
  data : String
  url : String
  deriving DecidableEq

structure CiscoIpPhoneError where
  number : UInt32
  message : String
  deriving DecidableEq

structure PhoneServiceSubmittedValue where
  name : String
  value : String
  deriving DecidableEq

/-- Percent-decoded interactive callback submitted by a phone application. -/
structure PhoneServiceSubmission where
  route : List String
  values : List PhoneServiceSubmittedValue
  deriving DecidableEq

inductive PhoneServicePayload where
  | executeResponse (items : List CiscoIpPhoneResponseItem)
  | error (error : CiscoIpPhoneError)
  | submission (submission : PhoneServiceSubmission)
  | opaqueBytes (data : List UInt8)
  deriving DecidableEq

inductive PhoneServiceError where
  | xml (error : PhoneXmlError)
  | invalidUtf8
  | invalidPercentEncoding
  | controlCharacter
  | tooManyRouteSegments (actual maximum : Nat)
  | tooManyValues (actual maximum : Nat)
  | emptyParameterName
  | emptyRouteComponent
  | componentTooLong (kind : String) (actual maximum : Nat)
  deriving DecidableEq

inductive PhoneServiceXmlSchema where
  | response (items : List CiscoIpPhoneResponseItem)
  | error (error : CiscoIpPhoneError)
  | unknown
  deriving DecidableEq

/-- What other packages do: reading a document of the schema, percent decoding, which leaves
    bytes alone that have no percent sign, and splitting a query into its decoded fields. -/
structure Packages where
  fromBytes : List UInt8 → Nat → Except PhoneXmlError PhoneServiceXmlSchema
  percentDecode : List UInt8 → List UInt8
  formUrlencoded : List UInt8 → List (String × String)
  percentDecode_plain : ∀ bytes, 0x25 ∉ bytes → percentDecode bytes = bytes

/-! ## Structured payloads -/

def validateResponseText (field value : String) (maximum : Nat) : Except PhoneXmlError Unit :=
  if value.length > maximum then
    .error (.invalidField field "within the documented phone-service text bound")
  else .ok ()

def validateResponse (items : List CiscoIpPhoneResponseItem) : Except PhoneXmlError Unit := do
  if items.length > MAX_PHONE_SERVICE_RESPONSE_ITEMS then
    throw (.limitExceeded "phone-service response items" items.length
      MAX_PHONE_SERVICE_RESPONSE_ITEMS)
  items.forM fun item => do
    validateResponseText "phone-service response data" item.data
      MAX_PHONE_SERVICE_RESPONSE_DATA_CHARS
    validateResponseText "phone-service response URL" item.url MAX_PHONE_SERVICE_RESPONSE_URL_CHARS

def CiscoIpPhoneError.validate (error : CiscoIpPhoneError) : Except PhoneXmlError Unit :=
  validateResponseText "phone-service error message" error.message
    MAX_PHONE_SERVICE_ERROR_MESSAGE_CHARS

/-! ## Submissions -/

/-- Every percent sign starts a pair of hexadecimal digits. -/
def percentsPaired : List UInt8 → Bool
  | [] => true
  | b :: rest =>
    if b = 0x25 then
      match rest with
      | first :: second :: rest =>
        (Char.ofUInt8 first).isHexDigit && (Char.ofUInt8 second).isHexDigit && percentsPaired rest
      | _ => false
    else percentsPaired rest

def validateEncodedComponent (encoded : String) : Except PhoneServiceError Unit :=
  if percentsPaired (utf8 encoded) then .ok () else .error .invalidPercentEncoding

def validateComponentLength (kind component : String) (maximum : Nat) :
    Except PhoneServiceError Unit :=
  if component.utf8ByteSize > maximum then
    .error (.componentTooLong kind component.utf8ByteSize maximum)
  else .ok ()

def rejectDecodedControls (component : String) : Except PhoneServiceError Unit :=
  if component.toList.any isControl then .error .controlCharacter else .ok ()

section

variable (p : Packages)

def decodeUtf8 (encoded : String) : Except PhoneServiceError String :=
  match ofUtf8? (p.percentDecode (utf8 encoded)) with
  | some decoded => .ok decoded
  | none => .error .invalidUtf8

def decodeComponent (kind : String) (maximum : Nat) (encoded : String) :
    Except PhoneServiceError String := do
  if encoded = "" then throw .emptyRouteComponent
  validateEncodedComponent encoded
  let decoded ← decodeUtf8 p encoded
  validateComponentLength kind decoded maximum
  rejectDecodedControls decoded
  return decoded

/-- `str::split_once`. -/
def splitOnce (separator : Char) (text : String) : Option (String × String) :=
  if separator ∈ text.toList then
    some (String.ofList (text.toList.takeWhile (· ≠ separator)),
      String.ofList ((text.toList.dropWhile (· ≠ separator)).drop 1))
  else none

def parseFormValues (query : String) :
    Except PhoneServiceError (List PhoneServiceSubmittedValue) := do
  if query = "" then return []
  (split query '&').forM fun field => do
    if field = "" then throw .emptyParameterName
    let (name, value) := (splitOnce '=' field).getD (field, "")
    validateEncodedComponent name
    validateEncodedComponent value
    let _ ← decodeUtf8 p name
    let _ ← decodeUtf8 p value
  let values ← (p.formUrlencoded (utf8 query)).mapM fun (name, value) => do
    if name = "" then throw .emptyParameterName
    validateComponentLength "parameter name" name MAX_PHONE_SERVICE_PARAMETER_NAME_BYTES
    validateComponentLength "parameter value" value MAX_PHONE_SERVICE_PARAMETER_VALUE_BYTES
    rejectDecodedControls name
    rejectDecodedControls value
    return ⟨name, value⟩
  if values.length > MAX_PHONE_SERVICE_SUBMITTED_VALUES then
    throw (.tooManyValues values.length MAX_PHONE_SERVICE_SUBMITTED_VALUES)
  return values

def parseSubmission (text : String) : Except PhoneServiceError PhoneServiceSubmission := do
  if text.toList.any isControl || text.toList.contains '#' then throw .controlCharacter
  let (route, query) := match splitOnce '?' text with
    | some (route, query) => (route, some query)
    | none => (text, none)
  let route ← if route = "" then pure [] else
    (split route '/').mapM
      (decodeComponent p "route component" MAX_PHONE_SERVICE_ROUTE_COMPONENT_BYTES)
  if route.length > MAX_PHONE_SERVICE_ROUTE_SEGMENTS then
    throw (.tooManyRouteSegments route.length MAX_PHONE_SERVICE_ROUTE_SEGMENTS)
  let values ← match query with
    | some query => parseFormValues p query
    | none => pure []
  return ⟨route, values⟩

/-- `u8::is_ascii_whitespace`. -/
def isAsciiWhitespace (b : UInt8) : Bool :=
  b = 0x20 || b = 0x09 || b = 0x0a || b = 0x0c || b = 0x0d

def trimProtocolPadding (data : List UInt8) : List UInt8 :=
  (data.dropWhile isAsciiWhitespace).rdropWhile fun b => b = 0 || isAsciiWhitespace b

/-- Parses application data according to its message kind. -/
def parsePhoneServicePayload (data : List UInt8) (kind : PhoneServiceMessageKind) :
    Except PhoneServiceError PhoneServicePayload :=
  if data.length > MAX_PHONE_SERVICE_DATA_BYTES then
    .error (.xml (.limitExceeded "phone-service data" data.length MAX_PHONE_SERVICE_DATA_BYTES))
  else
    let trimmed := trimProtocolPadding data
    if trimmed = [] then .ok (.opaqueBytes data)
    else if trimmed.head? = some 0x3c then
      match p.fromBytes trimmed MAX_PHONE_SERVICE_DATA_BYTES with
      | .error error => .error (.xml error)
      | .ok (.response items) =>
        match validateResponse items with
        | .error error => .error (.xml error)
        | .ok () => .ok (.executeResponse items)
      | .ok (.error error) =>
        match error.validate with
        | .error error => .error (.xml error)
        | .ok () => .ok (.error error)
      | .ok .unknown => .ok (.opaqueBytes data)
    else if kind = .response then .ok (.opaqueBytes data)
    else
      match ofUtf8? trimmed with
      | none => .ok (.opaqueBytes data)
      | some text => (parseSubmission p text).map .submission

end

end Sccp.PhoneService
