/-
  Sccp.Gateway.Types

  What the SIP bridge works with (`bridge/src/config.rs`, `media.rs`, `sip.rs`).

  The SIP side names accounts and calls by numbers of its own; the SCCP side names devices, line
  instances and handset calls.  A relay is known by its addresses.
-/

import Sccp.Types

namespace Sccp.Gateway

open Sccp

/-! ## Addresses -/

abbrev Ipv4Addr := BitVec 32

abbrev Ipv6Addr := BitVec 128

inductive IpAddr where
  | v4 (address : Ipv4Addr)
  | v6 (address : Ipv6Addr)
  deriving DecidableEq

def IpAddr.isUnspecified : IpAddr → Bool
  | .v4 address => address = 0
  | .v6 address => address = 0

/-- `Ipv6Addr::to_ipv4_mapped`. -/
def toIpv4Mapped (address : Ipv6Addr) : Option Ipv4Addr :=
  if address >>> 32 = 0xffff then some (address.setWidth 32) else none

structure SocketAddrV4 where
  ip : Ipv4Addr
  port : UInt16
  deriving DecidableEq

/-- `u16::saturating_add(1)`. -/
def nextPort (port : UInt16) : UInt16 := if port = 65535 then port else port + 1

/-- `ipnet::Ipv4Net`, of which only the test for an address is used; the test is a parameter. -/
structure Ipv4Net where
  contains : Ipv4Addr → Bool

/-! ## Identities -/

structure AccountId where
  val : Int
  deriving DecidableEq

structure SipCallId where
  val : Int
  deriving DecidableEq

/-! ## Media -/

def Codec.pcmu : Codec := ⟨4⟩

def Codec.pcma : Codec := ⟨2⟩

/-- `sccp_protocol::MediaEndpoint`. -/
structure MediaEndpoint where
  address : IpAddr
  (rtpPort rtcpPort : UInt16)
  codec : Codec
  (packetMs maxFramesPerPacket telephoneEventPayload : Nat)
  deriving DecidableEq

def DEFAULT_AUDIO_PACKET_MS : Nat := 20

def DEFAULT_AUDIO_MAX_FRAMES_PER_PACKET : Nat := 0

structure RemoteMedia where
  endpoint : SocketAddrV4
  codec : Codec
  payloadType : Nat
  deriving DecidableEq

inductive MediaMode where
  | direct | relay
  deriving DecidableEq

structure DirectMediaRoute where
  (phones sip : List Ipv4Net)

structure MediaPolicy where
  directRoutes : List DirectMediaRoute

def MediaPolicy.select (policy : MediaPolicy) (phone sipPeer : Ipv4Addr)
    (compatiblePayloads : Bool) : MediaMode :=
  if compatiblePayloads && policy.directRoutes.any fun route =>
      route.phones.any (·.contains phone) && route.sip.any (·.contains sipPeer)
  then .direct
  else .relay

/-- The allocator works with IPv4 alone. -/
structure RelayAddresses where
  (phoneFacingRtp phoneFacingRtcp sipFacingRtp sipFacingRtcp : SocketAddrV4)
  deriving DecidableEq

structure AllocatedRelay where
  addresses : RelayAddresses
  deriving DecidableEq

/-- A relay that runs, and where it sends what it receives. -/
structure RtpRelay where
  addresses : RelayAddresses
  (phone sip : SocketAddrV4)
  deriving DecidableEq

/-- `AllocatedRelay::start`; the workers may fail to start. -/
def AllocatedRelay.start (relay : AllocatedRelay) (spawned : Bool) (phone : IpAddr)
    (phonePort : UInt16) (sipPeer : SocketAddrV4) : Option RtpRelay :=
  match phone with
  | .v6 _ => none
  | .v4 address => if spawned then some ⟨relay.addresses, ⟨address, phonePort⟩, sipPeer⟩ else none

def RtpRelay.updateEndpoints (relay : RtpRelay) (phone sip : SocketAddrV4) : RtpRelay :=
  { relay with phone, sip }

/-! ## Configuration -/

structure LineConfig where
  (number displayName registrar : String)
  outboundProxy : Option String
  (username password : String)
  authUsername : Option String
  deriving DecidableEq

structure PhoneConfig where
  device : String
  lines : List LineConfig

/-- The parts of `AppConfig` that the coordinator reads. -/
structure AppConfig where
  phones : List PhoneConfig
  interdigitTimeoutMs : Nat
  conferenceFeatureCode : Option String

/-- `eq_ignore_ascii_case`. -/
def eqIgnoreAsciiCase (a b : String) : Bool :=
  a.toList.map Char.toLower = b.toList.map Char.toLower

def AppConfig.phone (config : AppConfig) (id : DeviceId) : Option PhoneConfig :=
  config.phones.find? fun phone => eqIgnoreAsciiCase phone.device id.name

structure AccountConfig where
  (identityUri registrarUri username authUsername password : String)
  outboundProxy : Option String
  deriving DecidableEq

/-! ## Texts of the SIP side -/

/-- `strip_prefix`. -/
def stripPrefix (pre text : String) : Option String :=
  if pre.toList.isPrefixOf text.toList then some (String.ofList (text.toList.drop pre.length))
  else none

/-- The part of a text before the first occurrence of a character. -/
def before (c : Char) (text : String) : String := String.ofList (text.toList.takeWhile (· ≠ c))

def trimText (text : String) : String :=
  String.ofList ((text.toList.dropWhile isWhiteSpace).reverse.dropWhile isWhiteSpace).reverse

/-- `trim_matches('"')`. -/
def trimQuotes (text : String) : String :=
  String.ofList ((text.toList.dropWhile (· = '"')).reverse.dropWhile (· = '"')).reverse

def sipAuthority (registrar : String) : String :=
  before ';' (((stripPrefix "sip:" registrar).or (stripPrefix "sips:" registrar)).getD registrar)

def destinationUri (number registrar : String) : String :=
  if (stripPrefix "sip:" number).isSome ∨ (stripPrefix "sips:" number).isSome then number
  else "sip:" ++ number ++ "@" ++ sipAuthority registrar

/-- Name and number of a party; what has no name is named by its number. -/
def parseParty (uri : String) : String × String :=
  let bracketed := '<' ∈ uri.toList
  let name := if bracketed then trimQuotes (trimText (before '<' uri)) else ""
  let address :=
    if bracketed then
      before '>' (before '<' (String.ofList ((uri.toList.dropWhile (· ≠ '<')).drop 1)))
    else uri
  let stripped := (stripPrefix "sip:" (trimText address)).or
    (stripPrefix "sips:" (trimText address))
  let number := before '@' (stripped.getD address)
  (if name = "" then number else name, number)

def sipAccountConfig (line : LineConfig) : AccountConfig where
  identityUri := "sip:" ++ line.username ++ "@" ++ sipAuthority line.registrar
  registrarUri := line.registrar
  username := line.username
  authUsername := line.authUsername.getD line.username
  password := line.password
  outboundProxy := line.outboundProxy

/-! ## Events of the two sides -/

structure DeviceRegistration where
  id : DeviceId
  peer : IpAddr
  reportedAddress : Option Ipv4Addr
  reportedIpv6Address : Option Ipv6Addr
  deriving DecidableEq

/-- The reported address of the family that the signaling peer uses. -/
def DeviceRegistration.reportedAddressForPeer (registration : DeviceRegistration) : Option IpAddr :=
  match registration.peer with
  | .v4 _ => registration.reportedAddress.map IpAddr.v4
  | .v6 peer =>
    match toIpv4Mapped peer with
    | none => registration.reportedIpv6Address.map IpAddr.v6
    | some _ => registration.reportedAddress.map IpAddr.v4

/-- Codecs of the audio capabilities. -/
structure StationMediaCapabilities where
  audio : List Codec
  deriving DecidableEq

inductive Digit where
  | number (digit : Nat)
  | star | pound | a | b | c | d
  | unknown (value : Nat)
  deriving DecidableEq

def Digit.asChar : Digit → Char
  | number n => if n ≤ 9 then Char.ofNat (48 + n) else '?'
  | star => '*'
  | pound => '#'
  | a => 'A'
  | b => 'B'
  | c => 'C'
  | d => 'D'
  | unknown _ => '?'

/-- The keys that the bridge acts on. -/
inductive SoftKey where
  | dial | backspace | endCall | answer | hold | resume | transfer | conference | redial | other
  deriving DecidableEq

inductive DialogState where
  | calling | incoming | early | connecting | confirmed | disconnected | unknown
  deriving DecidableEq

inductive SipMediaState where
  | none | active | localHold | remoteHold | error
  deriving DecidableEq

/-- What a registered device reports; kinds that the bridge ignores are `other`. -/
inductive DeviceEvent where
  | registered (registration : DeviceRegistration)
  | disconnected
  | capabilities (capabilities : StationMediaCapabilities)
  | offHook (callId : CallId) (lineInstance : Nat)
  | onHook (callId : CallId)
  | digit (callId : CallId) (digit : Digit)
  | enblocCall (callId : CallId) (lineInstance : Nat) (number : String)
  | speedDial (callId : CallId) (lineInstance : Nat) (number : String) (awaitFurtherDigits : Bool)
  | softKey (callId : Option CallId) (softKey : SoftKey)
  | receiveChannelOpened (callId : CallId) (ok : Bool) (endpoint : MediaEndpoint)
  | transmitChannelOpen (callId : CallId) (rejected : Bool)
  | mediaTransmissionFailed (callId : CallId)
  | other

inductive SccpEvent where
  | sessionError
  | protocolWarning
  | device (deviceId : DeviceId) (sessionGeneration : SessionGeneration) (event : DeviceEvent)

inductive SipEvent where
  | registration (account : AccountId) (registered : Bool)
  | incomingCall (account : AccountId) (call : SipCallId) (remoteUri : String)
      (remoteMedia : Option RemoteMedia)
  | callState (call : SipCallId) (state : DialogState)
  | mediaState (call : SipCallId) (state : SipMediaState) (remote : Option RemoteMedia)
  | mediaReofferCompleted (call : SipCallId) (accepted : Bool)
  | messageWaiting (account : AccountId) (waiting : Bool)
  | mediaAdvertisementRequired (account : AccountId) (call : SipCallId)

/-! ## Requests -/

/-- Commands to a handset, but for the start of media. -/
inductive CommandAction where
  | displayPrompt (callId : CallId) (timeoutSeconds : Nat) (text : String)
  | openReceiveChannel (callId : CallId) (source : MediaEndpoint) (codec : Codec)
  | closeReceiveChannel (callId : CallId)
  | setCallInfo (callId : CallId) (info : CallInfo)
  | setCallState (callId : CallId) (state : HandsetCallState)
  | stopRinging (callId : CallId)
  | stopMedia (callId : CallId)
  | closeCall (callId : CallId)
  | setMwi (lineInstance : Nat) (enabled : Bool)

/-- Requests to the SIP side that are answered with success or failure alone. -/
inductive SipRequest where
  | removeAccount (account : AccountId)
  | setMediaAdvertisement (call : SipCallId) (advertised : SocketAddrV4)
  | reofferMedia (call : SipCallId) (advertised : SocketAddrV4)
  | answer (call : SipCallId)
  | reject (call : SipCallId) (status : Nat)
  | hangup (call : SipCallId)
  | hold (call : SipCallId)
  | resume (call : SipCallId)
  | blindTransfer (call : SipCallId) (destination : String)
  | attendedTransfer (call replaces : SipCallId)
  | sendDtmf (call : SipCallId) (digits : String)
  deriving DecidableEq

end Sccp.Gateway
