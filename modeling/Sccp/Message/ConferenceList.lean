/-
  Sccp.Message.ConferenceList

  The conference list a moderator's phone shows, and the callbacks of its entries.

  The list is a menu document, with icons on newer phones.  Each entry has a callback URL, which
  the phone sends back when the entry is chosen; the URL is read either whole or as the route of
  a service submission.
-/

import Sccp.Config.DndSchedule
import Sccp.Lib.Digits
import Sccp.Message.Codec
import Sccp.State.Features

namespace Sccp.ConferenceList

open Sccp.Config (split)
open Sccp.Features (stripPrefix)

/-! ## Callbacks -/

/-- Typed callback encoded into conference menu action URLs. -/
inductive ConferenceListAction where
  | participant (conferenceId participantId : UInt32)
  | mute (conferenceId participantId : UInt32)
  | unmute (conferenceId participantId : UInt32)
  | remove (conferenceId participantId : UInt32)
  | promote (conferenceId participantId : UInt32)
  | demote (conferenceId participantId : UInt32)
  | «end» (conferenceId : UInt32)
  deriving DecidableEq

namespace ConferenceListAction

def APPLICATION_ID : Nat := 9091

/-- What a callback URL starts with. -/
def urlStart : String := "UserData:" ++ toString APPLICATION_ID ++ ":0:"

def participantUrl (conferenceId participantId : UInt32) (operation : String) : String :=
  urlStart ++ "conference/" ++ toString conferenceId.toNat ++ "/participant/"
    ++ toString participantId.toNat ++ operation

/-- Encodes the action as a device-local callback URL. -/
def url : ConferenceListAction → String
  | .participant conferenceId participantId => participantUrl conferenceId participantId ""
  | .mute conferenceId participantId => participantUrl conferenceId participantId "/mute"
  | .unmute conferenceId participantId => participantUrl conferenceId participantId "/unmute"
  | .remove conferenceId participantId => participantUrl conferenceId participantId "/remove"
  | .promote conferenceId participantId => participantUrl conferenceId participantId "/promote"
  | .demote conferenceId participantId => participantUrl conferenceId participantId "/demote"
  | .end conferenceId => urlStart ++ "conference/" ++ toString conferenceId.toNat ++ "/end"

/-- `str::parse` for the number of an identity. -/
def parseId (text : String) : Option UInt32 := (parseUnsigned 32 text).map UInt32.ofNat

/-- The action that the segments after the conference stand for. -/
def ofSegments (conferenceId : UInt32) : String → List String → Option ConferenceListAction
  | "participant", [id] => (parseId id).map (.participant conferenceId)
  | "participant", [id, "mute"] => (parseId id).map (.mute conferenceId)
  | "participant", [id, "unmute"] => (parseId id).map (.unmute conferenceId)
  | "participant", [id, "remove"] => (parseId id).map (.remove conferenceId)
  | "participant", [id, "promote"] => (parseId id).map (.promote conferenceId)
  | "participant", [id, "demote"] => (parseId id).map (.demote conferenceId)
  | "end", [] => some (.end conferenceId)
  | _, _ => none

/-- The characters that `parse` takes off both ends. -/
def isPadding (c : Char) : Bool := c = '\x00' || c = ' ' || c = '\r' || c = '\n'

/-- `str::trim_matches`. -/
def trimMatches (pattern : Char → Bool) (value : String) : String :=
  String.ofList ((value.toList.dropWhile pattern).rdropWhile pattern)

/-- Parses a complete callback URL or its bare `conference/...` path. -/
def parse (value : String) : Option ConferenceListAction :=
  -- Without the start of a URL it is the text as it came, padding included.
  match stripPrefix "conference/"
      ((stripPrefix urlStart (trimMatches isPadding value)).getD value) with
  | none => none
  | some path =>
    match split path '/' with
    | conferenceId :: action :: rest =>
      (parseId conferenceId).bind fun conferenceId => ofSegments conferenceId action rest
    | _ => none

/-- Parses the percent-decoded route produced by a service submission. -/
def fromRoute : List String → Option ConferenceListAction
  | conference :: conferenceId :: action :: rest =>
    if conference ≠ "conference" then none
    else (parseId conferenceId).bind fun conferenceId => ofSegments conferenceId action rest
  | _ => none

end ConferenceListAction

/-! ## Menu documents -/

/-- `PhoneXmlError`, without the failures of reading a document. -/
inductive PhoneXmlError where
  | limitExceeded (kind : String) (actual maximum : Nat)
  | invalidField (field expected : String)
  deriving DecidableEq

structure CiscoIpPhoneMenuItem where
  name : Option String
  url : Option String
  deriving DecidableEq

/-- A plain menu; the lifecycle and key actions, of which a conference list has none, are left
    out. -/
structure CiscoIpPhoneMenu where
  title : Option String
  prompt : Option String
  items : List CiscoIpPhoneMenuItem
  deriving DecidableEq

structure CiscoIpPhoneIconItem where
  (index width height depth : UInt16)
  data : Option String
  deriving DecidableEq

structure CiscoIpPhoneIconMenuItem where
  name : Option String
  url : Option String
  iconIndex : Option UInt16
  deriving DecidableEq

structure CiscoIpPhoneIconMenu where
  title : Option String
  prompt : Option String
  items : List CiscoIpPhoneIconMenuItem
  icons : List CiscoIpPhoneIconItem
  deriving DecidableEq

def PHONE_XML_URL_MAX_CHARS : Nat := 256
def PHONE_MENU_MAX_ITEMS : Nat := 100
def PHONE_ICON_MENU_MAX_ITEMS : Nat := 32
def PHONE_ICON_MENU_MAX_ICONS : Nat := 10

def validateCount (kind : String) (actual maximum : Nat) : Except PhoneXmlError Unit :=
  if actual > maximum then .error (.limitExceeded kind actual maximum) else .ok ()

def hasOnlyXmlCharacters (value : String) : Bool :=
  value.toList.all fun c =>
    let n := c.toNat
    n = 0x9 || n = 0xA || n = 0xD || (0x20 ≤ n && n ≤ 0xD7FF) || (0xE000 ≤ n && n ≤ 0xFFFD)
      || (0x10000 ≤ n && n ≤ 0x10FFFF)

def lengthExpected (minimum maximum : Nat) : String :=
  if (minimum, maximum) = (0, 32) then "at most 32 characters"
  else if (minimum, maximum) = (0, 256) then "at most 256 characters"
  else if (minimum, maximum) = (1, 64) then "between 1 and 64 characters"
  else if (minimum, maximum) = (1, 256) then "between 1 and 256 characters"
  else "within the schema length bounds"

def validateOptionalText (field : String) (value : Option String) (minimum maximum : Nat) :
    Except PhoneXmlError Unit :=
  match value with
  | none => .ok ()
  | some value =>
    if ¬ (minimum ≤ value.length ∧ value.length ≤ maximum) then
      .error (.invalidField field (lengthExpected minimum maximum))
    else if ¬ hasOnlyXmlCharacters value then
      .error (.invalidField field "valid XML text without forbidden control characters")
    else .ok ()

def validateDisplayable (title prompt : Option String) : Except PhoneXmlError Unit := do
  validateOptionalText "display title" title 0 32
  validateOptionalText "display prompt" prompt 0 32

def CiscoIpPhoneMenu.validate (document : CiscoIpPhoneMenu) : Except PhoneXmlError Unit := do
  validateDisplayable document.title document.prompt
  validateCount "menu items" document.items.length PHONE_MENU_MAX_ITEMS
  document.items.forM fun item => do
    validateOptionalText "menu item name" item.name 0 64
    validateOptionalText "menu item URL" item.url 0 PHONE_XML_URL_MAX_CHARS

def CiscoIpPhoneMenu.new (title prompt : String) (items : List CiscoIpPhoneMenuItem) :
    Except PhoneXmlError CiscoIpPhoneMenu := do
  let document : CiscoIpPhoneMenu := ⟨some title, some prompt, items⟩
  document.validate
  return document

def validateIconMenuItems (items : List CiscoIpPhoneIconMenuItem) : Except PhoneXmlError Unit := do
  validateCount "icon menu items" items.length PHONE_ICON_MENU_MAX_ITEMS
  items.forM fun item => do
    validateOptionalText "icon menu item name" item.name 0 64
    validateOptionalText "icon menu item URL" item.url 0 PHONE_XML_URL_MAX_CHARS
    if item.iconIndex.any (· > 9) then
      throw (.invalidField "icon menu item index" "between 0 and 9")

def validateBitmapIcon (icon : CiscoIpPhoneIconItem) : Except PhoneXmlError Unit := do
  if ¬ (1 ≤ icon.width ∧ icon.width ≤ 16) then
    throw (.invalidField "bitmap icon width" "between 1 and 16")
  if ¬ (1 ≤ icon.height ∧ icon.height ≤ 10) then
    throw (.invalidField "bitmap icon height" "between 1 and 10")
  if ¬ (1 ≤ icon.depth ∧ icon.depth ≤ 2) then
    throw (.invalidField "bitmap icon depth" "between 1 and 2")
  if icon.data.any fun data => data.utf8ByteSize > 80 || data.utf8ByteSize % 2 ≠ 0
      || !data.toList.all Char.isHexDigit then
    throw (.invalidField "bitmap icon data" "at most 40 hexadecimal bytes")

def CiscoIpPhoneIconMenu.validate (document : CiscoIpPhoneIconMenu) :
    Except PhoneXmlError Unit := do
  validateDisplayable document.title document.prompt
  validateIconMenuItems document.items
  validateCount "icon menu icons" document.icons.length PHONE_ICON_MENU_MAX_ICONS
  document.icons.forM validateBitmapIcon

def CiscoIpPhoneIconMenu.new (title prompt : String) (items : List CiscoIpPhoneIconMenuItem)
    (icons : List CiscoIpPhoneIconItem) : Except PhoneXmlError CiscoIpPhoneIconMenu := do
  let document : CiscoIpPhoneIconMenu := ⟨some title, some prompt, items, icons⟩
  document.validate
  return document

/-! ## Their XML -/

def escapeChar (c : Char) : List Char :=
  if c = '&' then "&amp;".toList else if c = '<' then "&lt;".toList
  else if c = '>' then "&gt;".toList else [c]

/-- The text of an element, with the markup characters escaped. -/
def escape (text : String) : String := String.ofList (text.toList.flatMap escapeChar)

def element (tag content : String) : String :=
  "<" ++ tag ++ ">" ++ content ++ "</" ++ tag ++ ">"

def optionalElement (tag : String) (text : Option String) : String :=
  match text with
  | none => ""
  | some text => element tag (escape text)

def numberElement (tag : String) (number : UInt16) : String := element tag (toString number.toNat)

def CiscoIpPhoneMenuItem.xml (item : CiscoIpPhoneMenuItem) : String :=
  element "MenuItem" (optionalElement "Name" item.name ++ optionalElement "URL" item.url)

def CiscoIpPhoneMenu.xml (document : CiscoIpPhoneMenu) : String :=
  element "CiscoIPPhoneMenu" (optionalElement "Title" document.title
    ++ optionalElement "Prompt" document.prompt ++ String.join (document.items.map (·.xml)))

def CiscoIpPhoneIconMenuItem.xml (item : CiscoIpPhoneIconMenuItem) : String :=
  element "MenuItem" (optionalElement "Name" item.name ++ optionalElement "URL" item.url
    ++ (item.iconIndex.map (numberElement "IconIndex")).getD "")

def CiscoIpPhoneIconItem.xml (icon : CiscoIpPhoneIconItem) : String :=
  element "IconItem" (numberElement "Index" icon.index ++ numberElement "Width" icon.width
    ++ numberElement "Height" icon.height ++ numberElement "Depth" icon.depth
    ++ optionalElement "Data" icon.data)

def CiscoIpPhoneIconMenu.xml (document : CiscoIpPhoneIconMenu) : String :=
  element "CiscoIPPhoneIconMenu" (optionalElement "Title" document.title
    ++ optionalElement "Prompt" document.prompt ++ String.join (document.items.map (·.xml))
    ++ String.join (document.icons.map (·.xml)))

/-- Rejects an oversized result. -/
def bounded (xml : String) (maximumBytes : Nat) : Except PhoneXmlError String :=
  if xml.utf8ByteSize > maximumBytes then
    .error (.limitExceeded "phone XML document" xml.utf8ByteSize maximumBytes)
  else .ok xml

/-! ## The conference list -/

inductive ConferenceMenuFamily where
  | menu
  | iconMenu
  deriving DecidableEq

structure ConferenceListEntry where
  participantId : UInt32
  name : String
  number : String
  moderator : Bool
  muted : Bool
  deriving DecidableEq

def CONFERENCE_LIST_MAX_PARTICIPANTS : Nat := 16
def CONFERENCE_LIST_MAX_BYTES : Nat := 2000

def identityText (participant : ConferenceListEntry) : String :=
  if ¬ trim participant.name = "" then trim participant.name
  else if ¬ trim participant.number = "" then trim participant.number
  else "Unknown participant"

def conferenceParticipantLabel (participant : ConferenceListEntry) : String :=
  identityText participant ++ " (" ++ (if participant.moderator then "Moderator" else "Participant")
    ++ (if participant.muted then ", muted" else "") ++ ")"

def conferenceIcons : List CiscoIpPhoneIconItem :=
  [⟨0, 10, 10, 2, some "00000000000000000000000000"⟩,
    ⟨1, 10, 10, 2, some "00000155415555554155000000"⟩]

inductive ConferenceListDocument where
  | menu (document : CiscoIpPhoneMenu)
  | iconMenu (document : CiscoIpPhoneIconMenu)
  deriving DecidableEq

namespace ConferenceListDocument

/-- Renders a conference overview and validates all menu and byte bounds. -/
def new (conferenceId : UInt32) (participants : List ConferenceListEntry) :
    ConferenceMenuFamily → Except PhoneXmlError ConferenceListDocument := fun family =>
  if participants.length > CONFERENCE_LIST_MAX_PARTICIPANTS then
    .error (.limitExceeded "conference participants" participants.length
      CONFERENCE_LIST_MAX_PARTICIPANTS)
  else
    let title := "Conference " ++ toString conferenceId.toNat
    let prompt := if participants = [] then "No participants" else "Select a participant"
    let participantUrl := fun participant : ConferenceListEntry =>
      (ConferenceListAction.participant conferenceId participant.participantId).url
    let endUrl := (ConferenceListAction.end conferenceId).url
    match family with
    | .menu => (CiscoIpPhoneMenu.new title prompt
        (participants.map (fun participant =>
            ⟨some (conferenceParticipantLabel participant), some (participantUrl participant)⟩)
          ++ [⟨some "End conference", some endUrl⟩])).map .menu
    | .iconMenu => (CiscoIpPhoneIconMenu.new title prompt
        (participants.map (fun participant =>
            ⟨some (conferenceParticipantLabel participant), some (participantUrl participant),
              some (if participant.moderator then 1 else 0)⟩)
          ++ [⟨some "End conference", some endUrl, some 0⟩]) conferenceIcons).map .iconMenu

/-- Serializes the rendered menu within the byte bound. -/
def toXml : ConferenceListDocument → Except PhoneXmlError String
  | .menu document => do
    document.validate
    bounded document.xml CONFERENCE_LIST_MAX_BYTES
  | .iconMenu document => do
    document.validate
    bounded document.xml CONFERENCE_LIST_MAX_BYTES

/-- Recognized callback actions in display order. -/
def actions : ConferenceListDocument → List ConferenceListAction
  | .menu document => (document.items.filterMap (·.url)).filterMap ConferenceListAction.parse
  | .iconMenu document => (document.items.filterMap (·.url)).filterMap ConferenceListAction.parse

end ConferenceListDocument

end Sccp.ConferenceList
