/-
  Sccp.Safety.StationTexts

  The round trip of the messages whose texts have a length of their own.

  The payload is a header, texts that a zero byte ends, and zeros up to a word boundary; a
  decoder that takes as many texts as were written finds each of them in its place.
-/

import Sccp.Message.Station

namespace Sccp.Message

open Sccp

/-! ## Writing texts -/

/-- The text can be written: it has no NUL and is not longer than its limit. -/
def Fitting (text : String) (maximum : Nat) : Prop :=
  NulFree text ∧ (utf8 text).length ≤ maximum

theorem fitting_empty (maximum : Nat) : Fitting "" maximum := ⟨by decide, Nat.zero_le _⟩

theorem pushDynamicText_ok {text : String} {maximum : Nat} (h : Fitting text maximum)
    (output : List UInt8) (messageId : UInt32) (field : String) :
    pushDynamicText output messageId field text maximum = .ok (output ++ zeroEnded text) := by
  unfold pushDynamicText zeroEnded
  rw [if_neg (zero_notMem_utf8 h.1), if_neg (Nat.not_lt.mpr h.2), List.append_assoc]

theorem pushDynamicStationText_ok {text : String} {maximum : Nat} (h : Fitting text maximum)
    (output : List UInt8) (messageId : UInt32) (field : String) :
    pushDynamicStationText output messageId field text maximum none
      = .ok (output ++ zeroEnded text) := by
  unfold pushDynamicStationText stationTextBytes zeroEnded
  rw [if_neg h.1]
  change (if maximum < (utf8 text).length then _ else Except.ok (output ++ utf8 text ++ [0])) = _
  rw [if_neg (Nat.not_lt.mpr h.2), List.append_assoc]

/-- Texts one after the other, each ended by a zero byte. -/
def zeroEndedTexts (texts : List String) : List UInt8 := texts.flatMap zeroEnded

theorem pushDynamicTexts_ok {fields : List (String × String × Nat)}
    (h : ∀ f ∈ fields, Fitting f.2.1 f.2.2) (messageId : UInt32) (output : List UInt8) :
    pushDynamicTexts messageId fields output
      = .ok (output ++ zeroEndedTexts (fields.map fun f => f.2.1)) := by
  induction fields generalizing output with
  | nil => exact congrArg Except.ok (List.append_nil output).symm
  | cons f rest ih =>
    obtain ⟨field, text, maximum⟩ := f
    rw [pushDynamicTexts, pushDynamicText_ok (h _ List.mem_cons_self)]
    change pushDynamicTexts messageId rest (output ++ zeroEnded text) = _
    rw [ih fun f hf => h f (List.mem_cons_of_mem _ hf), List.append_assoc]
    rfl

/-- Padding is at most three zeros. -/
theorem padDynamicPayload_eq (output : List UInt8) : ∃ count, count ≤ 3
    ∧ padDynamicPayload output = output ++ List.replicate count 0 :=
  ⟨(4 - output.length % 4) % 4, by omega, rfl⟩

/-! ## Reading texts -/

theorem takeTexts_ok {texts : List String} (h : ∀ text ∈ texts, NulFree text)
    (messageId : UInt32) (length : Nat) (rest : List UInt8) :
    takeTexts messageId length texts.length (zeroEndedTexts texts ++ rest) = .ok (texts, rest) := by
  induction texts with
  | nil => rfl
  | cons text texts ih =>
    have hsplit : splitZero (zeroEndedTexts (text :: texts) ++ rest)
        = some (utf8 text, zeroEndedTexts texts ++ rest) := by
      change splitZero ((zeroEnded text ++ zeroEndedTexts texts) ++ rest) = _
      rw [List.append_assoc]
      exact splitZero_zeroEnded (h text List.mem_cons_self) _
    rw [List.length_cons, takeTexts, hsplit]
    dsimp only
    rw [ofUtf8?_utf8]
    dsimp only
    rw [ih fun t ht => h t (List.mem_cons_of_mem _ ht)]
    rfl

theorem validateDynamicPadding_ok {messageId : UInt32} {count : Nat} (h : count ≤ 3) :
    validateDynamicPadding messageId (List.replicate count 0) = .ok () := by
  unfold validateDynamicPadding
  refine if_neg (not_or.mpr ⟨?_, ?_⟩)
  · rw [List.length_replicate]
    omega
  · intro hany
    obtain ⟨b, hb, hne⟩ := List.any_eq_true.mp hany
    exact of_decide_eq_true hne (List.eq_of_mem_replicate hb)

/-- The texts behind a header are read back in their order. -/
theorem decodeDynamicTexts_ok {texts : List String} (h : ∀ text ∈ texts, NulFree text)
    (messageId : UInt32) (header : List UInt8) :
    decodeDynamicTexts messageId (padDynamicPayload (header ++ zeroEndedTexts texts))
      header.length texts.length = .ok texts := by
  have haligned := length_padDynamicPayload (header ++ zeroEndedTexts texts)
  obtain ⟨count, hcount, hpad⟩ := padDynamicPayload_eq (header ++ zeroEndedTexts texts)
  unfold decodeDynamicTexts
  rw [if_neg (not_not.mpr haligned), hpad, List.append_assoc, List.drop_left, if_neg]
  · rw [takeTexts_ok h]
    change (validateDynamicPadding messageId _ >>= fun _ => .ok texts) = _
    rw [validateDynamicPadding_ok hcount]
    rfl
  · rw [List.length_append]
    omega

theorem takeDynamicText_ok {text : String} {maximum : Nat} (h : Fitting text maximum)
    (messageId : UInt32) (field : String) (rest : List UInt8) :
    takeDynamicText messageId (zeroEnded text ++ rest) field maximum = .ok (text, rest) := by
  unfold takeDynamicText
  rw [splitZero_zeroEnded h.1]
  dsimp only
  rw [if_neg (Nat.not_lt.mpr h.2), ofUtf8?_utf8]

theorem takeDynamicWord_ok (messageId : UInt32) (word : UInt32) (rest : List UInt8) :
    takeDynamicWord messageId (Layout.u32.write word ++ rest) = .ok (word, rest) := by
  have hlength : (Layout.u32.write word).length = 4 := Layout.u32.length_write word
  unfold takeDynamicWord
  rw [if_neg, Layout.u32.read_write, List.drop_left' hlength]
  rw [List.length_append, hlength]
  omega

/-- A header is read from the front of a padded payload. -/
theorem header_ok {α : Type} (header : Layout α) (value : α) (messageId : UInt32)
    (texts : List String) :
    let payload := padDynamicPayload (header.write value ++ zeroEndedTexts texts)
    ensureHeader messageId payload header.size = .ok ()
      ∧ decode header messageId (payload.take header.size) = .ok value := by
  obtain ⟨count, -, hpad⟩ := padDynamicPayload_eq (header.write value ++ zeroEndedTexts texts)
  have hlength := header.length_write value
  dsimp only
  rw [hpad, List.append_assoc]
  constructor
  · refine if_neg ?_
    rw [List.length_append, hlength]
    omega
  · rw [List.take_left' hlength, decode_write]

/-- Each text is at most its limit long. -/
theorem length_zeroEndedTexts_le {texts : List (String × Nat)} (h : ∀ t ∈ texts, Fitting t.1 t.2) :
    (zeroEndedTexts (texts.map Prod.fst)).length ≤ (texts.map fun t => t.2 + 1).sum := by
  induction texts with
  | nil => exact Nat.le_refl _
  | cons t rest ih =>
    have hrest := ih fun t ht => h t (List.mem_cons_of_mem _ ht)
    have ht := (h t List.mem_cons_self).2
    change (zeroEnded t.1 ++ zeroEndedTexts (rest.map Prod.fst)).length ≤ _
    rw [List.length_append, length_zeroEnded, List.map_cons, List.sum_cons]
    omega

/-! ## Messages -/

namespace StationTextMessage

/-- The texts of a message, each with the number of bytes that the dynamic layout allows. -/
def texts : StationTextMessage → List (String × Nat)
  | configStatus status => [(status.deviceName, 64), (status.userName, 64),
      (status.serverName, 256)]
  | lineStatus _ directoryNumber fullyQualifiedDisplayName displayLabel =>
    [(directoryNumber, 24), (fullyQualifiedDisplayName, 120), (displayLabel, 120)]
  | speedDialStatus _ number displayName => [(number, 23), (displayName, 39)]
  | serviceUrlStatus _ url label extensionText => [(url, 255), (label, 120), (extensionText, 120)]
  | callInfo info _ _ =>
    [(info.callingNumber, 24), (info.calledNumber, 24), (info.originalCalledNumber, 24),
     (info.lastRedirectingNumber, 24), (info.callingName, 120), (info.calledName, 120),
     (info.originalCalledName, 120), (info.lastRedirectingName, 120)]
  | displayPrompt _ text _ _ | displayNotify _ text | displayPriorityNotify _ _ text => [(text, 96)]

/-- The texts have no NUL and are within the limits; a service has an extension text only
    from version 19. -/
def Fits (message : StationTextMessage) (protocol : ProtocolVersion) : Prop :=
  (∀ t ∈ message.texts, Fitting t.1 t.2)
    ∧ ∀ index url label extensionText, message = serviceUrlStatus index url label extensionText →
      protocol.wire ≤ 18 → extensionText = ""

/-- The session selects the dynamic layout of the message. -/
def SelectsDynamic (message : StationTextMessage) (session : StationSessionContext) : Prop :=
  match message with
  | speedDialStatus .. => session.usesDynamicSpeedDialStatus = true
  | _ => session.usesDynamicGeneralUi = true

/-- The identifiers of the dynamic layouts. -/
def dynamicIds : List MessageId :=
  [.configStatusDynamic, .lineStatusDynamic, .speedDialStatusDynamic, .serviceUrlStatusDynamic,
   .callInfoDynamic, .displayDynamicPromptStatus, .displayDynamicNotify,
   .displayDynamicPriorityNotify]

/-- The message as a decoder makes it: the priority is the one that `From<u32>` gives for its
    number. -/
def asDecoded : StationTextMessage → StationTextMessage
  | displayPriorityNotify timeoutSeconds priority text =>
    displayPriorityNotify timeoutSeconds (.ofWire priority.wireValue) text
  | message => message

theorem asDecoded_eq_self {message : StationTextMessage}
    (h : ∀ seconds priority text, message = displayPriorityNotify seconds priority text →
      priority.Canonical) : message.asDecoded = message := by
  cases message with
  | displayPriorityNotify seconds priority text =>
    exact congrArg (displayPriorityNotify seconds · text) (h seconds priority text rfl)
  | _ => rfl

/-- The payload is padded, short enough for a frame, and read back. -/
structure ReadBack (message : StationTextMessage) (session : StationSessionContext)
    (id : MessageId) (body : List UInt8) : Prop where
  dynamic : id ∈ dynamicIds
  short : body.length ≤ 2000
  written : message.payload session none = .ok (id, padDynamicPayload body)
  read : decodeUnchecked id (padDynamicPayload body) session.protocol
    = some (.ok message.asDecoded)

variable {session : StationSessionContext}
variable {text : String} {timeoutSeconds : UInt32}

theorem readBack_configStatus {status : ConfigurationStatus}
    (hdynamic : session.usesDynamicGeneralUi = true)
    (hfits : ∀ t ∈ (configStatus status).texts, Fitting t.1 t.2) :
    ∃ id body, (configStatus status).ReadBack session id body := by
  simp only [texts, List.forall_mem_cons] at hfits
  obtain ⟨hdevice, huser, hserver, -⟩ := hfits
  let body := zeroEnded status.deviceName ++ Layout.u32.write status.stationUserId
    ++ Layout.u32.write status.stationInstance ++ Layout.u32.write status.lineCount
    ++ Layout.u32.write status.speedDialCount ++ zeroEnded status.userName
    ++ zeroEnded status.serverName
  have hwords : ∀ w, (Layout.u32.write w).length = 4 := Layout.u32.length_write
  obtain ⟨count, hcount, hpad⟩ := padDynamicPayload_eq body
  refine ⟨.configStatusDynamic, body, by decide, ?_, ?_, ?_⟩
  · have h₁ := hdevice.2
    have h₂ := huser.2
    have h₃ := hserver.2
    simp only [body, List.length_append, length_zeroEnded, hwords]
    omega
  · change (if session.usesDynamicGeneralUi = true then _ else _) = _
    rw [if_pos hdynamic]
    unfold encodeDynamicConfigStatus
    simp only [pushDynamicText_ok hdevice, pushDynamicText_ok huser, pushDynamicText_ok hserver,
      List.nil_append, bind, Except.bind, pure, Except.pure]
    rfl
  have haligned := length_padDynamicPayload body
  change some (decodeDynamicConfigStatus _) = _
  unfold decodeDynamicConfigStatus
  dsimp only
  rw [if_neg (not_not.mpr haligned), hpad]
  simp only [body, List.append_assoc, takeDynamicText_ok hdevice, takeDynamicText_ok huser,
    takeDynamicText_ok hserver, takeDynamicWord_ok, validateDynamicPadding_ok hcount, bind,
    Except.bind, pure, Except.pure, asDecoded]

/-- A header and texts are read back if the decoder makes the message of the header and
    the texts it finds. -/
theorem ReadBack.of_fields {α : Type} {message : StationTextMessage} (id : MessageId)
    (header : Layout α) (value : α) (fields : List (String × Nat)) (hid : id ∈ dynamicIds)
    (hfits : ∀ t ∈ fields, Fitting t.1 t.2)
    (hshort : header.size + (fields.map fun t => t.2 + 1).sum ≤ 2000)
    (hwritten : message.payload session none = .ok (id, padDynamicPayload
      (header.write value ++ zeroEndedTexts (fields.map Prod.fst))))
    (hread : ∀ p, ensureHeader id.wireValue p header.size = .ok () →
      Sccp.decode header id.wireValue (p.take header.size) = .ok value →
      decodeDynamicTexts id.wireValue p header.size fields.length = .ok (fields.map Prod.fst) →
      decodeUnchecked id p session.protocol = some (.ok message.asDecoded)) :
    ∃ id body, message.ReadBack session id body := by
  have hfree : ∀ text ∈ fields.map Prod.fst, NulFree text := by
    intro text htext
    obtain ⟨t, ht, rfl⟩ := List.mem_map.mp htext
    exact (hfits t ht).1
  have hlength := header.length_write value
  refine ⟨id, _, hid, ?_, hwritten, ?_⟩
  · have hle := length_zeroEndedTexts_le hfits
    rw [List.length_append, hlength]
    omega
  obtain ⟨hensure, hheader⟩ := header_ok header value id.wireValue (fields.map Prod.fst)
  have htexts := decodeDynamicTexts_ok hfree id.wireValue (header.write value)
  rw [hlength, List.length_map] at htexts
  exact hread _ hensure hheader htexts

/-- One text after a header. -/
theorem decodeDynamicDisplay_ok {α : Type} {header : Layout α} {value : α} {id : MessageId}
    {p : List UInt8} (hensure : ensureHeader id.wireValue p header.size = .ok ())
    (hheader : Sccp.decode header id.wireValue (p.take header.size) = .ok value)
    (htexts : decodeDynamicTexts id.wireValue p header.size 1 = .ok [text]) :
    decodeDynamicDisplay header id p header.size = .ok (value, text) := by
  unfold decodeDynamicDisplay decodeDynamicText
  simp only [hensure, hheader, htexts, bind, Except.bind]
  rfl

theorem encodeDynamicDisplay_ok {α : Type} (header : Layout α) (value : α) (id : MessageId)
    (field : String) (h : Fitting text 96) : encodeDynamicDisplay header value id field text
      = .ok (padDynamicPayload (header.write value ++ zeroEndedTexts [text])) := by
  unfold encodeDynamicDisplay
  rw [pushDynamicText_ok h]
  simp only [zeroEndedTexts, List.flatMap_cons, List.flatMap_nil, List.append_nil]
  rfl

theorem readBack_lineStatus {instanceNumber : UInt32}
    {directoryNumber fullyQualifiedDisplayName displayLabel : String}
    (hdynamic : session.usesDynamicGeneralUi = true)
    (hfits : ∀ t ∈ (lineStatus instanceNumber directoryNumber fullyQualifiedDisplayName
      displayLabel).texts, Fitting t.1 t.2) :
    ∃ id body, (lineStatus instanceNumber directoryNumber fullyQualifiedDisplayName
      displayLabel).ReadBack session id body := by
  have hall := hfits
  simp only [texts, List.forall_mem_cons] at hall
  obtain ⟨hnumber, hname, hlabel, -⟩ := hall
  refine ReadBack.of_fields .lineStatusDynamic WireLineStatusDynamicHeader.layout
    ⟨instanceNumber, 15⟩ _ (by decide) hfits (Nat.le_of_ble_eq_true rfl) ?_ ?_
  · change (if session.usesDynamicGeneralUi = true then _ else _) = _
    rw [if_pos hdynamic]
    unfold encodeDynamicLineStatus
    simp only [pushDynamicText_ok hnumber, pushDynamicStationText_ok hname,
      pushDynamicStationText_ok hlabel, bind, Except.bind, pure, Except.pure, List.append_assoc]
    simp only [texts, List.map_cons, List.map_nil, zeroEndedTexts, List.flatMap_cons,
      List.flatMap_nil, List.append_nil]
    rfl
  intro p hensure hheader htexts
  change ensureHeader _ p 8 = _ at hensure
  change Sccp.decode _ _ (p.take 8) = _ at hheader
  change decodeDynamicTexts _ p 8 3 = _ at htexts
  change some (decodeDynamicLineStatus p) = _
  unfold decodeDynamicLineStatus
  simp only [hensure, hheader, htexts, bind, Except.bind]
  rfl

theorem readBack_speedDialStatus {instanceNumber : UInt32} {number displayName : String}
    (hdynamic : session.usesDynamicSpeedDialStatus = true)
    (hfits : ∀ t ∈ (speedDialStatus instanceNumber number displayName).texts, Fitting t.1 t.2) :
    ∃ id body, (speedDialStatus instanceNumber number displayName).ReadBack session id body := by
  simp only [texts, List.forall_mem_cons] at hfits
  obtain ⟨hnumber, hname, -⟩ := hfits
  let body := Layout.u32.write instanceNumber ++ zeroEnded number ++ zeroEnded displayName
  have hword : (Layout.u32.write instanceNumber).length = 4 := Layout.u32.length_write _
  obtain ⟨count, hcount, hpad⟩ := padDynamicPayload_eq body
  refine ⟨.speedDialStatusDynamic, body, by decide, ?_, ?_, ?_⟩
  · have h₁ := hnumber.2
    have h₂ := hname.2
    simp only [body, List.length_append, length_zeroEnded, hword]
    omega
  · change (if session.usesDynamicSpeedDialStatus = true then _ else _) = _
    rw [if_pos hdynamic]
    unfold encodeDynamicSpeedDialStatus
    simp only [pushDynamicText_ok hnumber, pushDynamicStationText_ok hname, bind, Except.bind,
      pure, Except.pure]
    rfl
  have haligned := length_padDynamicPayload body
  change some (decodeDynamicSpeedDialStatus _) = _
  unfold decodeDynamicSpeedDialStatus
  dsimp only
  rw [if_neg (not_not.mpr haligned), hpad]
  simp only [body, List.append_assoc, takeDynamicText_ok hnumber, takeDynamicText_ok hname,
    takeDynamicWord_ok, validateDynamicPadding_ok hcount, bind, Except.bind, pure, Except.pure,
    asDecoded]

theorem readBack_serviceUrlStatus {index : UInt32} {url label extensionText : String}
    (hdynamic : session.usesDynamicGeneralUi = true)
    (hfits : ∀ t ∈ (serviceUrlStatus index url label extensionText).texts, Fitting t.1 t.2)
    (hextension : session.protocol.wire ≤ 18 → extensionText = "") :
    ∃ id body, (serviceUrlStatus index url label extensionText).ReadBack session id body := by
  have hall := hfits
  simp only [texts, List.forall_mem_cons] at hall
  obtain ⟨hurl, hlabel, hext, -⟩ := hall
  have hpayload : (serviceUrlStatus index url label extensionText).payload session none
      = (.serviceUrlStatusDynamic, ·) <$>
        encodeDynamicServiceUrlStatus index url label extensionText session.protocol none := by
    change (if session.protocol.wire ≤ 18 ∧ extensionText ≠ "" then _
      else if session.usesDynamicGeneralUi = true then _ else _) = _
    rw [if_neg fun h => h.2 (hextension h.1), if_pos hdynamic]
  by_cases hversion : 19 ≤ session.protocol.wire
  · refine ReadBack.of_fields .serviceUrlStatusDynamic WireOneWord.layout ⟨index⟩ _
      (by decide) hfits (Nat.le_of_ble_eq_true rfl) ?_ ?_
    · rw [hpayload]
      unfold encodeDynamicServiceUrlStatus
      simp only [pushDynamicText_ok hurl, pushDynamicStationText_ok hlabel,
        pushDynamicStationText_ok hext, if_pos hversion, bind, Except.bind, pure, Except.pure,
        List.append_assoc]
      simp only [texts, List.map_cons, List.map_nil, zeroEndedTexts, List.flatMap_cons,
        List.flatMap_nil, List.append_nil]
      rfl
    · intro p hensure hheader htexts
      change ensureHeader _ p 4 = _ at hensure
      change Sccp.decode _ _ (p.take 4) = _ at hheader
      change decodeDynamicTexts _ p 4 3 = _ at htexts
      change some (decodeDynamicServiceUrlStatus p session.protocol) = _
      unfold decodeDynamicServiceUrlStatus
      simp only [hensure, hheader, htexts, if_pos hversion, bind, Except.bind]
      rfl
  · -- without an extension the message has two texts
    obtain rfl := hextension (by omega)
    refine ReadBack.of_fields .serviceUrlStatusDynamic WireOneWord.layout ⟨index⟩
      [(url, 255), (label, 120)] (by decide)
      (fun t ht => hfits t (List.mem_append_left [("", 120)] ht)) (Nat.le_of_ble_eq_true rfl) ?_ ?_
    · rw [hpayload]
      unfold encodeDynamicServiceUrlStatus
      simp only [pushDynamicText_ok hurl, pushDynamicStationText_ok hlabel, if_neg hversion, bind,
        Except.bind, pure, Except.pure, List.append_assoc]
      simp only [List.map_cons, List.map_nil, zeroEndedTexts, List.flatMap_cons,
        List.flatMap_nil, List.append_nil]
      rfl
    intro p hensure hheader htexts
    change ensureHeader _ p 4 = _ at hensure
    change Sccp.decode _ _ (p.take 4) = _ at hheader
    change decodeDynamicTexts _ p 4 2 = _ at htexts
    change some (decodeDynamicServiceUrlStatus p session.protocol) = _
    unfold decodeDynamicServiceUrlStatus
    simp only [hensure, hheader, htexts, if_neg hversion, bind, Except.bind]
    rfl

theorem readBack_callInfo {info : CallInfo} {lineInstance callReference : UInt32}
    (hdynamic : session.usesDynamicGeneralUi = true)
    (hfits : ∀ t ∈ (callInfo info lineInstance callReference).texts, Fitting t.1 t.2) :
    ∃ id body, (callInfo info lineInstance callReference).ReadBack session id body := by
  simp only [texts, List.forall_mem_cons] at hfits
  obtain ⟨h₁, h₂, h₃, h₄, h₅, h₆, h₇, h₈, -⟩ := hfits
  have h24 := fitting_empty 24
  have h120 := fitting_empty 120
  -- every text of the three field tables is within its limit
  have hfields : ∀ layout, ∀ f ∈ dynamicCallInfoFields info layout, Fitting f.2.1 f.2.2 := by
    intro layout
    cases layout <;>
      simp only [dynamicCallInfoFields, List.forall_mem_cons, List.not_mem_nil, false_implies,
        implies_true, and_true] <;> simp only [h₁, h₂, h₃, h₄, h₅, h₆, h₇, h₈, h24, h120, and_self]
  let header : WireCallInfoDynamicHeader :=
    { lineInstance, callReference, callType := callType info.direction
      originalRedirectReason := info.originalRedirectReason
      lastRedirectReason := info.lastRedirectReason
      callInstance := 1, securityStatus := 0
      partyRestrictions := info.partyRestrictions }
  let layout := session.protocol.dynamicCallInfoLayout
  let fields := (dynamicCallInfoFields info layout).map fun f => f.2
  have htable : (dynamicCallInfoFields info layout).map (fun f => f.2.1) = fields.map Prod.fst :=
    (List.map_map ..).symm
  refine ReadBack.of_fields .callInfoDynamic WireCallInfoDynamicHeader.layout header fields
    (by decide) ?_ ?_ ?_ ?_
  · intro t ht
    obtain ⟨f, hf, rfl⟩ := List.mem_map.mp ht
    exact hfields layout f hf
  · have hsize : WireCallInfoDynamicHeader.layout.size = 32 := rfl
    simp only [fields, layout, hsize]
    cases session.protocol.dynamicCallInfoLayout <;> simp [dynamicCallInfoFields]
  · change (if session.usesDynamicGeneralUi = true then _ else _) = _
    rw [if_pos hdynamic]
    unfold encodeDynamicCallInfo
    simp only [pushDynamicTexts_ok (hfields session.protocol.dynamicCallInfoLayout), bind,
      Except.bind, pure, Except.pure]
    rw [← htable]
    rfl
  intro p hensure hheader htexts
  change ensureHeader _ p 32 = _ at hensure
  change Sccp.decode _ _ (p.take 32) = _ at hheader
  change some (decodeDynamicCallInfo p session.protocol) = _
  have hcount : fields.length = session.protocol.dynamicCallInfoLayout.stringCount := by
    simp only [fields, layout, List.length_map]
    cases session.protocol.dynamicCallInfoLayout <;> rfl
  have hdirection : (if callType info.direction = 1 then CallDirection.inbound else .outbound)
      = info.direction := by
    cases info.direction <;> rfl
  rw [hcount] at htexts
  change decodeDynamicTexts _ p 32 _ = _ at htexts
  unfold decodeDynamicCallInfo
  simp only [hensure, hheader, htexts, bind, Except.bind]
  change _ = some (Except.ok (callInfo info lineInstance callReference))
  -- each text is where the field table put it
  simp only [fields, layout]
  cases session.protocol.dynamicCallInfoLayout <;>
    simp [dynamicCallInfoFields, fieldAt, header, hdirection, pure, Except.pure]

theorem readBack_displayPrompt {lineInstance callReference : UInt32}
    (hdynamic : session.usesDynamicGeneralUi = true) (hfits : Fitting text 96) :
    ∃ id body, (displayPrompt timeoutSeconds text lineInstance callReference).ReadBack session id
      body := by
  refine ReadBack.of_fields .displayDynamicPromptStatus WireDynamicPromptHeader.layout
    ⟨timeoutSeconds, lineInstance, callReference⟩ [(text, 96)] (by decide) (by simpa using hfits)
      (Nat.le_of_ble_eq_true rfl) ?_ ?_
  · change (if session.usesDynamicGeneralUi = true then _ else _) = _
    rw [if_pos hdynamic, encodeDynamicDisplay_ok _ _ _ _ hfits]
    rfl
  intro p hensure hheader htexts
  have h := decodeDynamicDisplay_ok hensure hheader htexts
  change decodeDynamicDisplay _ _ p 12 = _ at h
  change some (decodeDynamicDisplay WireDynamicPromptHeader.layout .displayDynamicPromptStatus p 12
    >>= fun _ => _) = _
  rw [h]
  rfl

theorem readBack_displayNotify (hdynamic : session.usesDynamicGeneralUi = true)
    (hfits : Fitting text 96) :
    ∃ id body, (displayNotify timeoutSeconds text).ReadBack session id body := by
  refine ReadBack.of_fields .displayDynamicNotify WireDynamicNotifyHeader.layout
    ⟨timeoutSeconds⟩ [(text, 96)] (by decide) (by simpa using hfits)
    (Nat.le_of_ble_eq_true rfl) ?_ ?_
  · change (if session.usesDynamicGeneralUi = true then _ else _) = _
    rw [if_pos hdynamic, encodeDynamicDisplay_ok _ _ _ _ hfits]
    rfl
  intro p hensure hheader htexts
  have h := decodeDynamicDisplay_ok hensure hheader htexts
  change decodeDynamicDisplay _ _ p 4 = _ at h
  change some (decodeDynamicDisplay WireDynamicNotifyHeader.layout .displayDynamicNotify p 4
    >>= fun _ => _) = _
  rw [h]
  rfl

theorem readBack_displayPriorityNotify {priority : NotificationPriority}
    (hdynamic : session.usesDynamicGeneralUi = true) (hfits : Fitting text 96) :
    ∃ id body, (displayPriorityNotify timeoutSeconds priority text).ReadBack session id body := by
  refine ReadBack.of_fields .displayDynamicPriorityNotify WireDynamicPriorityNotifyHeader.layout
    ⟨timeoutSeconds, priority.wireValue⟩ [(text, 96)] (by decide) (by simpa using hfits)
      (Nat.le_of_ble_eq_true rfl) ?_ ?_
  · change (if session.usesDynamicGeneralUi = true then _ else _) = _
    rw [if_pos hdynamic, encodeDynamicDisplay_ok _ _ _ _ hfits]
    rfl
  intro p hensure hheader htexts
  have h := decodeDynamicDisplay_ok hensure hheader htexts
  change decodeDynamicDisplay _ _ p 8 = _ at h
  change some (decodeDynamicDisplay WireDynamicPriorityNotifyHeader.layout
    .displayDynamicPriorityNotify p 8 >>= fun _ => _) = _
  rw [h]
  rfl

/-- Every message that fits is read back in a session with dynamic layouts. -/
theorem readBack (message : StationTextMessage) (hdynamic : message.SelectsDynamic session)
    (hfits : message.Fits session.protocol) : ∃ id body, message.ReadBack session id body := by
  obtain ⟨htexts, hextension⟩ := hfits
  cases message with
  | configStatus status => exact readBack_configStatus hdynamic htexts
  | lineStatus => exact readBack_lineStatus hdynamic htexts
  | speedDialStatus => exact readBack_speedDialStatus hdynamic htexts
  | serviceUrlStatus =>
    exact readBack_serviceUrlStatus hdynamic htexts (hextension _ _ _ _ rfl)
  | callInfo => exact readBack_callInfo hdynamic htexts
  | displayPrompt => exact readBack_displayPrompt hdynamic (htexts _ List.mem_cons_self)
  | displayNotify => exact readBack_displayNotify hdynamic (htexts _ List.mem_cons_self)
  | displayPriorityNotify =>
    exact readBack_displayPriorityNotify hdynamic (htexts _ List.mem_cons_self)

/-- The dynamic identifiers are those of messages to a station. -/
theorem dynamicIds_route {id : MessageId} (h : id ∈ dynamicIds) :
    MessageId.ofWire id.wireValue = id ∧ id.route = some .controlToStation := by
  revert id
  decide

/-- In a session with dynamic layouts a message that fits is encoded, its payload ends at a
    word boundary, and decoding the frame at the same version gives the message, its priority
    as it is decoded.  That is the same message unless the priority is an `Unknown` with the
    number of a named one. -/
theorem dynamic_texts_round_trip (session : StationSessionContext) (message : StationTextMessage)
    (hdynamic : message.SelectsDynamic session) (hfits : message.Fits session.protocol) :
    (∃ frame bytes, message.toFrame session none = .ok frame
      ∧ message.encodeForSession session none = .ok bytes ∧ frame.encode = .ok bytes
      ∧ frame.messageType ∈ dynamicIds ∧ frame.payload.length % 4 = 0
      ∧ decode frame session.protocol = some (.ok message.asDecoded))
    ∧ ((∀ seconds priority text, message = displayPriorityNotify seconds priority text →
      priority.Canonical) → message.asDecoded = message) := by
  obtain ⟨id, body, hid, hshort, hwritten, hread⟩ := readBack message hdynamic hfits
  obtain ⟨hwire, hroute⟩ := dynamicIds_route hid
  have haligned := length_padDynamicPayload body
  obtain ⟨count, hcount, hpad⟩ := padDynamicPayload_eq body
  let frame := typedFrame id session.protocol.wire (padDynamicPayload body)
  have hpayload : frame.payload = padDynamicPayload body :=
    padTypedPayload_of_aligned id.wireValue haligned
  have htype : frame.messageType = id := hwire
  have hframe : message.toFrame session none = .ok frame := by
    unfold toFrame rejectNonStationRoute
    simp only [hwritten, hwire, hroute, bind, Except.bind]
    rfl
  have hlength : frame.payload.length ≤ 2003 := by
    rw [hpayload, hpad, List.length_append, List.length_replicate]
    omega
  obtain ⟨bytes, hbytes⟩ : ∃ bytes, frame.encode = .ok bytes := by
    unfold Frame.encode
    dsimp only
    rw [if_neg (by unfold usizeMax; omega), if_neg (by unfold MAX_FRAME_SIZE; omega),
      if_neg (by omega)]
    exact ⟨_, rfl⟩
  refine ⟨⟨frame, bytes, hframe, ?_, hbytes, ?_, ?_, ?_⟩, asDecoded_eq_self⟩
  · unfold encodeForSession encodeFrame
    simp only [hframe, bind, Except.bind, hbytes]
  · rw [htype]
    exact hid
  · rw [hpayload]
    exact haligned
  · unfold decode ensureStationRoute
    simp only [htype, hroute, if_true, hpayload]
    exact hread

/-- A name in the second field table of a call-information message. -/
theorem dynamic_texts_round_trip_callInfo :
    let message := callInfo ⟨.inbound, "Ada", "201", "", "202", "", "", "", "", 0, 4, 0⟩ 1 7
    (∃ frame bytes, message.toFrame ⟨⟨17, by decide⟩, 0⟩ none = .ok frame
      ∧ message.encodeForSession ⟨⟨17, by decide⟩, 0⟩ none = .ok bytes
      ∧ frame.encode = .ok bytes ∧ frame.messageType ∈ dynamicIds
      ∧ frame.payload.length % 4 = 0
      ∧ decode frame ⟨17, by decide⟩ = some (.ok message.asDecoded))
    ∧ ((∀ seconds priority text, message = displayPriorityNotify seconds priority text →
      priority.Canonical) → message.asDecoded = message) :=
  dynamic_texts_round_trip ⟨⟨17, by decide⟩, 0⟩
    (callInfo ⟨.inbound, "Ada", "201", "", "202", "", "", "", "", 0, 4, 0⟩ 1 7) rfl
    ⟨by unfold Fitting NulFree; decide, fun _ _ _ _ h => by cases h⟩

/-- `Unknown` of a number that has a name is decoded to the named priority. -/
theorem not_dynamic_texts_round_trip : ¬ ∀ (session : StationSessionContext)
    (message : StationTextMessage), message.SelectsDynamic session →
    message.Fits session.protocol → ∃ frame, message.toFrame session none = .ok frame
      ∧ decode frame session.protocol = some (.ok message) := by
  intro h
  obtain ⟨frame, hframe, hdecode⟩ := h ⟨⟨17, by decide⟩, 0⟩
    (displayPriorityNotify 10 (.unknown 6) "Hi") rfl
    ⟨by unfold Fitting NulFree; decide, fun _ _ _ _ h => by cases h⟩
  obtain rfl := Except.ok.inj hframe
  exact absurd hdecode (by decide +kernel)

end StationTextMessage

end Sccp.Message
