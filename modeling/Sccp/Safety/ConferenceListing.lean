/-
  Sccp.Safety.ConferenceListing

  Which conferences have a list that can be shown.

  The texts of a list always pass their checks: labels and URLs are short, and the characters of
  names are checked when they come in.  Only the size of the whole document can be too large; it
  is the sum of the sizes of the entries and of the fixed parts.
-/

import Sccp.Conference.Participants
import Sccp.Safety.ConferenceCallbacks

namespace Sccp.ConferenceList

variable {text : String} {action : ConferenceListAction}

/-! ## Sizes -/

theorem size_element (tag content : String) :
    (element tag content).utf8ByteSize = 2 * tag.utf8ByteSize + 5 + content.utf8ByteSize := by
  have hopen : "<".utf8ByteSize = 1 := rfl
  have hslash : "</".utf8ByteSize = 2 := rfl
  have hclose : ">".utf8ByteSize = 1 := rfl
  simp only [element, String.utf8ByteSize_append, hopen, hslash, hclose]
  omega

theorem size_join (texts : List String) :
    (String.join texts).utf8ByteSize = (texts.map String.utf8ByteSize).sum := by
  induction texts with
  | nil => rfl
  | cons text rest ih =>
    rw [String.join_cons, String.utf8ByteSize_append, ih, List.map_cons, List.sum_cons]

/-- A text without markup characters is not changed by escaping. -/
theorem escape_plain (h : ∀ c ∈ text.toList, c ≠ '&' ∧ c ≠ '<' ∧ c ≠ '>') : escape text = text := by
  have hchars : ∀ c ∈ text.toList, escapeChar c = [c] := by
    intro c hc
    obtain ⟨hamp, hlt, hgt⟩ := h c hc
    rw [escapeChar, if_neg hamp, if_neg hlt, if_neg hgt]
  unfold escape
  rw [List.flatMap_congr hchars, List.flatMap_singleton', String.ofList_toList]

/-- The number of digits of an identity. -/
def digits (id : UInt32) : Nat := (toString id.toNat).length

theorem size_toString (id : UInt32) : (toString id.toNat).utf8ByteSize = digits id := by
  rw [utf8ByteSize_of_isAlphanum fun c hc => by
    rw [Char.isAlphanum, isDigit_of_mem_toString hc, Bool.or_true]]
  exact String.length_toList

theorem digits_le (id : UInt32) : digits id ≤ 10 := by
  unfold digits
  rw [← String.length_toList, toString_toList]
  have hlt := id.toNat_lt
  exact (Nat.length_toDigits_le_iff (by decide) (by decide)).mpr (by omega)

/-! ## Texts -/

theorem validateOptionalText_ok {field : String} {maximum : Nat} (hlength : text.length ≤ maximum)
    (hchars : hasOnlyXmlCharacters text = true) :
    validateOptionalText field (some text) 0 maximum = .ok () := by
  unfold validateOptionalText
  simp only [Nat.zero_le, hlength, and_self, not_true_eq_false, if_false, hchars]

theorem hasOnlyXmlCharacters_append {first second : String} : hasOnlyXmlCharacters (first ++ second)
      = (hasOnlyXmlCharacters first && hasOnlyXmlCharacters second) := by
  unfold hasOnlyXmlCharacters
  rw [String.toList_append, List.all_append]

theorem hasOnlyXmlCharacters_toString (n : Nat) : hasOnlyXmlCharacters (toString n) = true := by
  unfold hasOnlyXmlCharacters
  refine List.all_eq_true.mpr fun c hc => ?_
  have hbounds := isAlphanum_bounds (c := c) (by
    rw [Char.isAlphanum, isDigit_of_mem_toString hc, Bool.or_true])
  simp only [Bool.or_eq_true, Bool.and_eq_true, decide_eq_true_eq]
  omega

/-- An entry within the limits that call information is cut to. -/
structure Admissible (entry : ConferenceListEntry) : Prop where
  nameSize : entry.name.utf8ByteSize ≤ 39
  name : hasOnlyXmlCharacters entry.name = true
  numberSize : entry.number.utf8ByteSize ≤ 23
  number : hasOnlyXmlCharacters entry.number = true

theorem length_le_utf8ByteSize (text : String) : text.length ≤ text.utf8ByteSize := by
  rw [utf8ByteSize_eq_sum, ← String.length_toList]
  induction text.toList with
  | nil => exact Nat.le_refl 0
  | cons c rest ih =>
    have hpos := c.utf8Size_pos
    rw [List.map_cons, List.sum_cons, List.length_cons]
    omega

/-- Trimming keeps a text within its limits. -/
theorem trim_within {limit : Nat} (hsize : text.utf8ByteSize ≤ limit)
    (hchars : hasOnlyXmlCharacters text = true) :
    (trim text).length ≤ limit ∧ hasOnlyXmlCharacters (trim text) = true := by
  obtain ⟨before, after, htext⟩ := toList_eq_trim text
  constructor
  · have hlength := congrArg List.length htext
    have hle := length_le_utf8ByteSize text
    simp only [List.length_append, String.length_toList] at hlength
    omega
  · unfold hasOnlyXmlCharacters at hchars ⊢
    rw [htext, List.all_append, List.all_append] at hchars
    exact (Bool.and_eq_true_iff.mp (Bool.and_eq_true_iff.mp hchars).1).2

theorem label_within {entry : ConferenceListEntry} (h : Admissible entry) :
    (conferenceParticipantLabel entry).length ≤ 64
      ∧ hasOnlyXmlCharacters (conferenceParticipantLabel entry) = true := by
  have hidentity : (identityText entry).length ≤ 39
      ∧ hasOnlyXmlCharacters (identityText entry) = true := by
    unfold identityText
    split
    · exact trim_within h.nameSize h.name
    · split
      · exact trim_within (Nat.le_trans h.numberSize (by decide)) h.number
      · decide
  unfold conferenceParticipantLabel
  simp only [String.length_append, hasOnlyXmlCharacters_append, hidentity.2, Bool.true_and]
  have hopen : " (".length = 2 := rfl
  have hclose : ")".length = 1 := rfl
  have hmoderator : "Moderator".length = 9 := rfl
  have hparticipant : "Participant".length = 11 := rfl
  have hmuted : ", muted".length = 7 := rfl
  have hempty : "".length = 0 := rfl
  have hle := hidentity.1
  cases entry.moderator <;> cases entry.muted <;>
    simp only [Bool.false_eq_true, if_true, if_false, hopen, hclose, hmoderator, hparticipant,
      hmuted, hempty] <;> exact ⟨by omega, by decide⟩

theorem mem_url {c : Char} (h : c ∈ action.url.toList) :
    c.isAlphanum = true ∨ c = '/' ∨ c = ':' := by
  rw [action.url_eq, String.toList_append, List.mem_append] at h
  rcases h with hstart | hpath
  · have hchars : ∀ c ∈ ConferenceListAction.urlStart.toList, c.isAlphanum = true ∨ c = ':' :=
      ConferenceListAction.forall_chars (by decide)
    exact (hchars c hstart).imp_right .inr
  · exact (action.mem_path hpath).imp_right .inl

theorem escape_url (action : ConferenceListAction) : escape action.url = action.url := by
  refine escape_plain fun c hc => ?_
  rcases mem_url hc with h | rfl | rfl
  · refine ⟨?_, ?_, ?_⟩ <;>
    · rintro rfl
      exact absurd h (by decide)
  · decide
  · decide

theorem size_participantUrl (conferenceId participantId : UInt32) :
    (ConferenceListAction.participant conferenceId participantId).url.utf8ByteSize
      = 40 + digits conferenceId + digits participantId := by
  have hstart : ConferenceListAction.urlStart.utf8ByteSize = 16 := by decide
  have hconference : "conference/".utf8ByteSize = 11 := rfl
  have hparticipant : "/participant/".utf8ByteSize = 13 := rfl
  simp only [ConferenceListAction.url, ConferenceListAction.participantUrl,
    String.utf8ByteSize_append, size_toString, hstart, hconference, hparticipant,
    String.append_empty]
  omega

theorem size_endUrl (conferenceId : UInt32) :
    (ConferenceListAction.end conferenceId).url.utf8ByteSize = 31 + digits conferenceId := by
  have hstart : ConferenceListAction.urlStart.utf8ByteSize = 16 := by decide
  have hconference : "conference/".utf8ByteSize = 11 := rfl
  have hend : "/end".utf8ByteSize = 4 := rfl
  simp only [ConferenceListAction.url, String.utf8ByteSize_append, size_toString, hstart,
    hconference, hend]
  omega

theorem url_within (h : action.url.utf8ByteSize ≤ 60) :
    action.url.length ≤ PHONE_XML_URL_MAX_CHARS ∧ hasOnlyXmlCharacters action.url = true := by
  refine ⟨Nat.le_trans (length_le_utf8ByteSize _) (Nat.le_trans h (by decide)), ?_⟩
  unfold hasOnlyXmlCharacters
  refine List.all_eq_true.mpr fun c hc => ?_
  rcases mem_url hc with h | rfl | rfl
  · have hbounds := isAlphanum_bounds h
    simp only [Bool.or_eq_true, Bool.and_eq_true, decide_eq_true_eq]
    omega
  · decide
  · decide

/-! ## Documents -/

/-- A conference that the module admits, with the information its list shows. -/
structure Roster where
  entries : List ConferenceListEntry
  nonempty : entries ≠ []
  admitted : entries.length ≤ maxConferenceParticipants
  admissible : ∀ entry ∈ entries, Admissible entry

theorem forM_ok {ε α : Type} {f : α → Except ε PUnit} {l : List α} (h : ∀ x ∈ l, f x = .ok ()) :
    l.forM f = .ok () := by
  induction l with
  | nil => rfl
  | cons x rest ih =>
    show (f x >>= fun _ => rest.forM f) = .ok ()
    rw [h x (List.mem_cons_self ..)]
    exact ih fun y hy => h y (List.mem_cons_of_mem _ hy)

variable (conferenceId : UInt32)

def titleText : String := "Conference " ++ toString conferenceId.toNat

variable (entries : List ConferenceListEntry)

/-- The callbacks of a list in display order. -/
def listActions : List ConferenceListAction :=
  entries.map (fun entry => .participant conferenceId entry.participantId) ++ [.end conferenceId]

def menuOf : CiscoIpPhoneMenu where
  title := some (titleText conferenceId)
  prompt := some "Select a participant"
  items := entries.map (fun entry => ⟨some (conferenceParticipantLabel entry),
      some (ConferenceListAction.participant conferenceId entry.participantId).url⟩)
    ++ [⟨some "End conference", some (ConferenceListAction.end conferenceId).url⟩]

def iconMenuOf : CiscoIpPhoneIconMenu where
  title := some (titleText conferenceId)
  prompt := some "Select a participant"
  items := entries.map (fun entry => ⟨some (conferenceParticipantLabel entry),
      some (ConferenceListAction.participant conferenceId entry.participantId).url,
      some (if entry.moderator then 1 else 0)⟩)
    ++ [⟨some "End conference", some (ConferenceListAction.end conferenceId).url, some 0⟩]
  icons := conferenceIcons

theorem displayable_valid :
    validateDisplayable (some (titleText conferenceId)) (some "Select a participant") = .ok () := by
  have htitle : validateOptionalText "display title" (some (titleText conferenceId)) 0 32
      = .ok () := by
    refine validateOptionalText_ok ?_ ?_
    · have hdigits := digits_le conferenceId
      have hword : "Conference ".length = 11 := rfl
      unfold digits at hdigits
      rw [titleText, String.length_append, hword]
      omega
    · rw [titleText, hasOnlyXmlCharacters_append, hasOnlyXmlCharacters_toString]
      decide
  unfold validateDisplayable
  rw [htitle]
  decide

/-- The texts of an entry pass their checks. -/
theorem texts_valid (nameField urlField : String) {label : String}
    (hlabel : label.length ≤ 64 ∧ hasOnlyXmlCharacters label = true)
    (haction : action ∈ listActions conferenceId [] ∨ ∃ id, action = .participant conferenceId id) :
    validateOptionalText nameField (some label) 0 64 = .ok ()
      ∧ validateOptionalText urlField (some action.url) 0 PHONE_XML_URL_MAX_CHARS = .ok () := by
  have hdigits := digits_le conferenceId
  have hurl : action.url.utf8ByteSize ≤ 60 := by
    rcases haction with hend | ⟨id, rfl⟩
    · rw [List.mem_singleton.mp hend, size_endUrl]
      omega
    · have hid := digits_le id
      rw [size_participantUrl]
      omega
  exact ⟨validateOptionalText_ok hlabel.1 hlabel.2,
    validateOptionalText_ok (url_within hurl).1 (url_within hurl).2⟩

/-- The rows of a roster, one for each participant and a last one, are not too many. -/
theorem count_valid {Row : Type} (roster : Roster) (name : String) (f : ConferenceListEntry → Row)
    (last : Row) {max : Nat} (hmax : 17 ≤ max) :
    validateCount name (roster.entries.map f ++ [last]).length max = .ok () := by
  have hle : roster.entries.length ≤ 16 := roster.admitted
  rw [validateCount, if_neg]
  simp only [List.length_append, List.length_map, List.length_singleton]
  omega

theorem end_within : "End conference".length ≤ 64
    ∧ hasOnlyXmlCharacters "End conference" = true := by decide

theorem menu_valid (roster : Roster) : (menuOf conferenceId roster.entries).validate = .ok () := by
  unfold CiscoIpPhoneMenu.validate
  simp only [menuOf]
  rw [displayable_valid, count_valid roster _ _ _ (by decide)]
  refine forM_ok fun item hitem => ?_
  rcases List.mem_append.mp hitem with hmem | hmem
  · obtain ⟨entry, hentry, rfl⟩ := List.mem_map.mp hmem
    obtain ⟨hname, hurl⟩ := texts_valid conferenceId "menu item name" "menu item URL"
      (label_within (roster.admissible entry hentry)) (.inr ⟨entry.participantId, rfl⟩)
    simp only [hname, hurl]
    rfl
  rw [List.mem_singleton.mp hmem]
  obtain ⟨hname, hurl⟩ := texts_valid conferenceId "menu item name" "menu item URL" end_within
    (.inl (List.mem_singleton_self _))
  simp only [hname, hurl]
  rfl

theorem iconMenu_valid (roster : Roster) :
    (iconMenuOf conferenceId roster.entries).validate = .ok () := by
  have hitems : validateIconMenuItems (iconMenuOf conferenceId roster.entries).items = .ok () := by
    unfold validateIconMenuItems
    simp only [iconMenuOf]
    rw [count_valid roster _ _ _ (by decide)]
    refine forM_ok fun item hitem => ?_
    rcases List.mem_append.mp hitem with hmem | hmem
    · obtain ⟨entry, hentry, rfl⟩ := List.mem_map.mp hmem
      obtain ⟨hname, hurl⟩ := texts_valid conferenceId "icon menu item name" "icon menu item URL"
        (label_within (roster.admissible entry hentry)) (.inr ⟨entry.participantId, rfl⟩)
      simp only [hname, hurl]
      cases entry.moderator <;> rfl
    rw [List.mem_singleton.mp hmem]
    obtain ⟨hname, hurl⟩ := texts_valid conferenceId "icon menu item name" "icon menu item URL"
      end_within (.inl (List.mem_singleton_self _))
    simp only [hname, hurl]
    rfl
  have hicons : conferenceIcons.forM validateBitmapIcon = .ok () := by decide
  unfold CiscoIpPhoneIconMenu.validate
  rw [hitems]
  simp only [iconMenuOf]
  rw [displayable_valid, hicons]
  rfl

def documentOf : ConferenceMenuFamily → ConferenceListDocument
  | .menu => .menu (menuOf conferenceId entries)
  | .iconMenu => .iconMenu (iconMenuOf conferenceId entries)

/-- Every admitted conference has a document. -/
theorem new_eq (roster : Roster) (family : ConferenceMenuFamily) :
    ConferenceListDocument.new conferenceId roster.entries family
      = .ok (documentOf conferenceId roster.entries family) := by
  have hmenu : CiscoIpPhoneMenu.new (titleText conferenceId) "Select a participant"
      (menuOf conferenceId roster.entries).items = .ok (menuOf conferenceId roster.entries) := by
    show (menuOf conferenceId roster.entries).validate >>= _ = _
    rw [menu_valid]
    rfl
  have hiconMenu : CiscoIpPhoneIconMenu.new (titleText conferenceId) "Select a participant"
      (iconMenuOf conferenceId roster.entries).items conferenceIcons
        = .ok (iconMenuOf conferenceId roster.entries) := by
    show (iconMenuOf conferenceId roster.entries).validate >>= _ = _
    rw [iconMenu_valid]
    rfl
  unfold ConferenceListDocument.new
  have hle : ¬ roster.entries.length > CONFERENCE_LIST_MAX_PARTICIPANTS :=
    Nat.not_lt.mpr roster.admitted
  rw [if_neg hle]
  simp only [if_neg roster.nonempty]
  cases family with
  | menu => exact congrArg (Except.map ConferenceListDocument.menu) hmenu
  | iconMenu => exact congrArg (Except.map ConferenceListDocument.iconMenu) hiconMenu

theorem filterMap_entries {α β γ : Type} {f : α → β} {last : β} {g : β → Option γ} {h : α → γ}
    {end' : γ} (hf : ∀ a, g (f a) = some (h a)) (hlast : g last = some end') (l : List α) :
    (l.map f ++ [last]).filterMap g = l.map h ++ [end'] := by
  induction l with
  | nil => exact List.filterMap_cons_some hlast
  | cons a rest ih =>
    rw [List.map_cons, List.cons_append, List.filterMap_cons_some (hf a), ih]
    rfl

theorem actions_eq (family : ConferenceMenuFamily) :
    (documentOf conferenceId entries family).actions = listActions conferenceId entries := by
  have hparse : ∀ action : ConferenceListAction,
      ConferenceListAction.parse action.url = some action := by
    intro action
    have h := action.parse_url "" "" (by simp) (by simp)
    rwa [String.empty_append, String.append_empty] at h
  have hactions := filterMap_entries (fun entry : ConferenceListEntry =>
    hparse (.participant conferenceId entry.participantId)) (hparse (.end conferenceId)) entries
  cases family with
  | menu =>
    have hurls : (menuOf conferenceId entries).items.filterMap (·.url)
        = entries.map (fun entry => (ConferenceListAction.participant conferenceId
          entry.participantId).url) ++ [(ConferenceListAction.end conferenceId).url] :=
      filterMap_entries (g := fun item : CiscoIpPhoneMenuItem => item.url) (fun _ => rfl) rfl
        entries
    rw [documentOf, ConferenceListDocument.actions, hurls]
    exact hactions
  | iconMenu =>
    have hurls : (iconMenuOf conferenceId entries).items.filterMap (·.url)
        = entries.map (fun entry => (ConferenceListAction.participant conferenceId
          entry.participantId).url) ++ [(ConferenceListAction.end conferenceId).url] :=
      filterMap_entries (g := fun item : CiscoIpPhoneIconMenuItem => item.url) (fun _ => rfl) rfl
        entries
    rw [documentOf, ConferenceListDocument.actions, hurls]
    exact hactions

/-! ## Which lists can be shown -/

/-- The bytes of a list: the fixed parts, and for each participant the fixed parts of an entry,
    the label as it is escaped, and the digits of the two identities. -/
def listBytes : ConferenceMenuFamily → Nat
  | .menu => 190 + 2 * digits conferenceId + (entries.map fun entry =>
      85 + digits conferenceId + digits entry.participantId
        + (escape (conferenceParticipantLabel entry)).utf8ByteSize).sum
  | .iconMenu => 478 + 2 * digits conferenceId + (entries.map fun entry =>
      109 + digits conferenceId + digits entry.participantId
        + (escape (conferenceParticipantLabel entry)).utf8ByteSize).sum

/-- The list of a conference can be shown: it has a document with one entry for each participant
    and one to end the conference, and the document can be written. -/
def Shown (family : ConferenceMenuFamily) : Prop :=
  ∃ document xml, ConferenceListDocument.new conferenceId entries family = .ok document
    ∧ document.toXml = .ok xml ∧ document.actions = listActions conferenceId entries

theorem size_title (conferenceId : UInt32) :
    (optionalElement "Title" (some (titleText conferenceId))).utf8ByteSize
      = 26 + digits conferenceId := by
  have htag : "Title".utf8ByteSize = 5 := rfl
  have hword : "Conference ".utf8ByteSize = 11 := rfl
  have hplain : escape (titleText conferenceId) = titleText conferenceId := by
    refine escape_plain fun c hc => ?_
    rw [titleText, String.toList_append, List.mem_append] at hc
    rcases hc with hc | hc
    · exact (ConferenceListAction.forall_chars (by decide) :
        ∀ c ∈ "Conference ".toList, c ≠ '&' ∧ c ≠ '<' ∧ c ≠ '>') c hc
    have hdigit := isDigit_of_mem_toString hc
    refine ⟨?_, ?_, ?_⟩ <;>
    · rintro rfl
      exact absurd hdigit (by decide)
  rw [optionalElement, size_element, hplain, titleText, String.utf8ByteSize_append, size_toString,
    htag, hword]
  omega

/-- The name and the callback of an entry. -/
theorem size_nameUrl (label : String) (action : ConferenceListAction) :
    (optionalElement "Name" (some label) ++ optionalElement "URL" (some action.url)).utf8ByteSize
      = 24 + (escape label).utf8ByteSize + action.url.utf8ByteSize := by
  have hname : "Name".utf8ByteSize = 4 := rfl
  have hurl : "URL".utf8ByteSize = 3 := rfl
  rw [String.utf8ByteSize_append, optionalElement, optionalElement, size_element, size_element,
    hname, hurl, escape_url]
  omega

theorem size_iconIndex (index : UInt16) (h : index = 0 ∨ index = 1) :
    (numberElement "IconIndex" index).utf8ByteSize = 24 := by
  rcases h with rfl | rfl <;> decide

/-- The written entries, and then the last one. -/
theorem size_entries {α β : Type} {f : α → β} {b : β} {g : β → String} {k : α → Nat}
    (h : ∀ a, (g (f a)).utf8ByteSize = k a) (l : List α) :
    (String.join ((l.map f ++ [b]).map g)).utf8ByteSize = (l.map k).sum + (g b).utf8ByteSize := by
  have hmap : l.map (fun a => (g (f a)).utf8ByteSize) = l.map k :=
    List.map_congr_left fun a _ => h a
  rw [size_join, ← hmap]
  simp only [List.map_append, List.map_map, List.sum_append, Function.comp_def, List.map_cons,
    List.map_nil, List.sum_cons, List.sum_nil, Nat.add_zero]

theorem size_prompt :
    (optionalElement "Prompt" (some "Select a participant")).utf8ByteSize = 37 := by
  decide

theorem size_endName : (escape "End conference").utf8ByteSize = 14 := by decide

/-- A written menu has the bytes of the list. -/
theorem size_menu :
    (menuOf conferenceId entries).xml.utf8ByteSize = listBytes conferenceId entries .menu := by
  have htag : "CiscoIPPhoneMenu".utf8ByteSize = 16 := rfl
  have hitem : "MenuItem".utf8ByteSize = 8 := rfl
  have hentries := size_entries (f := fun entry : ConferenceListEntry => CiscoIpPhoneMenuItem.mk
      (some (conferenceParticipantLabel entry))
      (some (ConferenceListAction.participant conferenceId entry.participantId).url))
    (g := CiscoIpPhoneMenuItem.xml)
    (b := ⟨some "End conference", some (ConferenceListAction.end conferenceId).url⟩)
    (k := fun entry => 85 + digits conferenceId + digits entry.participantId
      + (escape (conferenceParticipantLabel entry)).utf8ByteSize) (fun entry => by
        rw [CiscoIpPhoneMenuItem.xml, size_element, hitem, size_nameUrl, size_participantUrl]
        omega) entries
  rw [CiscoIpPhoneMenu.xml, size_element, htag, String.utf8ByteSize_append,
    String.utf8ByteSize_append]
  simp only [menuOf]
  rw [size_title, size_prompt, hentries, CiscoIpPhoneMenuItem.xml, size_element, hitem,
    size_nameUrl, size_endName, size_endUrl, listBytes]
  omega

theorem size_iconMenu :
    (iconMenuOf conferenceId entries).xml.utf8ByteSize
      = listBytes conferenceId entries .iconMenu := by
  have htag : "CiscoIPPhoneIconMenu".utf8ByteSize = 20 := rfl
  have hitem : "MenuItem".utf8ByteSize = 8 := rfl
  have hicons : (String.join (conferenceIcons.map (·.xml))).utf8ByteSize = 256 := by decide +kernel
  have hentries := size_entries (f := fun entry : ConferenceListEntry => CiscoIpPhoneIconMenuItem.mk
      (some (conferenceParticipantLabel entry))
      (some (ConferenceListAction.participant conferenceId entry.participantId).url)
      (some (if entry.moderator then 1 else 0))) (g := CiscoIpPhoneIconMenuItem.xml)
    (b := ⟨some "End conference", some (ConferenceListAction.end conferenceId).url, some 0⟩)
    (k := fun entry => 109 + digits conferenceId + digits entry.participantId
      + (escape (conferenceParticipantLabel entry)).utf8ByteSize) (fun entry => by
        rw [CiscoIpPhoneIconMenuItem.xml, size_element, hitem, String.utf8ByteSize_append,
          size_nameUrl, size_participantUrl, Option.map_some, Option.getD_some, size_iconIndex]
        · omega
        · cases entry.moderator
          · exact .inl rfl
          · exact .inr rfl) entries
  rw [CiscoIpPhoneIconMenu.xml, size_element, htag, String.utf8ByteSize_append,
    String.utf8ByteSize_append, String.utf8ByteSize_append]
  simp only [iconMenuOf]
  rw [size_title, size_prompt, hicons, hentries, CiscoIpPhoneIconMenuItem.xml, size_element, hitem,
    String.utf8ByteSize_append, size_nameUrl, size_endName, size_endUrl, Option.map_some,
    Option.getD_some, size_iconIndex 0 (.inl rfl), listBytes]
  omega

theorem bounded_ok {xml : String} {maximum : Nat} :
    bounded xml maximum = .ok text ↔ text = xml ∧ xml.utf8ByteSize ≤ maximum := by
  unfold bounded
  split
  · next h => exact ⟨nofun, fun h' => absurd h'.2 (Nat.not_le.mpr h)⟩
  · next h => exact ⟨fun h' => ⟨(Except.ok.inj h').symm, Nat.not_lt.mp h⟩, fun h' => by rw [h'.1]⟩

/-- A document is written just when it has at most as many bytes as a document may have. -/
theorem written_iff (conferenceId : UInt32) (roster : Roster) (family : ConferenceMenuFamily) :
    (∃ xml, (documentOf conferenceId roster.entries family).toXml = .ok xml)
      ↔ listBytes conferenceId roster.entries family ≤ CONFERENCE_LIST_MAX_BYTES := by
  cases family with
  | menu =>
    rw [← size_menu, documentOf, ConferenceListDocument.toXml, menu_valid]
    simp only [bind, Except.bind, bounded_ok, exists_and_right, exists_eq, true_and]
  | iconMenu =>
    rw [← size_iconMenu, documentOf, ConferenceListDocument.toXml, iconMenu_valid]
    simp only [bind, Except.bind, bounded_ok, exists_and_right, exists_eq, true_and]

/-- The list of an admitted conference can be shown if and only if it has at most as many bytes
    as a document may have. -/
theorem shown_iff (conferenceId : UInt32) (roster : Roster) (family : ConferenceMenuFamily) :
    Shown conferenceId roster.entries family
      ↔ listBytes conferenceId roster.entries family ≤ CONFERENCE_LIST_MAX_BYTES := by
  rw [← written_iff]
  constructor
  · rintro ⟨document, xml, hnew, hdocument, -⟩
    rw [new_eq conferenceId roster family] at hnew
    obtain rfl := Except.ok.inj hnew
    exact ⟨xml, hdocument⟩
  · rintro ⟨xml, hdocument⟩
    exact ⟨_, xml, new_eq conferenceId roster family, hdocument,
      actions_eq conferenceId roster.entries family⟩

/-- A full conference of unnamed participants. -/
def fullRoster : Roster where
  entries := (List.range 16).map fun i => ⟨UInt32.ofNat i, "", "", i = 0, false⟩
  nonempty := by decide
  admitted := by decide
  admissible := by
    intro entry hentry
    obtain ⟨i, -, rfl⟩ := List.mem_map.mp hentry
    have hempty : "".utf8ByteSize = 0 := rfl
    exact ⟨by rw [hempty]; omega, rfl, by rw [hempty]; omega, rfl⟩

theorem size_unnamedLabel (id : UInt32) (moderator : Bool) :
    (escape (conferenceParticipantLabel ⟨id, "", "", moderator, false⟩)).utf8ByteSize
      = if moderator then 31 else 33 := by
  have hlabel : conferenceParticipantLabel ⟨id, "", "", moderator, false⟩
      = conferenceParticipantLabel ⟨0, "", "", moderator, false⟩ := by
    simp only [conferenceParticipantLabel, identityText]
  rw [hlabel]
  cases moderator <;> decide

theorem listBytes_unnamed (conferenceId : UInt32) (ids : List Nat) :
    listBytes conferenceId (ids.map fun i => ⟨UInt32.ofNat i, "", "", i = 0, false⟩) .menu
      = 190 + 2 * digits conferenceId + (ids.map fun i =>
          85 + digits conferenceId + digits (UInt32.ofNat i) + if i = 0 then 31 else 33).sum := by
  rw [listBytes, List.map_map]
  simp only [Function.comp_def, size_unnamedLabel, decide_eq_true_eq]

/-- Its list is too large. -/
theorem fullRoster_unshown : ¬ Shown 1 fullRoster.entries .menu := by
  rintro ⟨document, xml, hnew, hdocument, -⟩
  rw [new_eq 1 fullRoster .menu] at hnew
  obtain rfl := Except.ok.inj hnew
  have hsize : listBytes 1 fullRoster.entries .menu = 2116 :=
    (listBytes_unnamed 1 (List.range 16)).trans (by decide)
  have hwritten := (written_iff 1 fullRoster .menu).mp ⟨xml, hdocument⟩
  rw [hsize] at hwritten
  exact absurd hwritten (by decide)

end Sccp.ConferenceList
