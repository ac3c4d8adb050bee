/-
  Sccp.Safety.ConferenceCallbacks

  Callbacks of the conference list come back as they were sent.

  A callback is a path of plain segments, so that splitting, trimming and percent decoding give
  the segments back, and the two readers take the same segments for the same action.
-/

import Sccp.Message.PhoneService
import Mathlib.Data.List.DropRight

namespace Sccp.ConferenceList

open Sccp.Config (split split_intercalate)
open Sccp.Features (stripPrefix isControl)

/-! ## Trimming -/

/-- Padding at both ends is taken off a list that neither begins nor ends with it. -/
theorem drop_padding {α : Type} {p q : α → Bool} (front l back : List α)
    (hfront : ∀ x ∈ front, p x = true) (hback : ∀ x ∈ back, q x = true)
    {first last : α} (hfirst : l.head? = some first) (hp : p first = false)
    (hlast : l.getLast? = some last) (hq : q last = false) :
    ((front ++ (l ++ back)).dropWhile p).rdropWhile q = l := by
  have hhead : (front ++ (l ++ back)).dropWhile p = l ++ back := by
    rw [List.dropWhile_append_of_pos hfront]
    obtain ⟨rest, rfl⟩ : ∃ rest, l = first :: rest := by
      cases l with
      | nil => exact nomatch hfirst
      | cons a rest => exact ⟨rest, by rw [Option.some.inj hfirst]⟩
    exact List.dropWhile_cons_of_neg (by rw [hp]; exact Bool.false_ne_true)
  obtain ⟨rest, rfl⟩ : ∃ rest, l = rest ++ [last] := List.getLast?_eq_some_iff.mp hlast
  rw [hhead, List.rdropWhile, List.reverse_append,
    List.dropWhile_append_of_pos fun x hx => hback x (List.mem_reverse.mp hx),
    List.reverse_append, List.reverse_singleton, List.singleton_append,
    List.dropWhile_cons_of_neg (by rw [hq]; exact Bool.false_ne_true), List.reverse_cons,
    List.reverse_reverse]

/-- Both ends of a list without padding are clear of it. -/
theorem drop_padding_of_clear {α : Type} {p q : α → Bool} (front l back : List α)
    (hfront : ∀ x ∈ front, p x = true) (hback : ∀ x ∈ back, q x = true) (hne : l ≠ [])
    (hclear : ∀ x ∈ l, p x = false ∧ q x = false) :
    ((front ++ (l ++ back)).dropWhile p).rdropWhile q = l :=
  drop_padding front l back hfront hback (List.head?_eq_some_head hne)
    (hclear _ (List.head_mem hne)).1
    (List.getLast?_eq_some_getLast hne) (hclear _ (List.getLast_mem hne)).2

theorem stripPrefix_append (start rest : String) :
    stripPrefix start (start ++ rest) = some rest := by
  unfold stripPrefix
  rw [String.toList_append, if_pos (List.prefix_append _ _), List.drop_left, String.ofList_toList]

/-! ## Numbers -/

theorem toString_toList (n : Nat) : (toString n).toList = Nat.toDigits 10 n := Nat.toList_repr

theorem isDigit_of_mem_toString {n : Nat} {c : Char} (h : c ∈ (toString n).toList) :
    c.isDigit = true :=
  Nat.isDigit_of_mem_toDigits (by decide) (by decide) (toString_toList n ▸ h)

theorem toString_ne_nil (n : Nat) : (toString n).toList ≠ [] := by
  rw [toString_toList]
  exact Nat.toDigits_ne_nil

theorem parseUnsigned_toString {bits n : Nat} (h : n < 2 ^ bits) :
    parseUnsigned bits (toString n) = some n := by
  have hhead : (toString n).toList.head? ≠ some '+' := fun hplus =>
    absurd (isDigit_of_mem_toString (List.mem_of_mem_head? hplus)) (by decide)
  have hdigits : (toString n).toList.all Char.isDigit = true :=
    List.all_eq_true.mpr fun c hc => isDigit_of_mem_toString hc
  have hvalue : Nat.ofDigitChars 10 (toString n).toList 0 = n := by
    rw [toString_toList, Nat.ofDigitChars_ten_toDigits]
  unfold parseUnsigned
  simp only [if_neg hhead, toString_ne_nil, hdigits, hvalue, if_pos h, Bool.true_eq_false,
    or_self, if_false]

theorem isAlphanum_bounds {c : Char} (h : c.isAlphanum = true) :
    0x30 ≤ c.toNat ∧ c.toNat ≤ 0x7a := by
  change (decide (c.val ≥ 65 ∧ c.val ≤ 90) || (c.val ≥ 97 && c.val ≤ 122) || c.isDigit) = true at h
  simp only [Char.isDigit, Bool.or_eq_true, Bool.and_eq_true, decide_eq_true_eq, ge_iff_le,
    UInt32.le_iff_toNat_le] at h
  have hval : c.toNat = c.val.toNat := rfl
  rcases h with (⟨h, h'⟩ | ⟨h, h'⟩) | ⟨h, h'⟩ <;>
  · simp at h h'
    omega

/-- Letters and digits take one byte each. -/
theorem utf8ByteSize_of_isAlphanum {text : String} (h : ∀ c ∈ text.toList, c.isAlphanum = true) :
    text.utf8ByteSize = text.toList.length := by
  have hone : ∀ c ∈ text.toList, c.utf8Size = 1 := by
    intro c hc
    have hle : c.val.toNat ≤ 0x7f := Nat.le_trans (isAlphanum_bounds (h c hc)).2 (by decide)
    unfold Char.utf8Size
    rw [if_pos (UInt32.le_iff_toNat_le.mpr hle)]
  rw [utf8ByteSize_eq_sum, List.map_congr_left hone, List.map_const',
    List.sum_replicate_nat, Nat.mul_one]

namespace ConferenceListAction

variable {action : ConferenceListAction} {segment : String}

theorem parseId_toString (id : UInt32) : parseId (toString id.toNat) = some id := by
  unfold parseId
  rw [parseUnsigned_toString id.toNat_lt, Option.map_some, UInt32.ofNat_toNat]

/-! ## Paths -/

/-- The segments of the path of a callback. -/
def segments : ConferenceListAction → List String
  | .participant c p => ["conference", toString c.toNat, "participant", toString p.toNat]
  | .mute c p => ["conference", toString c.toNat, "participant", toString p.toNat, "mute"]
  | .unmute c p => ["conference", toString c.toNat, "participant", toString p.toNat, "unmute"]
  | .remove c p => ["conference", toString c.toNat, "participant", toString p.toNat, "remove"]
  | .promote c p => ["conference", toString c.toNat, "participant", toString p.toNat, "promote"]
  | .demote c p => ["conference", toString c.toNat, "participant", toString p.toNat, "demote"]
  | .end c => ["conference", toString c.toNat, "end"]

/-- The bare `conference/...` path of a callback. -/
def path (action : ConferenceListAction) : String := "/".intercalate action.segments

theorem url_eq (action : ConferenceListAction) : action.url = urlStart ++ action.path := by
  apply String.toList_inj.mp
  cases action <;> simp [url, participantUrl, path, segments]

theorem fromRoute_segments (action : ConferenceListAction) :
    fromRoute action.segments = some action := by
  cases action <;>
    simp only [segments, fromRoute, ne_eq, not_true_eq_false, if_false, parseId_toString,
      Option.bind_some, ofSegments, Option.map_some]

/-- What holds of the characters of a text is read off the text. -/
theorem forall_chars {p : Char → Prop} [DecidablePred p] {l : List Char}
    (h : l.all (fun c => decide (p c)) = true) : ∀ c ∈ l, p c :=
  fun c hc => of_decide_eq_true (List.all_eq_true.mp h c hc)

/-- The words of a path. -/
def words : List String :=
  ["conference", "participant", "mute", "unmute", "remove", "promote", "demote", "end"]

theorem mem_segments (h : segment ∈ action.segments) :
    segment ∈ words ∨ ∃ id : UInt32, segment = toString id.toNat := by
  cases action <;>
    simp only [segments, words, List.mem_cons, List.not_mem_nil, or_false] at h ⊢ <;> grind

/-- A segment has one to eleven letters and digits. -/
theorem segment_plain (h : segment ∈ action.segments) :
    segment.toList ≠ [] ∧ segment.toList.length ≤ 11
      ∧ ∀ c ∈ segment.toList, c.isAlphanum = true := by
  rcases mem_segments h with hword | ⟨id, rfl⟩
  · have hwords : ∀ word ∈ words, word.toList ≠ [] ∧ word.toList.length ≤ 11
        ∧ word.toList.all Char.isAlphanum = true := by decide
    exact (hwords segment hword).imp_right (·.imp_right List.all_eq_true.mp)
  refine ⟨toString_ne_nil _, ?_, fun c hc => ?_⟩
  · rw [toString_toList]
    have hlt := id.toNat_lt
    exact (Nat.length_toDigits_le_iff (by decide) (by decide)).mpr (by omega)
  · rw [Char.isAlphanum, isDigit_of_mem_toString hc, Bool.or_true]

theorem mem_intercalate {α : Type} {x : α} {separator : List α} {parts : List (List α)}
    (h : x ∈ separator.intercalate parts) : x ∈ separator ∨ ∃ part ∈ parts, x ∈ part := by
  induction parts with
  | nil => exact nomatch h
  | cons part rest ih =>
    cases rest with
    | nil => exact .inr ⟨part, List.mem_cons_self .., by simpa [List.intercalate] using h⟩
    | cons next rest =>
      have hsplit : x ∈ part ∨ x ∈ separator ∨ x ∈ separator.intercalate (next :: rest) := by
        simpa [List.intercalate] using h
      rcases hsplit with hx | hx | hx
      · exact .inr ⟨part, List.mem_cons_self .., hx⟩
      · exact .inl hx
      · rcases ih hx with hx | ⟨part', hpart', hx⟩
        · exact .inl hx
        · exact .inr ⟨part', List.mem_cons_of_mem _ hpart', hx⟩

theorem mem_intercalate_of_mem {α : Type} {x : α} {separator part : List α} {parts : List (List α)}
    (hpart : part ∈ parts) (hx : x ∈ part) : x ∈ separator.intercalate parts := by
  induction parts with
  | nil => exact nomatch hpart
  | cons first rest ih =>
    rcases List.mem_cons.mp hpart with rfl | hpart
    · cases rest <;> simp [List.intercalate, hx]
    cases rest with
    | nil => exact nomatch hpart
    | cons next rest =>
      have hrest := ih hpart
      simp only [List.intercalate] at hrest
      simp [List.intercalate, hrest]

/-- A path is made of letters, digits and slashes. -/
theorem mem_path {c : Char} (h : c ∈ action.path.toList) : c.isAlphanum = true ∨ c = '/' := by
  unfold path at h
  rw [String.toList_intercalate] at h
  rcases mem_intercalate h with hslash | ⟨part, hpart, hc⟩
  · exact .inr (List.mem_singleton.mp hslash)
  · obtain ⟨segment, hsegment, rfl⟩ := List.mem_map.mp hpart
    exact .inl ((segment_plain hsegment).2.2 c hc)

theorem path_eq (action : ConferenceListAction) : ∃ rest, action.path = "conference/" ++ rest := by
  refine ⟨"/".intercalate action.segments.tail, String.toList_inj.mp ?_⟩
  cases action <;> simp [path, segments]

theorem split_path (action : ConferenceListAction) : split action.path '/' = action.segments := by
  refine split_intercalate action.segments '/' (fun segment hsegment hslash => ?_) ?_
  · exact absurd ((segment_plain hsegment).2.2 '/' hslash) (by decide)
  · cases action <;> exact List.cons_ne_nil _ _

theorem not_isPadding {c : Char} (h : c.isAlphanum = true ∨ c = '/') : isPadding c = false := by
  apply Bool.eq_false_of_not_eq_true
  intro hpadding
  simp only [isPadding, Bool.or_eq_true, decide_eq_true_eq] at hpadding
  rcases hpadding with ((rfl | rfl) | rfl) | rfl <;> exact absurd h (by decide)

/-- A text that starts with the segment of a conference, but for the slash. -/
theorem split_conference (rest : String) :
    split ("conference/" ++ rest) '/' = "conference" :: split rest '/' := by
  have hhead : ("conference/" ++ rest).toList = "conference".toList ++ '/' :: rest.toList := by
    rw [String.toList_append]
    rfl
  unfold split
  rw [hhead, List.splitOn_eq_splitOnP,
    List.splitOnP_append_cons_of_forall_mem (forall_chars (by decide)) _ rfl, List.map_cons]
  rfl

theorem stripPrefix_urlStart (rest : String) :
    stripPrefix urlStart ("conference/" ++ rest) = none := by
  unfold stripPrefix
  rw [if_neg]
  intro hprefix
  rw [String.toList_append] at hprefix
  have hlist : urlStart.toList = 'U' :: urlStart.toList.tail := by decide
  rw [hlist] at hprefix
  exact absurd (List.cons_prefix_cons.mp hprefix).1 (by decide)

/-- Without the start of a URL, the two readers agree on the segments. -/
theorem parse_of_conference {rest : String}
    (h : stripPrefix urlStart (trimMatches isPadding ("conference/" ++ rest)) = none) :
    parse ("conference/" ++ rest) = fromRoute (split ("conference/" ++ rest) '/') := by
  unfold parse
  rw [h, Option.getD_none, stripPrefix_append, split_conference]
  simp only
  rcases split rest '/' with _ | ⟨conferenceId, _ | ⟨action, others⟩⟩
  · rfl
  · rfl
  · simp only [fromRoute, ne_eq, not_true_eq_false, if_false]

theorem trimMatches_padded (action : ConferenceListAction) (front back : String)
    (hfront : ∀ c ∈ front.toList, isPadding c = true)
    (hback : ∀ c ∈ back.toList, isPadding c = true) :
    trimMatches isPadding (front ++ action.path ++ back) = action.path := by
  obtain ⟨rest, hrest⟩ := action.path_eq
  unfold trimMatches
  rw [String.toList_append, String.toList_append, List.append_assoc,
    drop_padding_of_clear _ _ _ hfront hback, String.ofList_toList]
  · rw [hrest, String.toList_append]
    exact nofun
  · intro c hc
    exact ⟨not_isPadding (mem_path hc), not_isPadding (mem_path hc)⟩

theorem parse_path (action : ConferenceListAction) : parse action.path = some action := by
  obtain ⟨rest, hrest⟩ := action.path_eq
  have htrim := trimMatches_padded action "" "" nofun nofun
  rw [String.empty_append, String.append_empty, hrest] at htrim
  rw [hrest, parse_of_conference (by rw [htrim, stripPrefix_urlStart]), ← hrest, split_path,
    fromRoute_segments]

/-- A callback URL is read with any padding around it. -/
theorem parse_url (action : ConferenceListAction) (front back : String)
    (hfront : ∀ c ∈ front.toList, isPadding c = true)
    (hback : ∀ c ∈ back.toList, isPadding c = true) :
    parse (front ++ action.url ++ back) = some action := by
  have htrim : trimMatches isPadding (front ++ action.url ++ back) = action.url := by
    unfold trimMatches
    rw [String.toList_append, String.toList_append, List.append_assoc,
      drop_padding_of_clear _ _ _ hfront hback, String.ofList_toList]
    · rw [url_eq, String.toList_append]
      exact nofun
    intro c hc
    rw [url_eq, String.toList_append, List.mem_append] at hc
    have h : isPadding c = false := by
      rcases hc with hc | hc
      · exact (forall_chars (by decide) : ∀ c ∈ urlStart.toList, isPadding c = false) c hc
      · exact not_isPadding (mem_path hc)
    exact ⟨h, h⟩
  obtain ⟨rest, hrest⟩ := action.path_eq
  have hpath := parse_path action
  have hpathTrim := trimMatches_padded action "" "" nofun nofun
  rw [String.empty_append, String.append_empty] at hpathTrim
  unfold parse at hpath ⊢
  rw [htrim, url_eq, stripPrefix_append, Option.getD_some]
  rw [hpathTrim, hrest, stripPrefix_urlStart, Option.getD_none, ← hrest] at hpath
  exact hpath

/-! ## A padded path -/

theorem mem_of_parseId {text : String} {id : UInt32} (h : parseId text = some id) {c : Char}
    (hc : c ∈ text.toList) : c.isAlphanum = true ∨ c = '+' := by
  unfold parseId parseUnsigned at h
  simp only at h
  have hdigit : c = '+' ∨ c ∈ if text.toList.head? = some '+' then text.toList.tail
      else text.toList := by
    split
    · next hplus =>
      obtain ⟨rest, hrest⟩ : ∃ rest, text.toList = '+' :: rest := List.head?_eq_some_iff.mp hplus
      rw [hrest] at hc ⊢
      exact List.mem_cons.mp hc
    · exact .inr hc
  generalize (if text.toList.head? = some '+' then text.toList.tail else text.toList) = digits
    at h hdigit
  rcases hdigit with hplus | hdigit
  · exact .inr hplus
  by_cases hall : digits.all Char.isDigit = true
  · left
    rw [Char.isAlphanum, List.all_eq_true.mp hall c hdigit, Bool.or_true]
  · rw [if_pos (.inr (Bool.eq_false_of_not_eq_true hall))] at h
    exact nomatch h

/-- The segments of a route that is read as an action are letters, digits and plus signs. -/
theorem mem_of_fromRoute {route : List String} (h : fromRoute route = some action)
    (hsegment : segment ∈ route) {c : Char} (hc : c ∈ segment.toList) :
    c.isAlphanum = true ∨ c = '+' := by
  have hwords : ∀ word ∈ ["conference", "participant", "mute", "unmute", "remove", "promote",
      "demote", "end"], word.toList.all Char.isAlphanum = true := by decide
  have hword := fun word hmem => List.all_eq_true.mp (hwords word hmem)
  unfold fromRoute at h
  split at h
  · next conference conferenceId operation rest =>
    split at h
    · exact nomatch h
    next hconference =>
    obtain ⟨id, hid, hof⟩ := Option.bind_eq_some_iff.mp h
    have hrest : operation ∈ ["participant", "end"] ∧ ∀ text ∈ rest, (∃ id, parseId text = some id)
          ∨ text ∈ ["mute", "unmute", "remove", "promote", "demote"] := by
      unfold ofSegments at hof
      split at hof
      all_goals first
        | simp only [reduceCtorEq] at hof
        | (simp; done)
        | (obtain ⟨id, hid, -⟩ := Option.map_eq_some_iff.mp hof
           simp [hid])
    rcases List.mem_cons.mp hsegment with rfl | hsegment
    · rw [not_not.mp hconference] at hc
      exact .inl (hword _ (by decide) c hc)
    rcases List.mem_cons.mp hsegment with rfl | hsegment
    · exact mem_of_parseId hid hc
    rcases List.mem_cons.mp hsegment with rfl | hsegment
    · exact .inl (hword _ (by grind) c hc)
    · rcases hrest.2 segment hsegment with ⟨id, hid⟩ | hmem
      · exact mem_of_parseId hid hc
      · exact .inl (hword _ (by grind) c hc)
  · exact nomatch h

/-- A bare path with any padding around it is not read, since the padding is not taken off. -/
theorem parse_padded_path {front back : String} (hfront : ∀ c ∈ front.toList, isPadding c = true)
    (hback : ∀ c ∈ back.toList, isPadding c = true) :
    parse (front ++ action.path ++ back) = some action ↔ front = "" ∧ back = "" := by
  obtain ⟨rest, hrest⟩ := action.path_eq
  have htrim :
      stripPrefix urlStart (trimMatches isPadding (front ++ action.path ++ back)) = none := by
    rw [trimMatches_padded action front back hfront hback, hrest, stripPrefix_urlStart]
  constructor
  · intro h
    obtain rfl : front = "" := by
      by_contra hne
      obtain ⟨c, others, hcons⟩ : ∃ c others, front.toList = c :: others :=
        List.exists_cons_of_ne_nil (mt String.toList_eq_nil_iff.mp hne)
      have hstart : stripPrefix "conference/" (front ++ action.path ++ back) = none := by
        unfold stripPrefix
        rw [if_neg]
        intro hprefix
        rw [String.toList_append, String.toList_append, hcons] at hprefix
        have hc := (List.cons_prefix_cons.mp hprefix).1
        have hpadding := hfront c (hcons ▸ List.mem_cons_self ..)
        rw [← hc] at hpadding
        exact absurd hpadding (by decide)
      unfold parse at h
      rw [htrim, Option.getD_none, hstart] at h
      exact nomatch h
    refine ⟨rfl, ?_⟩
    by_contra hne
    obtain ⟨c, others, hcons⟩ : ∃ c others, back.toList = c :: others :=
      List.exists_cons_of_ne_nil (mt String.toList_eq_nil_iff.mp hne)
    have hpadding := hback c (hcons ▸ List.mem_cons_self ..)
    rw [String.empty_append, hrest, String.append_assoc] at h htrim
    rw [parse_of_conference htrim] at h
    have hc : c ∈ ("conference/" ++ (rest ++ back)).toList := by
      rw [String.toList_append, String.toList_append, hcons]
      exact List.mem_append_right _ (List.mem_append_right _ (List.mem_cons_self ..))
    have hjoined : ['/'].intercalate (("conference/" ++ (rest ++ back)).toList.splitOn '/')
      = ("conference/" ++ (rest ++ back)).toList := List.intercalate_splitOn '/'
    rw [← hjoined] at hc
    rcases mem_intercalate hc with hslash | ⟨part, hpart, hc⟩
    · rw [List.mem_singleton.mp hslash] at hpadding
      exact absurd hpadding (by decide)
    have hsegment := mem_of_fromRoute h (List.mem_map.mpr ⟨part, hpart, rfl⟩)
      (by rw [String.toList_ofList]; exact hc)
    rcases hsegment with halnum | hplus
    · rw [not_isPadding (.inl halnum)] at hpadding
      exact nomatch hpadding
    · rw [hplus] at hpadding
      exact absurd hpadding (by decide)
  · rintro ⟨rfl, rfl⟩
    rw [String.empty_append, String.append_empty, parse_path]

end ConferenceListAction

end Sccp.ConferenceList

namespace Sccp.PhoneService

open Sccp.Config (split)
open Sccp.Features (isControl)
open Sccp.ConferenceList

variable {text : String}

/-! ## Submissions -/

theorem percentsPaired_plain {bytes : List UInt8} (h : 0x25 ∉ bytes) :
    percentsPaired bytes = true := by
  induction bytes with
  | nil => rfl
  | cons b rest ih =>
    unfold percentsPaired
    rw [if_neg fun hb : b = 0x25 => h (hb ▸ List.mem_cons_self ..)]
    exact ih fun hrest => h (List.mem_cons_of_mem _ hrest)

theorem percent_notMem_utf8 (h : '%' ∉ text.toList) : 0x25 ∉ utf8 text := by
  intro hpercent
  obtain ⟨c, hc, hb⟩ := List.mem_flatMap.mp hpercent
  have hchar : c = '%' := Char.toNat_inj.mp (toNat_of_mem_utf8EncodeChar hb (by decide))
  exact h (hchar ▸ hc)

variable {p : Packages}

/-- A component without percent signs stands for itself. -/
theorem decodeComponent_plain {encoded decoded kind : String} {maximum : Nat}
    (h : '%' ∉ encoded.toList) : decodeComponent p kind maximum encoded = .ok decoded ↔
      decoded = encoded ∧ encoded ≠ "" ∧ encoded.utf8ByteSize ≤ maximum
        ∧ encoded.toList.any isControl = false := by
  have hbytes := percent_notMem_utf8 h
  have hdecoded : decodeUtf8 p encoded = .ok encoded := by
    unfold decodeUtf8
    rw [p.percentDecode_plain _ hbytes, ofUtf8?_utf8]
  unfold decodeComponent validateEncodedComponent validateComponentLength rejectDecodedControls
  rw [percentsPaired_plain hbytes, hdecoded]
  simp only [if_true, bind, Except.bind, pure, Except.pure, throw, throwThe, MonadExceptOf.throw]
  by_cases hne : encoded = ""
  · simp only [hne, if_true, reduceCtorEq, ne_eq, not_true_eq_false, false_and, and_false]
  by_cases hlength : encoded.utf8ByteSize > maximum
  · simp only [hne, hlength, if_true, if_false, reduceCtorEq, Nat.not_le.mpr hlength, false_and,
      and_false]
  cases hcontrol : encoded.toList.any isControl with
  | true => simp only [hne, hlength, if_true, if_false, reduceCtorEq, Bool.true_eq_false,
      and_false]
  | false => simp only [hne, hlength, if_false, Bool.false_eq_true, Except.ok.injEq,
      Nat.not_lt.mp hlength, ne_eq, not_false_eq_true, and_true, eq_comm]

theorem splitOnce_of_notMem {separator : Char} (h : separator ∉ text.toList) :
    splitOnce separator text = none := if_neg h

theorem mem_of_mem_split {part : String} {separator c : Char} (hpart : part ∈ split text separator)
    (hc : c ∈ part.toList) : c ∈ text.toList := by
  obtain ⟨chars, hchars, rfl⟩ := List.mem_map.mp hpart
  rw [String.toList_ofList] at hc
  have hjoined : [separator].intercalate (text.toList.splitOn separator) = text.toList :=
    List.intercalate_splitOn separator
  rw [← hjoined]
  exact ConferenceListAction.mem_intercalate_of_mem hchars hc

/-- The components of a text without percent signs stand for themselves. -/
theorem mapM_decodeComponent {parts route : List String} {maximum : Nat} (kind : String)
    (h : ∀ part ∈ parts, '%' ∉ part.toList) :
    parts.mapM (decodeComponent p kind maximum) = .ok route ↔
      route = parts ∧ ∀ part ∈ parts, part ≠ "" ∧ part.utf8ByteSize ≤ maximum
        ∧ part.toList.any isControl = false := by
  rw [Checked.mapM_ok]
  induction parts generalizing route with
  | nil => simp only [List.forall₂_nil_left_iff, List.not_mem_nil, false_implies, implies_true,
      and_true]
  | cons part rest ih =>
    rw [List.forall₂_cons_left_iff]
    constructor
    · rintro ⟨decoded, route', hdecoded, hrest, rfl⟩
      obtain ⟨rfl, hpart⟩ := (decodeComponent_plain (h part (List.mem_cons_self ..))).mp hdecoded
      obtain ⟨rfl, hparts⟩ := (ih fun part hpart => h part (List.mem_cons_of_mem _ hpart)).mp hrest
      exact ⟨rfl, List.forall_mem_cons.mpr ⟨hpart, hparts⟩⟩
    rintro ⟨rfl, hparts⟩
    obtain ⟨hpart, hparts⟩ := List.forall_mem_cons.mp hparts
    exact ⟨part, rest, (decodeComponent_plain (h part (List.mem_cons_self ..))).mpr ⟨rfl, hpart⟩,
      (ih fun part hpart => h part (List.mem_cons_of_mem _ hpart)).mpr ⟨rfl, hparts⟩, rfl⟩

/-- What a text without query and percent signs is submitted as. -/
theorem parseSubmission_plain (hne : text ≠ "") (hquery : '?' ∉ text.toList)
    (hpercent : '%' ∉ text.toList) {submission : PhoneServiceSubmission} :
    parseSubmission p text = .ok submission ↔
      submission = ⟨split text '/', []⟩ ∧ text.toList.any isControl = false
        ∧ '#' ∉ text.toList ∧ (split text '/').length ≤ MAX_PHONE_SERVICE_ROUTE_SEGMENTS
        ∧ ∀ part ∈ split text '/', part ≠ ""
          ∧ part.utf8ByteSize ≤ MAX_PHONE_SERVICE_ROUTE_COMPONENT_BYTES := by
  have hparts : ∀ part ∈ split text '/', '%' ∉ part.toList :=
    fun part hpart hmem => hpercent (mem_of_mem_split hpart hmem)
  unfold parseSubmission
  simp only [splitOnce_of_notMem hquery, hne, if_false, bind, Except.bind, pure, Except.pure, throw,
    throwThe, MonadExceptOf.throw]
  cases hforbidden : text.toList.any isControl || text.toList.contains '#' with
  | true =>
    simp only [if_true, reduceCtorEq, false_iff]
    rintro ⟨-, hcontrol, hhash, -⟩
    rw [hcontrol, Bool.false_or, List.contains_iff_mem] at hforbidden
    exact hhash hforbidden
  | false =>
    obtain ⟨hcontrol, hhash⟩ := Bool.or_eq_false_iff.mp hforbidden
    have hhash' : '#' ∉ text.toList := fun hmem => by
      rw [List.contains_iff_mem.mpr hmem] at hhash
      exact nomatch hhash
    simp only [Bool.false_eq_true, if_false]
    cases hroute : (split text '/').mapM (decodeComponent p "route component"
        MAX_PHONE_SERVICE_ROUTE_COMPONENT_BYTES) with
    | error e =>
      simp only [reduceCtorEq, false_iff]
      rintro ⟨-, -, -, -, hsizes⟩
      have hok := (mapM_decodeComponent (p := p) "route component" hparts).mpr
        ⟨rfl, fun part hpart => ⟨(hsizes part hpart).1, (hsizes part hpart).2, by
          rw [List.any_eq_false] at hcontrol ⊢
          exact fun c hc => hcontrol c (mem_of_mem_split hpart hc)⟩⟩
      rw [hroute] at hok
      exact nomatch hok
    | ok route =>
      obtain ⟨rfl, hsizes⟩ := (mapM_decodeComponent _ hparts).mp hroute
      by_cases hcount : (split text '/').length > MAX_PHONE_SERVICE_ROUTE_SEGMENTS
      · simp only [hcount, if_true, reduceCtorEq, false_iff]
        rintro ⟨-, -, -, hle, -⟩
        exact absurd hle (Nat.not_le.mpr hcount)
      simp only [hcount, if_false, Except.ok.injEq]
      constructor
      · rintro rfl
        exact ⟨rfl, hcontrol, hhash', Nat.not_lt.mp hcount,
          fun part hpart => ⟨(hsizes part hpart).1, (hsizes part hpart).2.1⟩⟩
      · rintro ⟨rfl, -⟩
        rfl

/-! ## Padded payloads -/

/-- The characters that are taken off a payload or a text. -/
def isTransportPadding (c : Char) : Bool :=
  ConferenceListAction.isPadding c || c = '\t' || c = '\x0c'

def isBytePadding (b : UInt8) : Bool := b = 0 || isAsciiWhitespace b

/-- Padding bytes are the bytes of padding characters. -/
theorem isTransportPadding_of_byte {c : Char} {b : UInt8} (hb : b ∈ String.utf8EncodeChar c)
    (h : isBytePadding b = true) : isTransportPadding c = true := by
  simp only [isBytePadding, isAsciiWhitespace, Bool.or_eq_true, decide_eq_true_eq] at h
  have hchar : c.toNat = b.toNat := by
    refine toNat_of_mem_utf8EncodeChar hb ?_
    rcases h with rfl | (((rfl | rfl) | rfl) | rfl) | rfl <;> decide
  have hc : c = Char.ofNat b.toNat := by rw [← hchar, Char.ofNat_toNat]
  rcases h with rfl | (((rfl | rfl) | rfl) | rfl) | rfl <;> rw [hc] <;> decide

theorem utf8EncodeChar_ne_nil (c : Char) : String.utf8EncodeChar c ≠ [] := by
  intro hnil
  have hlength := congrArg List.length hnil
  rw [String.length_utf8EncodeChar] at hlength
  exact absurd hlength (Nat.ne_of_gt c.utf8Size_pos)

theorem head?_utf8 {c : Char} (h : text.toList.head? = some c) :
    ∃ b, (utf8 text).head? = some b ∧ b ∈ String.utf8EncodeChar c := by
  obtain ⟨rest, hrest⟩ := List.head?_eq_some_iff.mp h
  obtain ⟨b, others, hb⟩ := List.exists_cons_of_ne_nil (utf8EncodeChar_ne_nil c)
  refine ⟨b, ?_, hb ▸ List.mem_cons_self ..⟩
  rw [utf8, hrest, List.flatMap_cons, hb, List.cons_append, List.head?_cons]

theorem getLast?_utf8 {c : Char} (h : text.toList.getLast? = some c) :
    ∃ b, (utf8 text).getLast? = some b ∧ b ∈ String.utf8EncodeChar c := by
  obtain ⟨rest, hrest⟩ := List.getLast?_eq_some_iff.mp h
  have hlast := List.getLast_mem (utf8EncodeChar_ne_nil c)
  refine ⟨_, ?_, hlast⟩
  rw [utf8, hrest, List.flatMap_append, List.flatMap_singleton,
    List.getLast?_append_of_ne_nil _ (utf8EncodeChar_ne_nil c),
    List.getLast?_eq_some_getLast (utf8EncodeChar_ne_nil c)]

/-- A data payload that starts like a text which is not markup is a submission of the text,
    whatever padding is around it. -/
theorem parsePhoneServicePayload_padded (front back : List UInt8)
    (hfront : ∀ b ∈ front, isAsciiWhitespace b = true) (hback : ∀ b ∈ back, isBytePadding b = true)
    {first last : Char} (hfirst : text.toList.head? = some first)
    (hlast : text.toList.getLast? = some last) (hfirstClear : isTransportPadding first = false)
    (hlastClear : isTransportPadding last = false) (htag : first ≠ '<')
    (hlength : (front ++ utf8 text ++ back).length ≤ MAX_PHONE_SERVICE_DATA_BYTES) :
    parsePhoneServicePayload p (front ++ utf8 text ++ back) .data
      = (parseSubmission p text).map .submission := by
  obtain ⟨b, hb, hbmem⟩ := head?_utf8 hfirst
  obtain ⟨b', hb', hbmem'⟩ := getLast?_utf8 hlast
  have hclear {c : Char} {b : UInt8} (hmem : b ∈ String.utf8EncodeChar c)
      (h : isTransportPadding c = false) : isBytePadding b = false := by
    apply Bool.eq_false_of_not_eq_true
    intro hpadding
    rw [isTransportPadding_of_byte hmem hpadding] at h
    exact nomatch h
  have hspace : isAsciiWhitespace b = false :=
    (Bool.or_eq_false_iff.mp (hclear hbmem hfirstClear)).2
  have htrim : trimProtocolPadding (front ++ utf8 text ++ back) = utf8 text := by
    unfold trimProtocolPadding
    rw [List.append_assoc]
    exact drop_padding (q := isBytePadding) _ _ _ hfront hback hb hspace hb'
      (hclear hbmem' hlastClear)
  have hne : utf8 text ≠ [] := fun hnil => by rw [hnil] at hb; exact nomatch hb
  have hmarkup : (utf8 text).head? ≠ some 0x3c := by
    intro h
    obtain rfl : b = 0x3c := Option.mem_unique hb h
    exact htag (Char.toNat_inj.mp (toNat_of_mem_utf8EncodeChar hbmem (by decide)))
  unfold parsePhoneServicePayload
  rw [if_neg (Nat.not_lt.mpr hlength), htrim]
  simp only [if_neg hne, if_neg hmarkup, ofUtf8?_utf8, reduceCtorEq, if_false]

/-! ## Callbacks -/

/-- A text made of padding that a callback may be surrounded with. -/
structure Padding where
  text : String
  padding : ∀ c ∈ text.toList, ConferenceListAction.isPadding c = true

variable (p) in
/-- The callback comes back from its padded URL, its padded path and a data payload of the padded
    path, and the two readers agree on every text that is submitted without escapes. -/
structure CallbackReturns (action : ConferenceListAction) (front back : Padding) : Prop where
  url : ConferenceListAction.parse (front.text ++ action.url ++ back.text) = some action
  path : ConferenceListAction.parse (front.text ++ action.path ++ back.text) = some action
  payload : ∀ front back : List UInt8, (∀ b ∈ front, isAsciiWhitespace b = true) →
    (∀ b ∈ back, isBytePadding b = true) →
    (front ++ utf8 action.path ++ back).length ≤ MAX_PHONE_SERVICE_DATA_BYTES →
    ∃ route, parsePhoneServicePayload p (front ++ utf8 action.path ++ back) .data
        = .ok (.submission ⟨route, []⟩) ∧ ConferenceListAction.fromRoute route = some action
  agree : ∀ (rest : String) (payload : PhoneServicePayload),
    (∀ last, ("conference/" ++ rest).toList.getLast? = some last →
      isTransportPadding last = false) → '%' ∉ rest.toList → '?' ∉ rest.toList →
    parsePhoneServicePayload p (utf8 ("conference/" ++ rest)) .data = .ok payload →
    ∃ submission, payload = .submission submission
      ∧ ConferenceListAction.parse ("conference/" ++ rest)
          = ConferenceListAction.fromRoute submission.route

theorem path_submitted (action : ConferenceListAction) :
    parseSubmission p action.path = .ok ⟨action.segments, []⟩ := by
  obtain ⟨rest, hrest⟩ := action.path_eq
  have hclear : ∀ c ∈ action.path.toList, c ≠ '?' ∧ c ≠ '%' ∧ c ≠ '#' ∧ isControl c = false := by
    intro c hc
    rcases action.mem_path hc with h | rfl
    · refine ⟨?_, ?_, ?_, ?_⟩
      · rintro rfl
        exact absurd h (by decide)
      · rintro rfl
        exact absurd h (by decide)
      · rintro rfl
        exact absurd h (by decide)
      · obtain ⟨hlow, hhigh⟩ := isAlphanum_bounds h
        simp only [isControl, Bool.or_eq_false_iff, Bool.and_eq_false_iff, decide_eq_false_iff_not]
        omega
    · decide
  refine (parseSubmission_plain ?_ (fun h => (hclear _ h).1 rfl)
    (fun h => (hclear _ h).2.1 rfl)).mpr
    ⟨by rw [action.split_path], ?_, fun h => (hclear _ h).2.2.1 rfl, ?_, ?_⟩
  · intro hempty
    rw [hrest] at hempty
    exact absurd (congrArg String.toList hempty) (by rw [String.toList_append]; exact nofun)
  · exact List.any_eq_false.mpr fun c hc => by rw [(hclear c hc).2.2.2]; exact Bool.false_ne_true
  · rw [action.split_path]
    cases action <;> exact Nat.le_of_ble_eq_true rfl
  rw [action.split_path]
  intro part hpart
  obtain ⟨hne, hlength, halnum⟩ := ConferenceListAction.segment_plain hpart
  refine ⟨fun hempty => hne (by rw [hempty]; rfl), ?_⟩
  rw [utf8ByteSize_of_isAlphanum halnum]
  exact Nat.le_trans hlength (by decide)

/-- A data payload of the padded path is read as the callback. -/
theorem payload_path (action : ConferenceListAction) {front back : List UInt8}
    (hfront : ∀ b ∈ front, isAsciiWhitespace b = true) (hback : ∀ b ∈ back, isBytePadding b = true)
    (hlength : (front ++ utf8 action.path ++ back).length ≤ MAX_PHONE_SERVICE_DATA_BYTES) :
    parsePhoneServicePayload p (front ++ utf8 action.path ++ back) .data
      = .ok (.submission ⟨action.segments, []⟩) := by
  obtain ⟨rest, hrest⟩ := action.path_eq
  have hne : action.path.toList ≠ [] := by
    rw [hrest, String.toList_append]
    exact nofun
  have hclear : ∀ c ∈ action.path.toList, isTransportPadding c = false ∧ c ≠ '<' := by
    intro c hc
    rcases action.mem_path hc with h | rfl
    · have hbounds := isAlphanum_bounds h
      refine ⟨?_, ?_⟩
      · apply Bool.eq_false_of_not_eq_true
        intro hpadding
        simp only [isTransportPadding, ConferenceListAction.not_isPadding (.inl h), Bool.false_or,
          Bool.or_eq_true, decide_eq_true_eq] at hpadding
        rcases hpadding with rfl | rfl <;> exact absurd h (by decide)
      · rintro rfl
        exact absurd h (by decide)
    · decide
  rw [parsePhoneServicePayload_padded front back hfront hback (List.head?_eq_some_head hne)
    (List.getLast?_eq_some_getLast hne) (hclear _ (List.head_mem hne)).1
    (hclear _ (List.getLast_mem hne)).1 (hclear _ (List.head_mem hne)).2 hlength, path_submitted]
  rfl

/-- The two readers agree on a text that is submitted without escapes. -/
theorem readers_agree {rest : String} {payload : PhoneServicePayload}
    (hlast : ∀ last, ("conference/" ++ rest).toList.getLast? = some last →
      isTransportPadding last = false) (hpercent : '%' ∉ rest.toList) (hquery : '?' ∉ rest.toList)
    (h : parsePhoneServicePayload p (utf8 ("conference/" ++ rest)) .data = .ok payload) :
    ∃ submission, payload = .submission submission
      ∧ ConferenceListAction.parse ("conference/" ++ rest)
          = ConferenceListAction.fromRoute submission.route := by
  have hlist : ("conference/" ++ rest).toList = "conference/".toList ++ rest.toList :=
    String.toList_append
  have hne : ("conference/" ++ rest).toList ≠ [] := by
    rw [hlist]
    exact nofun
  have hfirst : ("conference/" ++ rest).toList.head? = some 'c' := by
    rw [hlist]
    rfl
  have hgetLast := List.getLast?_eq_some_getLast hne
  have hclear := hlast _ hgetLast
  have hlength :
      ([] ++ utf8 ("conference/" ++ rest) ++ []).length ≤ MAX_PHONE_SERVICE_DATA_BYTES := by
    rw [List.nil_append, List.append_nil]
    by_contra hlong
    unfold parsePhoneServicePayload at h
    rw [if_pos (Nat.not_le.mp hlong)] at h
    exact nomatch h
  have hpayload := parsePhoneServicePayload_padded (p := p) [] [] nofun nofun hfirst hgetLast
    (by decide) hclear (by decide) hlength
  rw [List.nil_append, List.append_nil, h] at hpayload
  obtain ⟨submission, hsubmission, rfl⟩ := Checked.map_ok.mp hpayload.symm
  refine ⟨submission, rfl, ?_⟩
  have hnotMem : ∀ c, c ∉ "conference/".toList → c ∉ rest.toList →
      c ∉ ("conference/" ++ rest).toList := by
    intro c hstart hrest
    rw [hlist, List.mem_append]
    exact not_or.mpr ⟨hstart, hrest⟩
  obtain ⟨rfl, -⟩ := (parseSubmission_plain (fun hempty => hne (by rw [hempty]; rfl))
    (hnotMem '?' (by decide) hquery) (hnotMem '%' (by decide) hpercent)).mp hsubmission
  have htrim : ConferenceListAction.trimMatches ConferenceListAction.isPadding
      ("conference/" ++ rest) = "conference/" ++ rest := by
    have hpadding : ConferenceListAction.isPadding
        (("conference/" ++ rest).toList.getLast hne) = false := by
      simp only [isTransportPadding, Bool.or_eq_false_iff] at hclear
      exact hclear.1.1
    have hdrop := drop_padding (p := ConferenceListAction.isPadding) [] _ [] nofun nofun hfirst
      (by decide) hgetLast hpadding
    rw [List.nil_append, List.append_nil] at hdrop
    unfold ConferenceListAction.trimMatches
    rw [hdrop, String.ofList_toList]
  rw [ConferenceListAction.parse_of_conference
    (by rw [htrim, ConferenceListAction.stripPrefix_urlStart])]

/-- Callbacks come back exactly where no padding is around them. -/
theorem callbackReturns_iff (p : Packages) (action : ConferenceListAction) (front back : Padding) :
    CallbackReturns p action front back ↔ front.text = "" ∧ back.text = "" := by
  constructor
  · intro h
    exact (ConferenceListAction.parse_padded_path front.padding back.padding).mp h.path
  intro h
  exact {
    url := action.parse_url front.text back.text front.padding back.padding
    path := (ConferenceListAction.parse_padded_path front.padding back.padding).mpr h
    payload := fun front back hfront hback hlength =>
      ⟨action.segments, payload_path action hfront hback hlength, action.fromRoute_segments⟩
    agree := fun rest payload => readers_agree }

/-- Packages that find nothing to decode. -/
def plainPackages : Packages where
  fromBytes := fun _ _ => .ok .unknown
  percentDecode := id
  formUrlencoded := fun _ => []
  percentDecode_plain := fun _ _ => rfl

/-- A bare path with a line end after it is not read. -/
theorem trailing_newline_misread :
    ¬ CallbackReturns plainPackages (.end 7) ⟨"", nofun⟩ ⟨"\n",
      ConferenceListAction.forall_chars (by decide)⟩ := by
  intro h
  have hparse : ConferenceListAction.parse
      ("" ++ (ConferenceListAction.end 7).path ++ "\n") = none := by
    decide +kernel
  have hpath := h.path
  rw [hparse] at hpath
  exact nomatch hpath

end Sccp.PhoneService
