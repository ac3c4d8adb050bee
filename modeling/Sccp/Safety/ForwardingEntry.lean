/-
  Sccp.Safety.ForwardingEntry

  Forwarding entry sessions.  An operation leaves every entry as it is, removes it, or
  moves it on: an entry that is committing never collects again.  Ids are issued once, so
  an id whose entry has left its collection is never committed again.
-/

import Sccp.Call.ForwardingEntry
import Sccp.Lib.Runs

namespace Sccp

/-! ## Texts of dialed characters -/

/-- Dialed characters only, and not more than a destination may have. -/
structure Dialed (text : String) : Prop where
  bounded : (utf8 text).length ≤ Features.MAX_FORWARD_DESTINATION_BYTES
  dialed : ∀ character ∈ text.toList, isDialed character = true

theorem Dialed.empty : Dialed "" := ⟨Nat.zero_le _, fun _ h => absurd h List.not_mem_nil⟩

theorem isDialed_iff {character : Char} : isDialed character = true ↔
    (0x30 ≤ character.toNat ∧ character.toNat ≤ 0x39) ∨ character = '*' ∨ character = '#' ∨
      character = 'A' ∨ character = 'B' ∨ character = 'C' ∨ character = 'D' := by
  have hle : ∀ a b : Char, a ≤ b ↔ a.toNat ≤ b.toNat := fun a b => Iff.rfl
  unfold isDialed
  simp only [Bool.or_eq_true, Bool.and_eq_true, decide_eq_true_eq, hle, or_assoc]
  rfl

/-- A dialed character is one byte. -/
theorem length_utf8_push {text : String} {character : Char} (h : isDialed character = true) :
    (utf8 (text.push character)).length = (utf8 text).length + 1 := by
  have hsmall : character.val.toNat ≤ 0x7f := by
    rcases isDialed_iff.mp h with h | rfl | rfl | rfl | rfl | rfl | rfl
    · exact h.2.trans (by decide)
    all_goals decide
  have hone : (String.utf8EncodeChar character).length = 1 := by
    unfold String.utf8EncodeChar
    rw [if_pos hsmall]
    rfl
  rw [utf8, utf8, String.toList_push, List.flatMap_append, List.length_append,
    List.flatMap_singleton, hone]

theorem Digit.isDialed_of_dialed {digit : Message.Digit} {character : Char}
    (h : digit.dialed = some character) : isDialed character = true := by
  cases digit with
  | number n =>
    dsimp only [Message.Digit.dialed] at h
    split at h
    · next hle =>
      obtain rfl := Option.some.inj h
      have hn : n.toNat ≤ 9 := hle
      have hvalid : (0x30 + n.toNat).isValidChar := .inl (by omega)
      have hnat : (Char.ofNat (0x30 + n.toNat)).toNat = 0x30 + n.toNat := by
        rw [Char.ofNat, dif_pos hvalid]
        rfl
      exact isDialed_iff.mpr (.inl (by omega))
    · cases h
  | star | pound | a | b | c | d =>
    obtain rfl := Option.some.inj h
    decide
  | unknown value => cases h

theorem Dialed.push {text : String} {character : Char} (h : Dialed text)
    (hroom : (utf8 text).length < Features.MAX_FORWARD_DESTINATION_BYTES)
    (hcharacter : isDialed character = true) : Dialed (text.push character) := by
  refine ⟨?_, fun c hc => ?_⟩
  · rw [length_utf8_push hcharacter]
    exact hroom
  rw [String.toList_push, List.mem_append, List.mem_singleton] at hc
  rcases hc with hc | rfl
  · exact h.dialed c hc
  · exact hcharacter

theorem Dialed.dropLast {text : String} (h : Dialed text) :
    Dialed (String.ofList text.toList.dropLast) := by
  have hfront := List.dropLast_prefix text.toList
  refine ⟨?_, fun c hc => ?_⟩
  · obtain ⟨last, hlast⟩ := hfront
    have hbounded := h.bounded
    rw [utf8, ← hlast, List.flatMap_append, List.length_append] at hbounded
    rw [utf8, String.toList_ofList]
    omega
  · rw [String.toList_ofList] at hc
    exact h.dialed c (hfront.subset hc)

/-! ## One entry -/

/-- A later state of an entry. -/
structure ForwardingEntry.Follows (entry entry' : ForwardingEntry) : Prop where
  id : entry'.id = entry.id
  deviceId : entry'.deviceId = entry.deviceId
  callId : entry'.callId = entry.callId
  phase : entry'.phase = .collecting → entry.phase = .collecting
  digits : Dialed entry.digits → Dialed entry'.digits

theorem ForwardingEntry.Follows.refl (entry : ForwardingEntry) : entry.Follows entry :=
  ⟨rfl, rfl, rfl, fun h => h, fun h => h⟩

theorem ForwardingEntry.Follows.trans {a b c : ForwardingEntry} (h : a.Follows b)
    (h' : b.Follows c) : a.Follows c :=
  ⟨h'.id.trans h.id, h'.deviceId.trans h.deviceId, h'.callId.trans h.callId,
    fun hphase => h.phase (h'.phase hphase), fun hdigits => h'.digits (h.digits hdigits)⟩

/-- The commit of an answer to a digit. -/
def ForwardingDigitOutcome.commits : ForwardingDigitOutcome → List ForwardingCommit
  | .collected => []
  | .commit result => [result]

/-- What working on an entry in place does: it moves the entry on, leaves it as it is on
    an error, and gives a commit only for a collection that it ends. -/
structure WorksOn {α : Type} (commits : α → List ForwardingCommit)
    (f : ForwardingEntry → ForwardingEntry × Except ForwardingRejection α) : Prop where
  follows : ∀ entry : ForwardingEntry, entry.Follows (f entry).1
  unchanged : ∀ entry rejection, (f entry).2 = .error rejection → (f entry).1 = entry
  single : ∀ answer, (commits answer).length ≤ 1
  ends : ∀ entry answer commit, (f entry).2 = .ok answer → commit ∈ commits answer →
    commit.entryId = entry.id ∧ entry.phase = .collecting ∧ (f entry).1.phase = .committing

namespace ForwardingEntry

/-- A commit begins in a collection and ends it; a rejected one changes nothing. -/
theorem beginCommit_cases (entry : ForwardingEntry) :
    (∃ rejection, entry.beginCommit = (entry, .error rejection)) ∨
      ∃ destination, entry.phase = .collecting ∧
        Features.ForwardingDestination.new entry.digits = .ok destination ∧
        entry.beginCommit = ({ entry with phase := .committing }, .ok
          ⟨entry.id, entry.deviceId, entry.lineInstance, entry.callId, entry.kind,
            destination⟩) := by
  unfold beginCommit
  split
  · exact .inl ⟨_, rfl⟩
  next hphase =>
  split
  · exact .inl ⟨_, rfl⟩
  · next destination hdestination =>
    exact .inr ⟨destination, not_not.mp hphase, hdestination, rfl⟩

theorem follows_committing (entry : ForwardingEntry) :
    entry.Follows { entry with phase := .committing } :=
  ⟨rfl, rfl, rfl, nofun, fun h => h⟩

theorem worksOn_beginCommit : WorksOn (fun commit => [commit]) beginCommit where
  follows entry := by
    rcases entry.beginCommit_cases with ⟨rejection, h⟩ | ⟨destination, -, -, h⟩
    · rw [h]
      exact .refl entry
    · rw [h]
      exact entry.follows_committing
  unchanged entry rejection hrejected := by
    rcases entry.beginCommit_cases with ⟨rejection', h⟩ | ⟨destination, -, -, h⟩
    · rw [h]
    · rw [h] at hrejected
      cases hrejected
  single answer := le_rfl
  ends entry answer commit hanswer hcommit := by
    rcases entry.beginCommit_cases with ⟨rejection, h⟩ | ⟨destination, hphase, -, h⟩
    · rw [h] at hanswer
      cases hanswer
    rw [h] at hanswer ⊢
    obtain rfl := Except.ok.inj hanswer
    obtain rfl := List.mem_singleton.mp hcommit
    exact ⟨rfl, hphase, rfl⟩

/-- An edit of the digits of a collection works on the entry. -/
theorem worksOn_edit {f : ForwardingEntry → ForwardingEntry × Except ForwardingRejection Unit}
    (h : ∀ entry, (∃ rejection, f entry = (entry, .error rejection)) ∨
      ∃ digits deadline, entry.phase = .collecting ∧ (Dialed entry.digits → Dialed digits) ∧
        f entry = ({ entry with digits := digits, deadline := deadline }, .ok ())) :
    WorksOn (fun _ => []) f where
  follows entry := by
    rcases h entry with ⟨rejection, heq⟩ | ⟨digits, deadline, hphase, hdigits, heq⟩
    · rw [heq]
      exact .refl entry
    · rw [heq]
      exact ⟨rfl, rfl, rfl, fun _ => hphase, hdigits⟩
  unchanged entry rejection hrejected := by
    rcases h entry with ⟨rejection', heq⟩ | ⟨digits, deadline, -, -, heq⟩
    · rw [heq]
    · rw [heq] at hrejected
      cases hrejected
  single _ := Nat.zero_le _
  ends _ _ _ _ hcommit := absurd hcommit List.not_mem_nil

theorem worksOn_pushDigit (digit : Message.Digit) (now : Instant) :
    WorksOn (fun _ => []) fun entry => entry.pushDigit digit now := by
  refine worksOn_edit fun entry => ?_
  unfold pushDigit
  split
  · exact .inl ⟨_, rfl⟩
  next hphase =>
  split
  · exact .inl ⟨_, rfl⟩
  next hroom =>
  split
  · exact .inl ⟨_, rfl⟩
  · next character hcharacter =>
    refine .inr ⟨_, _, not_not.mp hphase, fun hdialed => ?_, rfl⟩
    exact hdialed.push (Nat.lt_of_not_le hroom) (Digit.isDialed_of_dialed hcharacter)

theorem worksOn_backspace (now : Instant) :
    WorksOn (fun _ => []) fun entry => entry.backspace now := by
  refine worksOn_edit fun entry => ?_
  unfold backspace
  split
  · exact .inl ⟨_, rfl⟩
  next hphase =>
  split
  · exact .inr ⟨entry.digits, _, not_not.mp hphase, fun h => h, rfl⟩
  · exact .inr ⟨_, _, not_not.mp hphase, Dialed.dropLast, rfl⟩

theorem worksOn_replaceDigits (digits : String) (now : Instant) :
    WorksOn (fun _ => []) fun entry => entry.replaceDigits digits now := by
  refine worksOn_edit fun entry => ?_
  unfold replaceDigits
  dsimp only
  split
  · exact .inl ⟨_, rfl⟩
  next hbounded =>
  split
  · exact .inl ⟨_, rfl⟩
  next hdialed =>
  split
  · exact .inl ⟨_, rfl⟩
  next hphase =>
  refine .inr ⟨_, _, not_not.mp hphase, fun _ => ⟨Nat.le_of_not_lt hbounded, fun c hc => ?_⟩, rfl⟩
  by_contra hne
  exact hdialed (List.any_eq_true.mpr ⟨c, hc, by rw [eq_false_of_ne_true hne]; rfl⟩)

theorem worksOn_inputDigit (digit : Message.Digit) (now : Instant) :
    WorksOn ForwardingDigitOutcome.commits fun entry => entry.inputDigit digit now where
  follows entry := by
    unfold inputDigit
    have hcommit := worksOn_beginCommit.follows entry
    have hpush := (worksOn_pushDigit digit now).follows entry
    split
    · split
      · next h => rwa [h] at hcommit
      · next h => rwa [h] at hcommit
    · split
      · next h => rwa [h] at hpush
      · next h => rwa [h] at hpush
  unchanged entry rejection := by
    unfold inputDigit
    have hcommit := worksOn_beginCommit.unchanged entry
    have hpush := (worksOn_pushDigit digit now).unchanged entry
    split
    · split
      · exact fun h => nomatch h
      · next rejection' h =>
        intro _
        rw [h] at hcommit
        exact hcommit rejection' rfl
    split
    · exact fun h => nomatch h
    · next rejection' h =>
      intro _
      rw [h] at hpush
      exact hpush rejection' rfl
  single answer := by
    cases answer with
    | collected => exact Nat.zero_le _
    | commit result => exact le_rfl
  ends entry answer commit := by
    unfold inputDigit
    have hcommit := worksOn_beginCommit.ends entry
    split
    · split
      · next result h =>
        intro hanswer hmem
        obtain rfl := Except.ok.inj hanswer
        rw [h] at hcommit
        exact hcommit result commit rfl hmem
      · exact fun h => nomatch h
    · split
      · intro hanswer hmem
        obtain rfl := Except.ok.inj hanswer
        cases hmem
      · exact fun h => nomatch h

end ForwardingEntry

/-! ## The registry -/

namespace ForwardingEntryRegistry

/-- Each entry is stored under its device; ids and calls are those of one entry only. -/
structure Sound (r : ForwardingEntryRegistry) : Prop where
  keyed : ∀ d e, r.get d = some e → e.deviceId = d
  issued : ∀ d e, r.get d = some e → e.id.val ≤ r.nextId
  single : ∀ d d' e e', r.get d = some e → r.get d' = some e' → e.id = e'.id → d = d'
  calls : ∀ d d' e e', r.get d = some e → r.get d' = some e' → e.callId = e'.callId → d = d'
  dialed : ∀ d e, r.get d = some e → Dialed e.digits

/-- A later registry that has issued no id: each entry of it was there before. -/
structure Settles (r r' : ForwardingEntryRegistry) : Prop where
  nextId : r'.nextId = r.nextId
  kept : ∀ d e', r'.get d = some e' → ∃ e, r.get d = some e ∧ e.Follows e'

variable {r r' r'' : ForwardingEntryRegistry}

theorem sound_empty : Sound {} where
  keyed _ _ h := nomatch h
  issued _ _ h := nomatch h
  single _ _ _ _ h := nomatch h
  calls _ _ _ _ h := nomatch h
  dialed _ _ h := nomatch h

theorem Settles.refl (r : ForwardingEntryRegistry) : r.Settles r :=
  ⟨rfl, fun _ e h => ⟨e, h, .refl e⟩⟩

theorem Settles.trans (h : r.Settles r') (h' : r'.Settles r'') : r.Settles r'' := by
  refine ⟨h'.nextId.trans h.nextId, fun d e'' he'' => ?_⟩
  obtain ⟨e', he', hfollows'⟩ := h'.kept d e'' he''
  obtain ⟨e, he, hfollows⟩ := h.kept d e' he'
  exact ⟨e, he, hfollows.trans hfollows'⟩

theorem Settles.sound (h : r.Settles r') (hr : r.Sound) : r'.Sound := by
  refine ⟨fun d e' he' => ?_, fun d e' he' => ?_, fun d d' e' f' he' hf' heq => ?_,
    fun d d' e' f' he' hf' heq => ?_, fun d e' he' => ?_⟩
  · obtain ⟨e, he, hfollows⟩ := h.kept d e' he'
    rw [hfollows.deviceId, hr.keyed d e he]
  · obtain ⟨e, he, hfollows⟩ := h.kept d e' he'
    rw [hfollows.id, h.nextId]
    exact hr.issued d e he
  · obtain ⟨e, he, hfollows⟩ := h.kept d e' he'
    obtain ⟨f, hf, hfollows'⟩ := h.kept d' f' hf'
    exact hr.single d d' e f he hf (hfollows.id.symm.trans (heq.trans hfollows'.id))
  · obtain ⟨e, he, hfollows⟩ := h.kept d e' he'
    obtain ⟨f, hf, hfollows'⟩ := h.kept d' f' hf'
    exact hr.calls d d' e f he hf (hfollows.callId.symm.trans (heq.trans hfollows'.callId))
  · obtain ⟨e, he, hfollows⟩ := h.kept d e' he'
    exact hfollows.digits (hr.dialed d e he)

theorem get_erase (r : ForwardingEntryRegistry) (d x : DeviceId) :
    ({ r with byDevice := r.byDevice.erase d } : ForwardingEntryRegistry).get x
      = if x = d then none else r.get x := Table.get?_erase ..

theorem get_modify (d x : DeviceId) {e : ForwardingEntry} (e' : ForwardingEntry)
    (h : r.get d = some e) :
    ({ r with byDevice := r.byDevice.modify d fun _ => e' } : ForwardingEntryRegistry).get x
      = if x = d then some e' else r.get x := by
  refine (Table.get?_modify ..).trans ?_
  split
  · rw [show r.byDevice.get? d = some e from h]
    rfl
  · rfl

theorem settles_erase (r : ForwardingEntryRegistry) (d : DeviceId) :
    r.Settles { r with byDevice := r.byDevice.erase d } := by
  refine ⟨rfl, fun x e' he' => ?_⟩
  rw [get_erase] at he'
  split at he'
  · cases he'
  · exact ⟨e', he', .refl e'⟩

theorem settles_modify {d : DeviceId} {e e' : ForwardingEntry} (h : r.get d = some e)
    (hfollows : e.Follows e') :
    r.Settles { r with byDevice := r.byDevice.modify d fun _ => e' } := by
  refine ⟨rfl, fun x f hf => ?_⟩
  rw [get_modify d x e' h] at hf
  split at hf
  · next hx =>
    obtain rfl := Option.some.inj hf
    exact ⟨e, hx ▸ h, hfollows⟩
  · exact ⟨f, hf, .refl f⟩

/-! ### Commits -/

/-- An id that a later operation may commit: its entry is collecting, or it has not been
    issued yet. -/
def Committable (r : ForwardingEntryRegistry) (id : ForwardingEntryId) : Prop :=
  (∃ d e, r.get d = some e ∧ e.id = id ∧ e.phase = .collecting) ∨ r.nextId < id.val

theorem Settles.committable (h : r.Settles r') {id : ForwardingEntryId}
    (hid : r'.Committable id) : r.Committable id := by
  rcases hid with ⟨d, e', he', rfl, hphase⟩ | hnew
  · obtain ⟨e, he, hfollows⟩ := h.kept d e' he'
    exact .inl ⟨d, e, he, hfollows.id.symm, hfollows.phase hphase⟩
  · exact .inr (h.nextId ▸ hnew)

/-- The id of an entry that is committing is not committed again. -/
theorem Sound.not_committable (hr : r.Sound) {d : DeviceId} {e : ForwardingEntry}
    (he : r.get d = some e) (hphase : e.phase = .committing) : ¬ r.Committable e.id := by
  rintro (⟨d', e', he', hid, hphase'⟩ | hnew)
  · obtain rfl := hr.single d' d e' e he' he hid
    obtain rfl := Option.mem_unique he he'
    rw [hphase] at hphase'
    cases hphase'
  · have := hr.issued d e he
    omega

/-- What an operation does to the entries, apart from beginning one: it settles them, gives
    commits out once, and changes nothing when it fails. -/
structure Proceeds {α : Type} (commits : α → List ForwardingCommit) (r : ForwardingEntryRegistry)
    (result : ForwardingEntryRegistry × Except ForwardingRejection α) : Prop where
  settles : r.Settles result.1
  unchanged : ∀ rejection, result.2 = .error rejection → result.1 = r
  once : ∀ answer, result.2 = .ok answer → ((commits answer).map (·.entryId)).Nodup ∧
    ∀ commit ∈ commits answer, r.Committable commit.entryId ∧
      ¬ result.1.Committable commit.entryId

theorem proceeds_exactMut (hr : r.Sound) {α : Type} {commits : α → List ForwardingCommit}
    {f : ForwardingEntry → ForwardingEntry × Except ForwardingRejection α}
    (hf : WorksOn commits f) (d : DeviceId) (id : ForwardingEntryId) :
    Proceeds commits r (r.exactMut d id f) := by
  unfold exactMut
  split
  · exact ⟨.refl r, fun _ _ => rfl, fun _ h => nomatch h⟩
  next e he =>
  have hget := (Option.filter_eq_some_iff.mp he).1
  have hsettles := settles_modify hget (hf.follows e)
  refine { settles := hsettles, unchanged := fun rejection h => ?_, once := fun answer h => ?_ }
  · dsimp only
    rw [hf.unchanged e rejection h, Table.modify_eq_self hget]
  have hnodup : ((commits answer).map (·.entryId)).Nodup := by
    have hlength := hf.single answer
    rcases hcommits : commits answer with _ | ⟨commit, _ | ⟨other, rest⟩⟩
    · exact List.nodup_nil
    · exact List.nodup_singleton _
    · rw [hcommits, List.length_cons, List.length_cons] at hlength
      omega
  refine ⟨hnodup, fun commit hcommit => ?_⟩
  obtain ⟨hid, hphase, hphase'⟩ := hf.ends e answer commit h hcommit
  refine ⟨.inl ⟨d, e, hget, hid.symm, hphase⟩, ?_⟩
  rw [hid, ← (hf.follows e).id]
  refine (hsettles.sound hr).not_committable (d := d) ?_ hphase'
  rw [get_modify d d _ hget, if_pos rfl]

variable (r)

theorem proceeds_removeIf (d : DeviceId)
    (p : ForwardingEntry → Bool) : Proceeds (fun _ => []) r (r.removeIf d p) := by
  unfold removeIf
  split
  · exact ⟨.refl r, fun _ _ => rfl, fun _ h => nomatch h⟩
  · exact ⟨r.settles_erase d, (fun _ h => nomatch h),
      fun _ _ => ⟨List.nodup_nil, fun _ h => absurd h List.not_mem_nil⟩⟩

theorem proceeds_settleWrite (phase : ForwardingEntryPhase)
    (d : DeviceId) (id : ForwardingEntryId) (outcome : ForwardingWriteOutcome) :
    Proceeds (fun _ => []) r (r.settleWrite phase d id outcome) := by
  unfold settleWrite
  split
  · exact ⟨.refl r, fun _ _ => rfl, fun _ h => nomatch h⟩
  split
  · exact ⟨r.settles_erase d, (fun _ h => nomatch h),
      fun _ _ => ⟨List.nodup_nil, fun _ h => absurd h List.not_mem_nil⟩⟩
  · exact ⟨.refl r, (fun _ h => nomatch h),
      fun _ _ => ⟨List.nodup_nil, fun _ h => absurd h List.not_mem_nil⟩⟩

variable {r}

/-! ### Expiry -/

/-- What is made of an entry that has expired. -/
def report (entry : ForwardingEntry) : ForwardingExpiryOutcome :=
  if entry.digits = "" then .cancel entry
  else
    match entry.beginCommit with
    | (_, .ok commit) => .commit commit
    | (entry, .error _) => .cancel entry

/-- The commits among expiries. -/
def expiryCommits : ForwardingExpiryOutcome → List ForwardingCommit
  | .cancel _ => []
  | .commit result => [result]

variable (r)

/-- An entry that is still due is taken out, or begins its commit; another is left alone. -/
theorem claimOne_cases (now deadline : Instant) (id : ForwardingEntryId) (d : DeviceId) :
    (r.claimOne now (deadline, id, d) = (r, none) ∧
      ∀ e, r.get d = some e → e.id = id → ¬ expired now e = true) ∨
    ∃ e, r.get d = some e ∧ e.id = id ∧ expired now e = true ∧
      ((expiryCommits (report e) = [] ∧
          r.claimOne now (deadline, id, d)
            = ({ r with byDevice := r.byDevice.erase d }, some (report e))) ∨
        ∃ commit, commit.entryId = id ∧ e.phase = .collecting ∧
          expiryCommits (report e) = [commit] ∧
          r.claimOne now (deadline, id, d)
            = ({ r with byDevice := r.byDevice.modify d fun _ =>
                { e with phase := .committing } }, some (report e))) := by
  unfold claimOne
  dsimp only
  split
  · next hnone =>
    refine .inl ⟨rfl, fun e he hid hexpired => ?_⟩
    rw [he, Option.filter_some, hid, hexpired] at hnone
    simp at hnone
  next e he =>
  obtain ⟨hget, hp⟩ := Option.filter_eq_some_iff.mp he
  obtain ⟨hid, hexpired⟩ := Bool.and_eq_true_iff.mp hp
  have hid := of_decide_eq_true hid
  refine .inr ⟨e, hget, hid, hexpired, ?_⟩
  unfold report
  split
  · exact .inl ⟨rfl, rfl⟩
  rcases e.beginCommit_cases with ⟨rejection, h⟩ | ⟨destination, hphase, -, h⟩
  · rw [h]
    exact .inl ⟨rfl, rfl⟩
  · rw [h]
    exact .inr ⟨_, hid, hphase, rfl, rfl⟩

theorem settles_claimOne (now : Instant)
    (due : Instant × ForwardingEntryId × DeviceId) : r.Settles (r.claimOne now due).1 := by
  obtain ⟨deadline, id, d⟩ := due
  rcases r.claimOne_cases now deadline id d with ⟨h, -⟩ | ⟨e, hget, -, -, ⟨-, h⟩ | ⟨-, -, -, -, h⟩⟩
  · rw [h]
    exact .refl r
  · rw [h]
    exact r.settles_erase d
  · rw [h]
    exact settles_modify hget e.follows_committing

variable {r}

/-- The ids that a claim commits. -/
def claimedIds (now : Instant) (r : ForwardingEntryRegistry)
    (due : Instant × ForwardingEntryId × DeviceId) : List ForwardingEntryId :=
  ((r.claimOne now due).2.toList.flatMap expiryCommits).map (·.entryId)

/-- A claim commits an entry that is collecting, and ends its collection. -/
theorem claimedIds_once (hr : r.Sound) (now : Instant)
    (due : Instant × ForwardingEntryId × DeviceId) :
    (claimedIds now r due).Nodup ∧ ∀ id ∈ claimedIds now r due,
      r.Committable id ∧ ¬ (r.claimOne now due).1.Committable id := by
  obtain ⟨deadline, id, d⟩ := due
  unfold claimedIds
  rcases r.claimOne_cases now deadline id d with
    ⟨h, -⟩ | ⟨e, hget, hid, -, ⟨hcommits, h⟩ | ⟨commit, hcommit, hphase, hcommits, h⟩⟩
  · rw [h]
    exact ⟨List.nodup_nil, fun _ h => absurd h List.not_mem_nil⟩
  · rw [h, Option.toList_some, List.flatMap_singleton, hcommits]
    exact ⟨List.nodup_nil, fun _ h => absurd h List.not_mem_nil⟩
  have hsettles := r.settles_claimOne now (deadline, id, d)
  rw [h] at hsettles
  rw [h, Option.toList_some, List.flatMap_singleton, hcommits]
  refine ⟨List.nodup_singleton _, fun id' hid' => ?_⟩
  obtain rfl : id' = commit.entryId := List.mem_singleton.mp hid'
  refine ⟨.inl ⟨d, e, hget, hid.trans hcommit.symm, hphase⟩, ?_⟩
  rw [hcommit, ← hid]
  refine (hsettles.sound hr).not_committable (d := d) (e := { e with phase := .committing })
    ?_ rfl
  rw [get_modify d d _ hget, if_pos rfl]

theorem oneShot_claim (now : Instant) :
    Runs.OneShot (fun r due => (claimOne r now due).1) (claimedIds now) Sound Committable where
  keeps r due hr := (r.settles_claimOne now due).sound hr
  nodup _ due hr := (claimedIds_once hr now due).1
  stored _ due id hr hid := ((claimedIds_once hr now due).2 id hid).1
  spent _ due id hr hid := ((claimedIds_once hr now due).2 id hid).2
  back r due _ _ := (r.settles_claimOne now due).committable

theorem claimEach_eq (now : Instant) (r : ForwardingEntryRegistry)
    (dues : List (Instant × ForwardingEntryId × DeviceId)) :
    (claimEach now r dues).1 = Runs.run (fun r due => (claimOne r now due).1) r dues ∧
      ((claimEach now r dues).2.flatMap expiryCommits).map (·.entryId)
        = Runs.outputs (fun r due => (claimOne r now due).1) (claimedIds now) r dues := by
  induction dues generalizing r with
  | nil => exact ⟨rfl, rfl⟩
  | cons due rest ih =>
    obtain ⟨hrun, houtputs⟩ := ih (r.claimOne now due).1
    refine ⟨hrun, ?_⟩
    rw [Runs.outputs, ← houtputs, claimedIds, ← List.map_append, ← List.flatMap_append]
    rfl

theorem settles_claimEach (now : Instant) (r : ForwardingEntryRegistry)
    (dues : List (Instant × ForwardingEntryId × DeviceId)) :
    r.Settles (claimEach now r dues).1 := by
  induction dues generalizing r with
  | nil => exact .refl r
  | cons due rest ih => exact (r.settles_claimOne now due).trans (ih _)

theorem proceeds_claimExpired (hr : r.Sound) (now : Instant) :
    Proceeds (fun outcomes => outcomes.flatMap expiryCommits) r
      ((r.claimExpired now).1, .ok (r.claimExpired now).2) := by
  obtain ⟨dues, hdues⟩ : ∃ dues, r.claimExpired now = claimEach now r dues := ⟨_, rfl⟩
  rw [hdues]
  obtain ⟨hrun, houtputs⟩ := claimEach_eq now r dues
  refine ⟨settles_claimEach now r dues, (fun _ h => nomatch h), fun answer h => ?_⟩
  obtain rfl := Except.ok.inj h
  dsimp only
  rw [houtputs, hrun]
  refine ⟨(oneShot_claim now).outputs_nodup hr dues, fun commit hcommit => ?_⟩
  have hid : commit.entryId ∈ Runs.outputs (fun r due => (claimOne r now due).1)
      (claimedIds now) r dues := by
    rw [← houtputs]
    exact List.mem_map_of_mem hcommit
  exact ⟨(oneShot_claim now).stored_of_mem hr hid, (oneShot_claim now).spent_of_mem hr hid⟩

/-! ### Every call -/

variable (r)

/-- A new entry takes the next id, under a device and a call that have none. -/
theorem begin_cases (d : DeviceId) (line : Nat) (callId : CallId)
    (kind : ForwardingKind) (terminator : Message.Digit) (timing : ForwardingEntryTiming) :
    (∃ rejection, r.begin d line callId kind terminator timing = (r, .error rejection)) ∨
      ∃ e : ForwardingEntry, e.id = ⟨r.nextId + 1⟩ ∧ e.deviceId = d ∧ e.callId = callId ∧
        e.digits = "" ∧ (∀ d' e', r.get d' = some e' → e'.callId ≠ callId) ∧
        r.begin d line callId kind terminator timing
          = ({ nextId := r.nextId + 1, byDevice := r.byDevice.insert d e }, .ok e) := by
  unfold begin
  split
  · exact .inl ⟨_, rfl⟩
  split
  · exact .inl ⟨_, rfl⟩
  next hcalls =>
  split
  · exact .inl ⟨_, rfl⟩
  · refine .inr ⟨_, rfl, rfl, rfl, rfl, fun d' e' he' heq => ?_, rfl⟩
    exact hcalls (Table.any_iff.mpr ⟨d', e', he', decide_eq_true heq⟩)

theorem get_begun (d : DeviceId) (e : ForwardingEntry) (x : DeviceId) :
    ({ nextId := r.nextId + 1, byDevice := r.byDevice.insert d e } : ForwardingEntryRegistry).get x
      = if x = d then some e else r.get x := Table.get?_insert ..

variable {r}

theorem Sound.begun (hr : r.Sound) {d : DeviceId} {e : ForwardingEntry}
    (hid : e.id = ⟨r.nextId + 1⟩) (hdevice : e.deviceId = d) (hdigits : e.digits = "")
    (hcalls : ∀ d' e', r.get d' = some e' → e'.callId ≠ e.callId) :
    Sound { nextId := r.nextId + 1, byDevice := r.byDevice.insert d e } := by
  have hnext : e.id.val = r.nextId + 1 := by rw [hid]
  have hget : ∀ x f, ({ nextId := r.nextId + 1, byDevice := r.byDevice.insert d e } :
      ForwardingEntryRegistry).get x = some f → (x = d ∧ f = e) ∨ r.get x = some f := by
    intro x f hf
    rw [get_begun] at hf
    split at hf
    · next hx => exact .inl ⟨hx, (Option.some.inj hf).symm⟩
    · exact .inr hf
  refine ⟨fun x f hf => ?_, fun x f hf => ?_, fun x y f g hf hg heq => ?_,
    fun x y f g hf hg heq => ?_, fun x f hf => ?_⟩
  · rcases hget x f hf with ⟨rfl, rfl⟩ | hold
    · exact hdevice
    · exact hr.keyed x f hold
  · rcases hget x f hf with ⟨rfl, rfl⟩ | hold
    · exact hnext.le
    · exact (hr.issued x f hold).trans (Nat.le_succ _)
  · -- the new id is above every stored one
    rcases hget x f hf with ⟨rfl, rfl⟩ | hold
    · rcases hget y g hg with ⟨rfl, -⟩ | hold'
      · rfl
      · have hle := hr.issued y g hold'
        rw [← heq] at hle
        omega
    rcases hget y g hg with ⟨rfl, rfl⟩ | hold'
    · have hle := hr.issued x f hold
      rw [heq] at hle
      omega
    · exact hr.single x y f g hold hold' heq
  · rcases hget x f hf with ⟨rfl, rfl⟩ | hold
    · rcases hget y g hg with ⟨rfl, -⟩ | hold'
      · rfl
      · exact absurd heq.symm (hcalls y g hold')
    · rcases hget y g hg with ⟨rfl, rfl⟩ | hold'
      · exact absurd heq (hcalls x f hold)
      · exact hr.calls x y f g hold hold' heq
  · rcases hget x f hf with ⟨rfl, rfl⟩ | hold
    · rw [hdigits]
      exact Dialed.empty
    · exact hr.dialed x f hold

/-- The commits of an answer. -/
def Answer.commits : Answer → List ForwardingCommit
  | .entry _ | .unit | .write _ => []
  | .digit outcome => outcome.commits
  | .expiries outcomes => outcomes.flatMap expiryCommits
  | .commit result => [result]

theorem Proceeds.map {α : Type} {commits : α → List ForwardingCommit}
    {result : ForwardingEntryRegistry × Except ForwardingRejection α}
    (h : Proceeds commits r result) {g : α → Answer}
    (hg : ∀ answer, (g answer).commits = commits answer) :
    Proceeds Answer.commits r (result.1, result.2.map g) := by
  obtain ⟨r', answer⟩ := result
  cases answer with
  | error rejection =>
    exact ⟨h.settles, fun _ _ => h.unchanged rejection rfl, (fun _ h => nomatch h)⟩
  | ok answer =>
    refine ⟨h.settles, (fun _ h => nomatch h), fun answer' hanswer => ?_⟩
    obtain rfl := Except.ok.inj hanswer
    rw [hg]
    exact h.once answer rfl

/-- A call begins an entry, or it goes on with the entries there are. -/
theorem call_cases (hr : r.Sound) (operation : Operation) :
    Proceeds Answer.commits r (r.call operation) ∨
      ∃ d e, e.id = ⟨r.nextId + 1⟩ ∧ e.deviceId = d ∧ e.digits = "" ∧
        (∀ d' e', r.get d' = some e' → e'.callId ≠ e.callId) ∧
        r.call operation
          = ({ nextId := r.nextId + 1, byDevice := r.byDevice.insert d e }, .ok (.entry e)) := by
  cases operation with
  | begin d line callId kind terminator timing =>
    rcases r.begin_cases d line callId kind terminator timing with
      ⟨rejection, h⟩ | ⟨e, hid, hdevice, rfl, hdigits, hcalls, h⟩
    · refine .inl ?_
      dsimp only [call]
      rw [h]
      exact ⟨.refl r, fun _ _ => rfl, (fun _ h => nomatch h)⟩
    refine .inr ⟨d, e, hid, hdevice, hdigits, hcalls, ?_⟩
    dsimp only [call]
    rw [h]
    rfl
  | inputDigit d id digit now =>
    exact .inl ((proceeds_exactMut hr (ForwardingEntry.worksOn_inputDigit digit now) d id).map
      fun _ => rfl)
  | backspace d id now =>
    exact .inl ((proceeds_exactMut hr (ForwardingEntry.worksOn_backspace now) d id).map
      fun _ => rfl)
  | replaceDigits d id digits now =>
    exact .inl ((proceeds_exactMut hr (ForwardingEntry.worksOn_replaceDigits digits now) d
      id).map fun _ => rfl)
  | claimExpired now => exact .inl ((proceeds_claimExpired hr now).map fun _ => rfl)
  | beginCommit d id =>
    exact .inl ((proceeds_exactMut hr ForwardingEntry.worksOn_beginCommit d id).map
      fun _ => rfl)
  | settleCollectionWrite d id outcome =>
    exact .inl ((r.proceeds_settleWrite .collecting d id outcome).map fun _ => rfl)
  | settleTerminalWrite d id outcome =>
    exact .inl ((r.proceeds_settleWrite .committing d id outcome).map fun _ => rfl)
  | commit d id => exact .inl ((r.proceeds_removeIf d _).map fun _ => rfl)
  | cancel d id => exact .inl ((r.proceeds_removeIf d _).map fun _ => rfl)
  | cancelCollection d id => exact .inl ((r.proceeds_removeIf d _).map fun _ => rfl)

/-! ## Sessions over a run -/

variable (r)

def step (operation : Operation) : ForwardingEntryRegistry :=
  (r.call operation).1

/-- The ids whose commits a call gives out. -/
def committed (operation : Operation) : List ForwardingEntryId :=
  match (r.call operation).2 with
  | .ok answer => answer.commits.map (·.entryId)
  | .error _ => []

/-- The id that a call issues. -/
def begun (operation : Operation) : List Nat :=
  match operation, (r.call operation).2 with
  | .begin .., .ok (.entry entry) => [entry.id.val]
  | _, _ => []

variable {r}

theorem sound_step (hr : r.Sound) (operation : Operation) : (r.step operation).Sound := by
  unfold step
  rcases call_cases hr operation with h | ⟨d, e, hid, hdevice, hdigits, hcalls, h⟩
  · exact h.settles.sound hr
  · rw [h]
    exact hr.begun hid hdevice hdigits hcalls

theorem committed_once (hr : r.Sound) (operation : Operation) :
    (committed r operation).Nodup ∧ ∀ id ∈ committed r operation,
      r.Committable id ∧ ¬ (r.step operation).Committable id := by
  unfold committed step
  rcases call_cases hr operation with h | ⟨d, e, -, -, -, -, h⟩
  · split
    · next answer hanswer =>
      obtain ⟨hnodup, honce⟩ := h.once answer hanswer
      refine ⟨hnodup, fun id hid => ?_⟩
      obtain ⟨commit, hcommit, rfl⟩ := List.mem_map.mp hid
      exact honce commit hcommit
    · exact ⟨List.nodup_nil, fun _ h => absurd h List.not_mem_nil⟩
  · rw [h]
    exact ⟨List.nodup_nil, fun _ h => absurd h List.not_mem_nil⟩

theorem committable_back (hr : r.Sound) (operation : Operation) {id : ForwardingEntryId}
    (h : (r.step operation).Committable id) : r.Committable id := by
  unfold step at h
  rcases call_cases hr operation with hproceeds | ⟨d, e, hid, -, -, -, hcall⟩
  · exact hproceeds.settles.committable h
  rw [hcall] at h
  rcases h with ⟨x, f, hf, rfl, hphase⟩ | hnew
  · rw [get_begun] at hf
    split at hf
    · refine .inr ?_
      rw [← Option.some.inj hf, hid]
      exact Nat.lt_succ_self _
    · exact .inl ⟨x, f, hf, rfl, hphase⟩
  · exact .inr (Nat.lt_of_succ_lt hnew)

theorem oneShot_commit : Runs.OneShot step committed Sound Committable where
  keeps _ operation hr := sound_step hr operation
  nodup _ operation hr := (committed_once hr operation).1
  stored _ operation id hr hid := ((committed_once hr operation).2 id hid).1
  spent _ operation id hr hid := ((committed_once hr operation).2 id hid).2
  back _ operation _ hr := committable_back hr operation

/-- A call that issues an id issues the next one; another issues none. -/
theorem begun_cases (hr : r.Sound) (operation : Operation) :
    (begun r operation = [] ∧ r.nextId ≤ (r.step operation).nextId) ∨
      (begun r operation = [r.nextId + 1] ∧ (r.step operation).nextId = r.nextId + 1) := by
  have hmono : r.nextId ≤ (r.step operation).nextId := by
    unfold step
    rcases call_cases hr operation with h | ⟨d, e, -, -, -, -, h⟩
    · exact h.settles.nextId.ge
    · rw [h]
      exact Nat.le_succ _
  cases operation with
  | begin d line callId kind terminator timing =>
    rcases r.begin_cases d line callId kind terminator timing with
      ⟨rejection, h⟩ | ⟨e, hid, -, -, -, -, h⟩
    · refine .inl ⟨?_, hmono⟩
      dsimp only [begun, call]
      rw [h]
      rfl
    refine .inr ?_
    dsimp only [begun, step, call]
    rw [h]
    refine ⟨?_, rfl⟩
    dsimp only [Except.map]
    rw [hid]
  | inputDigit | backspace | replaceDigits | claimExpired | beginCommit | settleCollectionWrite
  | settleTerminalWrite | commit | cancel | cancelCollection => exact .inl ⟨rfl, hmono⟩

/-- A run issues each id after all ids before it. -/
theorem begun_increasing (hr : r.Sound) (operations : List Operation) :
    (Runs.outputs step begun r operations).Pairwise (· < ·) ∧
      ∀ id ∈ Runs.outputs step begun r operations, r.nextId < id := by
  induction operations generalizing r with
  | nil => exact ⟨List.Pairwise.nil, fun _ h => absurd h List.not_mem_nil⟩
  | cons operation rest ih =>
    obtain ⟨hpairwise, hlater⟩ := ih (sound_step hr operation)
    rw [Runs.outputs]
    rcases begun_cases hr operation with ⟨hbegun, hnext⟩ | ⟨hbegun, hnext⟩
    · rw [hbegun]
      exact ⟨hpairwise, fun id hid => hnext.trans_lt (hlater id hid)⟩
    rw [hbegun]
    rw [hnext] at hlater
    refine ⟨List.pairwise_cons.mpr ⟨hlater, hpairwise⟩, fun id hid => ?_⟩
    rcases List.mem_cons.mp hid with rfl | hid
    · exact Nat.lt_succ_self _
    · exact Nat.lt_of_succ_lt (hlater id hid)

/-! ### The order of expiries -/

/-- What the order of claims looks at. -/
def dueOf (entry : ForwardingEntry) : Instant × ForwardingEntryId × DeviceId :=
  (entry.deadline, entry.id, entry.deviceId)

/-- Due entries of different devices are all reported, one after the other. -/
theorem claimEach_reports (now : Instant) {dues : List ForwardingEntry}
    (hdues : ∀ e ∈ dues, r.get e.deviceId = some e ∧ expired now e = true)
    (hnodup : (dues.map (·.deviceId)).Nodup) :
    (claimEach now r (dues.map dueOf)).2 = dues.map report := by
  induction dues generalizing r with
  | nil => rfl
  | cons e rest ih =>
    obtain ⟨hget, hexpired⟩ := hdues e List.mem_cons_self
    obtain ⟨hfresh, hnodup⟩ := List.nodup_cons.mp hnodup
    have hother : ∀ e' ∈ rest, e'.deviceId ≠ e.deviceId := fun e' he' heq =>
      hfresh (List.mem_map.mpr ⟨e', he', heq⟩)
    have hstep : (r.claimOne now (dueOf e)).2 = some (report e) ∧
        ∀ x, x ≠ e.deviceId → (r.claimOne now (dueOf e)).1.get x = r.get x := by
      unfold dueOf
      rcases r.claimOne_cases now e.deadline e.id e.deviceId with
        ⟨-, hnot⟩ | ⟨e', hget', -, -, hclaim⟩
      · exact absurd hexpired (hnot e hget rfl)
      obtain rfl := Option.mem_unique hget hget'
      rcases hclaim with ⟨-, h⟩ | ⟨-, -, -, -, h⟩
      · rw [h]
        refine ⟨rfl, fun x hx => ?_⟩
        rw [get_erase, if_neg hx]
      · rw [h]
        refine ⟨rfl, fun x hx => ?_⟩
        rw [get_modify _ _ _ hget, if_neg hx]
    have hrest : ∀ e' ∈ rest, (r.claimOne now (dueOf e)).1.get e'.deviceId = some e' ∧
        expired now e' = true := by
      intro e' he'
      obtain ⟨hget', hexpired'⟩ := hdues e' (List.mem_cons_of_mem _ he')
      rw [hstep.2 _ (hother e' he')]
      exact ⟨hget', hexpired'⟩
    have hothers := ih hrest hnodup
    change (r.claimOne now (dueOf e)).2.toList ++
      (claimEach now (r.claimOne now (dueOf e)).1 (rest.map dueOf)).2 = _
    rw [hstep.1, hothers]
    rfl

/-- The order of deadlines and ids is total and transitive. -/
theorem deadlines_total (x y i j : Nat) :
    (x < y ∨ (x = y ∧ i ≤ j)) ∨ (y < x ∨ (y = x ∧ j ≤ i)) := by
  omega

theorem deadlines_trans {x y z i j k : Nat} (h : x < y ∨ (x = y ∧ i ≤ j))
    (h' : y < z ∨ (y = z ∧ j ≤ k)) : x < z ∨ (x = z ∧ i ≤ k) := by
  omega

theorem deadlines_strict {x y i j : Nat} (h : x < y ∨ (x = y ∧ i ≤ j)) (hne : i ≠ j) :
    x < y ∨ (x = y ∧ i < j) := by
  omega

/-- Expiry reports the due collections, each once, by deadline and then by id. -/
theorem claimExpired_order (hr : r.Sound) (now : Instant) :
    ∃ dues : List ForwardingEntry,
      dues.Perm (r.byDevice.values.filter (expired now)) ∧
      (dues.Pairwise fun a b =>
        a.deadline < b.deadline ∨ (a.deadline = b.deadline ∧ a.id.val < b.id.val)) ∧
      (r.claimExpired now).2 = dues.map report := by
  let before : ForwardingEntry → ForwardingEntry → Prop := fun a b =>
    expiresBefore (dueOf a) (dueOf b)
  have : DecidableRel before := fun a b =>
    inferInstanceAs (Decidable (expiresBefore (dueOf a) (dueOf b)))
  have : Std.Total before := ⟨fun a b => deadlines_total _ _ _ _⟩
  have : IsTrans ForwardingEntry before := ⟨fun _ _ _ => deadlines_trans⟩
  let dues := (r.byDevice.values.filter (expired now)).insertionSort before
  have hperm : dues.Perm (r.byDevice.values.filter (expired now)) :=
    List.perm_insertionSort before _
  have hids : (r.byDevice.values.map (·.id)).Nodup := Table.nodup_map_values hr.single
  have hdevices : (r.byDevice.values.map (·.deviceId)).Nodup :=
    Table.nodup_map_values fun d d' e e' he he' heq => by
      rw [← hr.keyed d e he, heq, hr.keyed d' e' he']
  have hnodup : ∀ {A : Type} {f : ForwardingEntry → A}, (r.byDevice.values.map f).Nodup →
      (dues.map f).Nodup := by
    intro A f h
    refine (hperm.map f).nodup_iff.mpr ?_
    exact h.sublist (List.filter_sublist.map f)
  refine ⟨dues, hperm, ?_, ?_⟩
  · have hne := List.pairwise_map.mp (hnodup hids)
    refine ((List.pairwise_insertionSort before _).and hne).imp ?_
    rintro a b ⟨hle, hid⟩
    exact deadlines_strict hle fun h => hid (congrArg ForwardingEntryId.mk h)
  have hsorted : dues.map dueOf
      = ((r.byDevice.values.filter (expired now)).map dueOf).insertionSort expiresBefore :=
    List.map_insertionSort before expiresBefore dueOf _ fun _ _ _ _ => Iff.rfl
  change (claimEach now r (((r.byDevice.values.filter (expired now)).map dueOf).insertionSort
    expiresBefore)).2 = _
  rw [← hsorted]
  refine claimEach_reports now (fun e he => ?_) (hnodup hdevices)
  obtain ⟨hvalue, hexpired⟩ := List.mem_filter.mp (hperm.mem_iff.mp he)
  obtain ⟨d, hd⟩ := Table.mem_values.mp hvalue
  rw [hr.keyed d e hd]
  exact ⟨hd, hexpired⟩

/-- A call that fails leaves the registry as it was. -/
theorem call_error (hr : r.Sound) {operation : Operation} {rejection : ForwardingRejection}
    (h : (r.call operation).2 = .error rejection) : (r.call operation).1 = r := by
  rcases call_cases hr operation with hproceeds | ⟨d, e, -, -, -, -, hcall⟩
  · exact hproceeds.unchanged rejection h
  · rw [hcall] at h
    cases h

/-- Over any sequence of calls each device has at most one entry and no two entries share a
    call; digits are dialed characters within the bound; ids are issued in increasing order,
    and each is committed at most once.  In every state reached, an expiry reports the due
    collections by deadline and id, and a call that fails changes nothing. -/
theorem forwarding_entry_sessions (operations : List Operation) :
    let r := Runs.run step {} operations
    (r.byDevice.values.map (·.deviceId)).Nodup ∧
    (r.byDevice.values.map (·.callId)).Nodup ∧
    (∀ entry ∈ r.byDevice.values, Dialed entry.digits) ∧
    (Runs.outputs step begun {} operations).Pairwise (· < ·) ∧
    (Runs.outputs step committed {} operations).Nodup ∧
    (∀ now, ∃ dues : List ForwardingEntry,
      dues.Perm (r.byDevice.values.filter (expired now)) ∧
      (dues.Pairwise fun a b =>
        a.deadline < b.deadline ∨ (a.deadline = b.deadline ∧ a.id.val < b.id.val)) ∧
      (r.claimExpired now).2 = dues.map report) ∧
    ∀ operation rejection, (r.call operation).2 = .error rejection →
      (r.call operation).1 = r := by
  intro r
  have hr : r.Sound :=
    Runs.run_induction (I := Sound) (fun _ operation h => sound_step h operation) sound_empty
      operations
  refine ⟨?_, Table.nodup_map_values hr.calls, fun entry hentry => ?_,
    (begun_increasing sound_empty operations).1,
    oneShot_commit.outputs_nodup sound_empty operations, claimExpired_order hr,
    fun operation rejection h => call_error hr h⟩
  · exact Table.nodup_map_values fun d d' e e' he he' heq => by
      rw [← hr.keyed d e he, heq, hr.keyed d' e' he']
  · obtain ⟨d, hd⟩ := Table.mem_values.mp hentry
    exact hr.dialed d entry hd

end ForwardingEntryRegistry

end Sccp
