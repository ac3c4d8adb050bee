/-
  Sccp.Lib.Audience

  A room of hosts and guests.  Guests are to hear music while no host is
  listening; a host does not listen while he is away, or while he has stepped
  out to fetch somebody.  Music is switched on and off guest by guest, and
  nothing else is remembered of it: what follows says after which changes of the
  room the music is right again, given what each change switches.
-/

import Mathlib.Data.List.Nodup

namespace Sccp

namespace Audience

structure Member (I : Type*) where
  id : I
  host : Bool
  away : Bool
  deriving DecidableEq

variable {I : Type*}

/-- A host who has not gone away. -/
def Member.present (x : Member I) : Bool := x.host && !x.away

/-- The number of hosts who have not gone away. -/
def presence (ms : List (Member I)) : Nat := ms.countP Member.present

/-- The members who are not hosts. -/
def guests (ms : List (Member I)) : List I := (ms.filter (!·.host)).map (·.id)

variable {ms ms' : List (Member I)} {x : Member I}

theorem mem_guests {i : I} : i ∈ guests ms ↔ ∃ y ∈ ms, y.host = false ∧ y.id = i := by
  simp [guests, and_assoc]

/-- A member of a room, with the others before and after it. -/
theorem split_at (hn : (ms.map (·.id)).Nodup) (hx : x ∈ ms) :
    ∃ before after, ms = before ++ x :: after ∧ ∀ y ∈ before ++ after, y.id ≠ x.id := by
  obtain ⟨before, after, rfl⟩ := List.append_of_mem hx
  refine ⟨before, after, rfl, fun y hy heq => ?_⟩
  rw [List.map_append, List.map_cons, List.nodup_middle, List.nodup_cons, ← List.map_append] at hn
  exact hn.1 (List.mem_map.mpr ⟨y, hy, heq⟩)

theorem presence_split (before after : List (Member I)) (y : Member I) :
    presence (before ++ y :: after) = presence (before ++ after) + if y.present then 1 else 0 := by
  simp only [presence, List.countP_append, List.countP_cons]
  omega

/-- The id of a host is not the id of a guest. -/
theorem host_notMem_guests (hn : (ms.map (·.id)).Nodup) (hx : x ∈ ms) (hhost : x.host = true) :
    x.id ∉ guests ms := by
  rw [mem_guests]
  rintro ⟨y, hy, hguest, hid⟩
  rw [List.inj_on_of_nodup_map hn hy hx hid, hhost] at hguest
  cases hguest

variable [DecidableEq I] {out out' : Option I} {music : I → Bool}

/-- Whether a host listens, apart from the one who has stepped out. -/
def attended (ms : List (Member I)) (out : Option I) : Bool :=
  ms.any fun x => x.present && decide (out ≠ some x.id)

/-- Switch the music of some members on or off. -/
def switch (music : I → Bool) (ids : List I) (on : Bool) : I → Bool :=
  fun i => if i ∈ ids then on else music i

/-- Every guest hears music exactly when no host listens, and no host hears it. -/
structure Sound (ms : List (Member I)) (out : Option I) (music : I → Bool) : Prop where
  guests : ∀ x ∈ ms, x.host = false → music x.id = !attended ms out
  hosts : ∀ x ∈ ms, x.host = true → music x.id = false

/-! ## Counting hosts -/

theorem attended_none (ms : List (Member I)) : attended ms none = decide (0 < presence ms) := by
  rw [Bool.eq_iff_iff, decide_eq_true_eq]
  simp [attended, presence, List.countP_pos_iff]

/-- Change one member. -/
def modify (ms : List (Member I)) (i : I) (f : Member I → Member I) : List (Member I) :=
  ms.map fun y => if y.id = i then f y else y

/-- The others of a room. -/
def without (ms : List (Member I)) (i : I) : List (Member I) := ms.filter (·.id ≠ i)

theorem modify_split {before after : List (Member I)} (f : Member I → Member I)
    (h : ∀ y ∈ before ++ after, y.id ≠ x.id) :
    modify (before ++ x :: after) x.id f = before ++ f x :: after := by
  have hsame : ∀ l : List (Member I), (∀ y ∈ l, y.id ≠ x.id) →
      l.map (fun y => if y.id = x.id then f y else y) = l := by
    intro l hl
    rw [List.map_congr_left (g := fun y => y) fun y hy => if_neg (hl y hy), List.map_id']
  unfold modify
  rw [List.map_append, List.map_cons, if_pos rfl,
    hsame before fun y hy => h y (List.mem_append_left _ hy),
    hsame after fun y hy => h y (List.mem_append_right _ hy)]

theorem without_split {before after : List (Member I)} (h : ∀ y ∈ before ++ after, y.id ≠ x.id) :
    without (before ++ x :: after) x.id = before ++ after := by
  unfold without
  rw [List.filter_append, List.filter_cons_of_neg (by simp), ← List.filter_append,
    List.filter_eq_self]
  exact fun y hy => by simpa using h y hy

/-- Hosts counted with one member changed. -/
theorem presence_modify (hn : (ms.map (·.id)).Nodup) (hx : x ∈ ms) (f : Member I → Member I) :
    presence (modify ms x.id f) + (if x.present then 1 else 0)
      = presence ms + if (f x).present then 1 else 0 := by
  obtain ⟨before, after, rfl, hne⟩ := split_at hn hx
  rw [modify_split f hne, presence_split, presence_split]
  omega

/-- Hosts counted with one member gone. -/
theorem presence_without (hn : (ms.map (·.id)).Nodup) (hx : x ∈ ms) :
    presence (without ms x.id) + (if x.present then 1 else 0) = presence ms := by
  obtain ⟨before, after, rfl, hne⟩ := split_at hn hx
  rw [without_split hne, presence_split]

/-- Beside a host who has stepped out, the others listen. -/
theorem attended_some (hn : (ms.map (·.id)).Nodup) (hx : x ∈ ms) :
    attended ms (some x.id) = decide ((if x.present then 1 else 0) < presence ms) := by
  have hothers : attended ms (some x.id) = attended (without ms x.id) none := by
    rw [Bool.eq_iff_iff]
    simp only [attended, without, List.any_eq_true, List.mem_filter]
    constructor
    · rintro ⟨y, hy, hp⟩
      simp only [Bool.and_eq_true, decide_eq_true_eq, ne_eq, Option.some.injEq] at hp
      exact ⟨y, ⟨hy, by simpa using Ne.symm hp.2⟩, by simp [hp.1]⟩
    rintro ⟨y, ⟨hy, hne⟩, hp⟩
    simp only [Bool.and_eq_true] at hp
    refine ⟨y, hy, ?_⟩
    simp only [decide_eq_true_eq] at hne
    simp [hp.1, Ne.symm hne]
  have hcount := presence_without hn hx
  rw [hothers, attended_none]
  congr 1
  rw [eq_iff_iff]
  omega

theorem attended_of_none (h : presence ms = 0) : attended ms out = false := by
  rw [presence, List.countP_eq_zero] at h
  simp only [attended, List.any_eq_false]
  intro y hy
  simp [h y hy]

/-- Of two hosts one listens, whoever has stepped out. -/
theorem attended_of_many (hn : (ms.map (·.id)).Nodup) (h : 1 < presence ms) :
    attended ms out = true := by
  by_cases hout : ∃ x ∈ ms, out = some x.id
  · obtain ⟨x, hx, rfl⟩ := hout
    rw [attended_some hn hx, decide_eq_true_eq]
    split <;> omega
  -- nobody of the room has stepped out
  obtain ⟨y, hy, hpresent⟩ := List.countP_pos_iff.mp (Nat.lt_of_succ_lt h)
  simp only [attended, List.any_eq_true]
  refine ⟨y, hy, ?_⟩
  rw [hpresent, Bool.true_and, decide_eq_true_eq]
  exact fun heq => hout ⟨y, hy, heq⟩

/-! ## Changes of the room -/

theorem switch_of_mem {ids : List I} {i : I} (on : Bool) (h : i ∈ ids) :
    switch music ids on i = on := if_pos h

theorem switch_of_notMem {ids : List I} {i : I} (on : Bool) (h : i ∉ ids) :
    switch music ids on i = music i := if_neg h

/-- Only the music of members matters. -/
theorem Sound.congr {music' : I → Bool} (h : Sound ms out music)
    (heq : ∀ y ∈ ms, music' y.id = music y.id) : Sound ms out music' :=
  ⟨fun y hy hguest => (heq y hy).trans (h.guests y hy hguest),
    fun y hy hhost => (heq y hy).trans (h.hosts y hy hhost)⟩

/-- Members keep their ids and roles from one room to the next. -/
def Carried (ms ms' : List (Member I)) : Prop :=
  ∀ y' ∈ ms', ∃ y ∈ ms, y.id = y'.id ∧ y.host = y'.host

/-- Nothing is switched where the listeners stay. -/
theorem Sound.kept (h : Sound ms out music) (hms : Carried ms ms')
    (hlisten : attended ms' out' = attended ms out) : Sound ms' out' music where
  guests := by
    intro y' hy' hguest
    obtain ⟨y, hy, hid, hhost⟩ := hms y' hy'
    rw [← hid, h.guests y hy (hhost.trans hguest), hlisten]
  hosts := by
    intro y' hy' hhost'
    obtain ⟨y, hy, hid, hhost⟩ := hms y' hy'
    rw [← hid, h.hosts y hy (hhost.trans hhost')]

/-- All guests are switched where the last listener goes or the first one comes. -/
theorem Sound.switched (hn : (ms.map (·.id)).Nodup) (h : Sound ms out music)
    (hms : Carried ms ms') {on : Bool} (hlisten : attended ms' out' = !on) :
    Sound ms' out' (switch music (Audience.guests ms) on) where
  guests := by
    intro y' hy' hguest
    obtain ⟨y, hy, hid, hhost⟩ := hms y' hy'
    rw [← hid, switch_of_mem on (mem_guests.mpr ⟨y, hy, hhost.trans hguest, rfl⟩), hlisten,
      Bool.not_not]
  hosts := by
    intro y' hy' hhost'
    obtain ⟨y, hy, hid, hhost⟩ := hms y' hy'
    have hyhost : y.host = true := hhost.trans hhost'
    rw [← hid, switch_of_notMem on (host_notMem_guests hn hy hyhost), h.hosts y hy hyhost]

theorem carried_modify (i : I) {f : Member I → Member I} (hid : ∀ y, (f y).id = y.id)
    (hhost : ∀ y, (f y).host = y.host) : Carried ms (modify ms i f) := by
  intro y' hy'
  obtain ⟨y, hy, rfl⟩ := List.mem_map.mp hy'
  refine ⟨y, hy, ?_⟩
  split
  · exact ⟨(hid y).symm, (hhost y).symm⟩
  · exact ⟨rfl, rfl⟩

/-- A host goes away or comes back. -/
theorem Sound.moved (hn : (ms.map (·.id)).Nodup) (h : Sound ms none music) (hx : x ∈ ms)
    (hhost : x.host = true) {away : Bool} (haway : x.away = !away) :
    Sound (modify ms x.id fun y => { y with away }) none
      (if presence ms = (if away then 1 else 0) then switch music (Audience.guests ms) away
      else music) := by
  have hcount := presence_modify hn hx fun y => { y with away }
  have hms : Carried ms (modify ms x.id fun y => { y with away }) :=
    carried_modify _ (fun _ => rfl) fun _ => rfl
  simp only [Member.present, hhost, haway, Bool.true_and, Bool.not_not] at hcount
  by_cases hlast : presence ms = if away then 1 else 0
  · rw [if_pos hlast]
    refine h.switched hn hms ?_
    rw [attended_none]
    cases away <;> simp_all
  rw [if_neg hlast]
  refine h.kept hms ?_
  rw [attended_none, attended_none]
  congr 1
  rw [eq_iff_iff]
  cases away with
  | true =>
    simp only [if_true, Bool.not_true, Bool.false_eq_true, if_false] at hcount hlast
    omega
  | false =>
    simp only [if_true, Bool.not_false, Bool.false_eq_true, if_false] at hcount hlast
    omega

/-- The host who has stepped out comes back. -/
theorem Sound.returned (hn : (ms.map (·.id)).Nodup) {i : I} (h : Sound ms (some i) music) :
    Sound ms none (if presence ms = 1 then switch music (Audience.guests ms) false
      else music) := by
  have hms : Carried ms ms := fun y hy => ⟨y, hy, rfl, rfl⟩
  split
  · next hone =>
    refine h.switched hn hms ?_
    rw [attended_none, hone]
    rfl
  next hone =>
  refine h.kept hms ?_
  rw [attended_none]
  rcases Nat.eq_zero_or_pos (presence ms) with hzero | hpos
  · rw [attended_of_none hzero, hzero]
    rfl
  · rw [attended_of_many hn (by omega)]
    simpa using hpos

/-- A host steps out.  The guests are switched on if one host was present, which
    is wrong only if that was another one. -/
theorem Sound.steppedOut (hn : (ms.map (·.id)).Nodup) (h : Sound ms none music) (hx : x ∈ ms)
    (hhost : x.host = true) (hstay : x.away = true → presence ms = 1 → ∀ y ∈ ms, y.host = true) :
    Sound ms (some x.id) (if presence ms = 1 then switch music (Audience.guests ms) true
      else music) := by
  have hms : Carried ms ms := fun y hy => ⟨y, hy, rfl, rfl⟩
  have hlisten := attended_some hn hx
  by_cases hone : presence ms = 1
  · rw [if_pos hone]
    by_cases haway : x.away = true
    · -- without guests nothing is switched
      have hhosts := hstay haway hone
      refine ⟨fun y hy hguest => ?_, fun y hy hyhost => ?_⟩
      · rw [hhosts y hy] at hguest
        cases hguest
      · rw [switch_of_notMem _ (host_notMem_guests hn hy hyhost), h.hosts y hy hyhost]
    · refine h.switched hn hms ?_
      rw [hlisten, hone]
      simp [Member.present, hhost, haway]
  · rw [if_neg hone]
    refine h.kept hms ?_
    rcases Nat.eq_zero_or_pos (presence ms) with hzero | hpos
    · rw [attended_of_none hzero, attended_of_none hzero]
    · rw [attended_of_many hn (by omega), attended_of_many hn (by omega)]

/-- What is wrong when another host was present. -/
theorem steppedOut_wrong (hn : (ms.map (·.id)).Nodup) (hx : x ∈ ms) (haway : x.away = true)
    (hone : presence ms = 1) {y : Member I} (hy : y ∈ ms) (hguest : y.host = false) :
    switch music (guests ms) true y.id ≠ !attended ms (some x.id) := by
  rw [switch_of_mem _ (mem_guests.mpr ⟨y, hy, hguest, rfl⟩), attended_some hn hx, hone]
  simp [Member.present, haway]

/-- A guest joins, whom the host who stepped out has fetched. -/
theorem Sound.joined (hn : (ms.map (·.id)).Nodup) {i : I} (h : Sound ms (some i) music)
    (hpresent : presence ms ≠ 0) (hguest : x.host = false) (hnew : ∀ y ∈ ms, y.id ≠ x.id)
    (hquiet : music x.id = false) :
    Sound (ms ++ [x]) none (if presence ms = 1 then switch music (Audience.guests ms) false
      else music) := by
  have hback := h.returned hn
  have hcount : presence (ms ++ [x]) = presence ms := by
    simp [presence, List.countP_append, Member.present, hguest]
  have hlisten : attended (ms ++ [x]) none = attended ms none := by
    rw [attended_none, attended_none, hcount]
  refine ⟨fun y hy hyguest => ?_, fun y hy hyhost => ?_⟩
  · rw [hlisten]
    rcases List.mem_append.mp hy with hy | hy
    · exact hback.guests y hy hyguest
    -- the one who joins is silent, and somebody listens
    rw [List.mem_singleton.mp hy, attended_none]
    have hsilent : (if presence ms = 1 then switch music (Audience.guests ms) false
        else music) x.id = false := by
      split
      · rw [switch_of_notMem _ fun hmem => ?_, hquiet]
        obtain ⟨z, hz, _, hid⟩ := mem_guests.mp hmem
        exact hnew z hz hid
      · exact hquiet
    rw [hsilent]
    simp [Nat.pos_of_ne_zero hpresent]
  · rcases List.mem_append.mp hy with hy | hy
    · exact hback.hosts y hy hyhost
    · rw [List.mem_singleton.mp hy, hguest] at hyhost
      cases hyhost

/-- A member leaves: wrong only if it is the last listener and guests remain. -/
theorem Sound.left (hn : (ms.map (·.id)).Nodup) (h : Sound ms none music) (hx : x ∈ ms)
    (hlast : x.present = true → presence ms = 1 → ∀ y ∈ ms, y.host = true) :
    Sound (without ms x.id) none music := by
  have hms : Carried ms (without ms x.id) := fun y hy => ⟨y, (List.mem_filter.mp hy).1, rfl, rfl⟩
  have hcount := presence_without hn hx
  by_cases hgone : x.present = true ∧ presence ms = 1
  · have hhosts := hlast hgone.1 hgone.2
    refine ⟨fun y hy hguest => ?_, fun y hy hyhost => ?_⟩
    · rw [hhosts y (List.mem_filter.mp hy).1] at hguest
      cases hguest
    · exact h.hosts y (List.mem_filter.mp hy).1 hyhost
  refine h.kept hms ?_
  rw [attended_none, attended_none]
  congr 1
  rw [eq_iff_iff]
  by_cases hpresent : x.present = true
  · have hmany : presence ms ≠ 1 := fun hone => hgone ⟨hpresent, hone⟩
    simp only [hpresent, if_true] at hcount
    omega
  · simp only [hpresent, Bool.false_eq_true, if_false] at hcount
    omega

/-- What is wrong when the last listener leaves a guest behind. -/
theorem left_wrong (hn : (ms.map (·.id)).Nodup) (h : Sound ms none music) (hx : x ∈ ms)
    (hpresent : x.present = true) (hone : presence ms = 1) {y : Member I} (hy : y ∈ ms)
    (hguest : y.host = false) : music y.id ≠ !attended (without ms x.id) none := by
  have hcount := presence_without hn hx
  simp only [hpresent, if_true] at hcount
  rw [h.guests y hy hguest, attended_none, attended_none, hone,
    show presence (without ms x.id) = 0 by omega]
  decide

/-- A guest becomes a host. -/
theorem Sound.promoted (hn : (ms.map (·.id)).Nodup) (h : Sound ms none music) (hx : x ∈ ms)
    (hguest : x.host = false) (haway : x.away = false) :
    Sound (modify ms x.id fun y => { y with host := true }) none
      (if presence ms = 0 then switch music (Audience.guests ms) false else music) := by
  have hcount := presence_modify hn hx fun y => { y with host := true }
  simp only [Member.present, hguest, haway, Bool.false_and, Bool.false_eq_true, if_false,
    Bool.true_and, Bool.not_false, if_true, Nat.add_zero] at hcount
  have hlisten : attended (modify ms x.id fun y => { y with host := true }) none = true := by
    rw [attended_none, hcount]
    simp
  -- after the change nobody hears music any more
  have hsilent : ∀ y ∈ ms, (if presence ms = 0 then switch music (Audience.guests ms) false
      else music) y.id = false := by
    intro y hy
    by_cases hyhost : y.host = true
    · split
      · rw [switch_of_notMem _ (host_notMem_guests hn hy hyhost), h.hosts y hy hyhost]
      · exact h.hosts y hy hyhost
    have hyguest : y.host = false := by simpa using hyhost
    split
    · exact switch_of_mem _ (mem_guests.mpr ⟨y, hy, hyguest, rfl⟩)
    · next hpos =>
      rw [h.guests y hy hyguest, attended_none]
      simp [Nat.pos_of_ne_zero hpos]
  have hall : ∀ y ∈ modify ms x.id fun y => { y with host := true },
      (if presence ms = 0 then switch music (Audience.guests ms) false
        else music) y.id = false := by
    intro y' hy'
    obtain ⟨y, hy, rfl⟩ := List.mem_map.mp hy'
    have hid : (if y.id = x.id then { y with host := true } else y).id = y.id := by
      split <;> rfl
    rw [hid]
    exact hsilent y hy
  exact ⟨fun y hy _ => by rw [hall y hy, hlisten]; rfl, fun y hy _ => hall y hy⟩

/-- A host who is present becomes a guest. -/
theorem Sound.demoted (hn : (ms.map (·.id)).Nodup) (h : Sound ms none music) (hx : x ∈ ms)
    (hhost : x.host = true) (haway : x.away = false) :
    Sound (modify ms x.id fun y => { y with host := false }) none
      (if presence ms = 1 then
        switch music ((ms.filter fun y => !y.host || decide (y.id = x.id)).map (·.id)) true
      else music) := by
  have hcount := presence_modify hn hx fun y => { y with host := false }
  simp only [Member.present, hhost, haway, Bool.false_and, Bool.false_eq_true, if_false,
    Bool.true_and, Bool.not_false, if_true, Nat.add_zero] at hcount
  have hlisten : attended (modify ms x.id fun y => { y with host := false }) none
      = decide (presence ms ≠ 1) := by
    rw [attended_none]
    congr 1
    rw [eq_iff_iff]
    omega
  -- a guest after the change was a guest before it or is the one who changed
  have hrole : ∀ y' ∈ modify ms x.id fun y => { y with host := false }, ∃ y ∈ ms, y.id = y'.id
      ∧ (y'.host = false ↔ y.host = false ∨ y.id = x.id) := by
    intro y' hy'
    obtain ⟨y, hy, rfl⟩ := List.mem_map.mp hy'
    refine ⟨y, hy, ?_⟩
    by_cases hid : y.id = x.id <;> simp [hid]
  have hmem : ∀ y ∈ ms, y.id ∈ (ms.filter fun y => !y.host || decide (y.id = x.id)).map (·.id)
      ↔ y.host = false ∨ y.id = x.id := by
    intro y hy
    constructor
    · intro hy'
      obtain ⟨z, hz, hid⟩ := List.mem_map.mp hy'
      rw [← List.inj_on_of_nodup_map hn (List.mem_filter.mp hz).1 hy hid]
      simpa using (List.mem_filter.mp hz).2
    · intro hy'
      exact List.mem_map.mpr ⟨y, List.mem_filter.mpr ⟨hy, by simpa using hy'⟩, rfl⟩
  by_cases hone : presence ms = 1
  · rw [if_pos hone]
    rw [hone] at hlisten
    refine ⟨fun y' hy' hguest => ?_, fun y' hy' hhost' => ?_⟩
    · obtain ⟨y, hy, hid, hiff⟩ := hrole y' hy'
      rw [← hid, switch_of_mem _ ((hmem y hy).mpr (hiff.mp hguest)), hlisten]
      rfl
    obtain ⟨y, hy, hid, hiff⟩ := hrole y' hy'
    have hnot : ¬(y.host = false ∨ y.id = x.id) := by
      rw [← hiff, hhost']
      decide
    rw [← hid, switch_of_notMem _ fun hin => hnot ((hmem y hy).mp hin)]
    exact h.hosts y hy (by simpa using fun hf => hnot (.inl hf))
  · rw [if_neg hone]
    have hbefore : attended ms none = true := by
      rw [attended_none, decide_eq_true_eq]
      omega
    have hsilent : ∀ y ∈ ms, music y.id = false := by
      intro y hy
      by_cases hyhost : y.host = true
      · exact h.hosts y hy hyhost
      · rw [h.guests y hy (by simpa using hyhost), hbefore]
        rfl
    have hall : ∀ y ∈ modify ms x.id fun y => { y with host := false }, music y.id = false := by
      intro y' hy'
      obtain ⟨y, hy, hid, _⟩ := hrole y' hy'
      rw [← hid, hsilent y hy]
    exact ⟨fun y hy _ => by rw [hall y hy, hlisten]; simp [hone], fun y hy _ => hall y hy⟩

end Audience

end Sccp
