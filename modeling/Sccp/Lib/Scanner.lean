/-
  Sccp.Lib.Scanner

  Incremental scanning of a stream that arrives in chunks.

  A scanner looks at the front of what has arrived.  It asks for more, or reports
  an item and how much of the input it takes, or fails; and what it says of an
  input it says of every continuation of it, unless it asked for more.  Draining a
  stream takes item after item off its front.  Draining what has arrived so far,
  keeping the rest and going on when more arrives comes to the same as draining
  the whole stream at once.
-/

import Mathlib.Data.List.Forall2

namespace Sccp

/-- What the front of an input amounts to. -/
inductive Scan (α ε : Type*) where
  | more
  | fail (error : ε)
  | item (a : α) (size : Nat)

/-- A look at the front of an input that more input does not overturn. -/
structure Scanner (β α ε : Type*) where
  scan : List β → Scan α ε
  size_pos : ∀ bs a n, scan bs = .item a n → 0 < n
  size_le : ∀ bs a n, scan bs = .item a n → n ≤ bs.length
  item_append : ∀ bs cs a n, scan bs = .item a n → scan (bs ++ cs) = .item a n
  fail_append : ∀ bs cs e, scan bs = .fail e → scan (bs ++ cs) = .fail e

namespace Scanner

variable {β α ε : Type*} (s : Scanner β α ε)

/-- The items at the front of a stream, and how it goes on behind them: with a
    failure, or with a rest that is not yet an item. -/
def drain (bs : List β) : List α × Except ε (List β) :=
  match h : s.scan bs with
  | .more => ([], .ok bs)
  | .fail e => ([], .error e)
  | .item a n =>
    have : bs.length - n < bs.length := by
      have hpos := s.size_pos bs a n h
      have hle := s.size_le bs a n h
      omega
    let r := drain (bs.drop n)
    (a :: r.1, r.2)
termination_by bs.length

variable {s}

theorem drain_more {bs : List β} (h : s.scan bs = .more) : s.drain bs = ([], .ok bs) := by
  rw [Scanner.drain]
  split <;> simp_all

theorem drain_fail {bs : List β} {e : ε} (h : s.scan bs = .fail e) :
    s.drain bs = ([], .error e) := by
  rw [Scanner.drain]
  split <;> simp_all

theorem drain_item {bs : List β} {a : α} {n : Nat} (h : s.scan bs = .item a n) :
    s.drain bs = (a :: (s.drain (bs.drop n)).1, (s.drain (bs.drop n)).2) := by
  rw [Scanner.drain]
  split <;> simp_all

/-- A rest that is kept holds no further item. -/
theorem scan_rest {bs rest : List β} (h : (s.drain bs).2 = .ok rest) : s.scan rest = .more := by
  induction bs using drain.induct (s := s) with
  | case1 bs hscan =>
    rw [drain_more hscan] at h
    cases h
    exact hscan
  | case2 bs e hscan =>
    rw [drain_fail hscan] at h
    cases h
  | case3 bs a n hscan _ ih =>
    rw [drain_item hscan] at h
    exact ih h

/-- A failure stands, whatever arrives after it. -/
theorem drain_append_of_error {bs : List β} {e : ε} (h : (s.drain bs).2 = .error e)
    (cs : List β) : s.drain (bs ++ cs) = s.drain bs := by
  induction bs using drain.induct (s := s) with
  | case1 bs hscan =>
    rw [drain_more hscan] at h
    cases h
  | case2 bs e' hscan =>
    rw [drain_fail hscan, drain_fail (s.fail_append bs cs e' hscan)]
  | case3 bs a n hscan _ ih =>
    rw [drain_item hscan] at h
    have hle := s.size_le bs a n hscan
    rw [drain_item (s.item_append bs cs a n hscan), drain_item hscan,
      List.drop_append_of_le_length hle, ih h]

/-- Draining goes on from the rest that was kept. -/
theorem drain_append_of_ok {bs rest : List β} (h : (s.drain bs).2 = .ok rest) (cs : List β) :
    s.drain (bs ++ cs) = ((s.drain bs).1 ++ (s.drain (rest ++ cs)).1,
      (s.drain (rest ++ cs)).2) := by
  induction bs using drain.induct (s := s) with
  | case1 bs hscan =>
    rw [drain_more hscan] at h
    cases h
    rw [drain_more hscan, List.nil_append]
  | case2 bs e hscan =>
    rw [drain_fail hscan] at h
    cases h
  | case3 bs a n hscan _ ih =>
    rw [drain_item hscan] at h
    have hle := s.size_le bs a n hscan
    rw [drain_item (s.item_append bs cs a n hscan), drain_item hscan,
      List.drop_append_of_le_length hle, ih h]
    rfl

/-- A stream built of pieces, each of which the scanner recognises as an item at the
    front of whatever follows it, drains to those items with nothing left. -/
theorem drain_flatten (hnil : s.scan [] = .more) {items : List α} {pieces : List (List β)}
    (h : List.Forall₂ (fun a piece => ∀ rest, s.scan (piece ++ rest) = .item a piece.length)
      items pieces) : s.drain pieces.flatten = (items, .ok []) := by
  induction h with
  | nil => exact drain_more hnil
  | cons hfirst _ ih =>
    rw [List.flatten_cons, drain_item (hfirst _), List.drop_left, ih]

end Scanner

end Sccp
