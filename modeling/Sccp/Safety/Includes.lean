/-
  Sccp.Safety.Includes

  Reading a file expands its includes, except below an optional one.

  The expansion of a file puts the expansion of its file for every include line, and nothing for
  an optional line whose file does not exist.  The reading passes over an optional include when
  any file is missing, also one that the included file cannot do without.
-/

import Sccp.Config.Includes
import Mathlib.Logic.Relation

namespace Sccp.Includes

/-! ## Texts put together line by line -/

/-- What the lines stand for, one after the other, up to the first that fails. -/
def pieces {E : Type} (piece : String → Except E String) : List String → Except E String
  | [] => .ok ""
  | line :: rest =>
    match piece line with
    | .error e => .error e
    | .ok text => (pieces piece rest).map (text ++ ·)

section

variable {E : Type} {piece : String → Except E String}

theorem map_append_map (first second : String) (rest : Except E String) :
    (rest.map (second ++ ·)).map (first ++ ·) = rest.map ((first ++ second) ++ ·) := by
  cases rest with
  | error e => rfl
  | ok text => exact congrArg Except.ok String.append_assoc.symm

theorem map_empty_append (rest : Except E String) : rest.map ("" ++ ·) = rest := by
  cases rest with
  | error e => rfl
  | ok text => exact congrArg Except.ok String.empty_append

theorem pieces_append (before after : List String) : pieces piece (before ++ after) =
      match pieces piece before with
      | .error e => .error e
      | .ok text => (pieces piece after).map (text ++ ·) := by
  induction before with
  | nil => exact (map_empty_append _).symm
  | cons line rest ih =>
    rw [List.cons_append, pieces, pieces]
    split
    · rfl
    rw [ih]
    cases pieces piece rest with
    | error e => rfl
    | ok text => exact map_append_map _ _ _

theorem pieces_error {ls : List String} {e : E} (h : pieces piece ls = .error e) :
    ∃ before line after text, ls = before ++ line :: after
      ∧ pieces piece before = .ok text ∧ piece line = .error e := by
  induction ls with
  | nil => exact nomatch h
  | cons line rest ih =>
    rw [pieces] at h
    split at h
    · next hline => exact ⟨[], line, rest, "", rfl, rfl, by rw [hline, Except.error.inj h]⟩
    next first hline =>
    cases hrest : pieces piece rest with
    | ok text => rw [hrest] at h; exact nomatch h
    | error e' =>
      rw [hrest] at h
      obtain rfl : e' = e := Except.error.inj h
      obtain ⟨before, line', after, text, rfl, hbefore, hfails⟩ := ih hrest
      refine ⟨line :: before, line', after, first ++ text, rfl, ?_, hfails⟩
      rw [pieces, hline]
      simp only [hbefore]
      rfl

/-- A line that fails makes all of them fail, with an error of some line. -/
theorem pieces_fails {ls : List String} {line : String} {e : E} (hmem : line ∈ ls)
    (h : piece line = .error e) : ∃ e' line', line' ∈ ls ∧ piece line' = .error e'
      ∧ pieces piece ls = .error e' := by
  induction ls with
  | nil => exact nomatch hmem
  | cons first rest ih =>
    cases hfirst : piece first with
    | error e' => exact ⟨e', first, List.mem_cons_self .., hfirst, by rw [pieces, hfirst]⟩
    | ok text =>
      rcases List.mem_cons.mp hmem with rfl | hmem
      · rw [hfirst] at h
        exact nomatch h
      obtain ⟨e', line', hline', hfails, hpieces⟩ := ih hmem
      refine ⟨e', line', List.mem_cons_of_mem _ hline', hfails, ?_⟩
      rw [pieces, hfirst]
      simp only [hpieces]
      rfl

end

namespace FileSystem

variable {P : Type} [DecidableEq P] (fs : FileSystem P)

/-! ## The reading without its stack -/

/-- What the reading puts for a line. -/
def lineReading (read : P → Except (ReadError P) String) (path : P) (line : String) :
    Except (ReadError P) String :=
  match includeDirective line with
  | none => .ok (line ++ "\n")
  | some (optional, argument) =>
    if includeTarget argument = "" then .error (fs.emptyError path)
    else
      match read (fs.includePath path (includeTarget argument)) with
      | .ok source => .ok source
      | .error error => if passesOver optional error then .ok "" else .error error

/-- The reading of a file below the files of the stack, with so many levels left. -/
def reading : Nat → List P → P → Except (ReadError P) String
  | 0, _, path => .error (fs.nestingError path)
  | n + 1, stack, path =>
    if fs.identity path ∈ stack then .error (fs.cycleError stack (fs.identity path))
    else
      match fs.readToString path with
      | .error source => .error (.read path source)
      | .ok source =>
        pieces (fs.lineReading (reading n (stack ++ [fs.identity path])) path) (lines source)

variable {fs}

omit [DecidableEq P] in
theorem expandLines_eq {read : P → List P → Option (Except (ReadError P) String × List P)}
    {f : P → Except (ReadError P) String} {stack : List P}
    (h : ∀ path, read path stack = some (f path, stack)) (path : P) (ls : List String)
    (expanded : String) : fs.expandLines read path ls expanded stack
      = some ((pieces (fs.lineReading f path) ls).map (expanded ++ ·), stack.dropLast) := by
  induction ls generalizing expanded with
  | nil =>
    rw [expandLines, pieces, Except.map, String.append_empty]
  | cons line rest ih =>
    rw [expandLines, pieces, lineReading]
    cases hline : includeDirective line with
    | none =>
      simp only
      rw [ih, map_append_map, String.append_assoc]
    | some directive =>
      obtain ⟨optional, argument⟩ := directive
      simp only
      split
      · rfl
      rw [h]
      cases hread : f (fs.includePath path (includeTarget argument)) with
      | ok source =>
        simp only
        rw [ih, map_append_map]
      | error error =>
        simp only
        split
        · simp only
          rw [ih, map_empty_append]
        · rfl

/-- With enough fuel the reading ends, and leaves the stack as it was. -/
theorem readWithIncludes_eq (fuel : Nat) (stack : List P) (path : P)
    (h : 32 - stack.length < fuel) : fs.readWithIncludes fuel path stack
      = some (fs.reading (32 - stack.length) stack path, stack) := by
  induction fuel generalizing stack path with
  | zero => omega
  | succ fuel ih =>
    rw [readWithIncludes]
    split
    · next hfull => rw [Nat.sub_eq_zero_of_le hfull, reading]
    next hroom =>
    obtain ⟨n, hn⟩ : ∃ n, 32 - stack.length = n + 1 := ⟨31 - stack.length, by omega⟩
    rw [hn, reading]
    split
    · rfl
    cases fs.readToString path with
    | error source => rfl
    | ok source =>
      have hrec : ∀ target, fs.readWithIncludes fuel target (stack ++ [fs.identity path])
          = some (fs.reading n (stack ++ [fs.identity path]) target,
              stack ++ [fs.identity path]) := by
        intro target
        have hlength : 32 - (stack ++ [fs.identity path]).length = n := by
          rw [List.length_append, List.length_singleton]
          omega
        rw [ih _ target (by omega), hlength]
      simp only
      rw [expandLines_eq hrec, List.dropLast_concat, map_empty_append]

/-! ## The expansion -/

end FileSystem

/-- Why a file has no expansion: it does not exist, a file it cannot do without does not exist
    (below an optional include or not), or something else is wrong. -/
inductive Problem where
  | absent
  | missing (belowOptional : Bool)
  | broken
  deriving DecidableEq

namespace FileSystem

variable {P : Type} [DecidableEq P] (fs : FileSystem P)

/-- A line stands for itself or for the file it includes, and for nothing only if it is optional
    and there is no such file. -/
def lineExpansion (expand : P → Except Problem String) (path : P) (line : String) :
    Except Problem String :=
  match includeDirective line with
  | none => .ok (line ++ "\n")
  | some (optional, argument) =>
    if includeTarget argument = "" then .error .broken
    else
      match expand (fs.includePath path (includeTarget argument)) with
      | .ok source => .ok source
      | .error .absent => if optional then .ok "" else .error (.missing false)
      | .error (.missing belowOptional) => .error (.missing (optional || belowOptional))
      | .error .broken => .error .broken

/-- The expansion of a file below the files of the stack, or the first problem in the way. -/
def expansion : Nat → List P → P → Except Problem String
  | 0, _, _ => .error .broken
  | n + 1, stack, path =>
    if fs.identity path ∈ stack then .error .broken
    else
      match fs.readToString path with
      | .error .notFound => .error .absent
      | .error .other => .error .broken
      | .ok source =>
        pieces (fs.lineExpansion (expansion n (stack ++ [fs.identity path])) path) (lines source)

/-- The reading comes to what the expansion says, unless a missing file is below an optional
    include. -/
def Agrees (r : Except (ReadError P) String) : Except Problem String → Prop
  | .ok text => r = .ok text
  | .error (.missing true) => True
  | .error .broken => ∃ error, r = .error error ∧ passesOver true error = false
  | .error _ => ∃ error, r = .error error ∧ passesOver true error = true

variable {fs}

omit [DecidableEq P] in
theorem passesOver_mandatory (error : ReadError P) : passesOver false error = false := by
  unfold passesOver
  split <;> rfl

omit [DecidableEq P] in
theorem passesOver_true {optional : Bool} {error : ReadError P}
    (h : passesOver optional error = true) : ∃ path, error = .read path .notFound := by
  unfold passesOver at h
  split at h
  · exact ⟨_, rfl⟩
  · exact nomatch h

omit [DecidableEq P] in
theorem lineReading_agrees {f : P → Except (ReadError P) String}
    {g : P → Except Problem String} (h : ∀ target, Agrees (f target) (g target)) (path : P)
    (line : String) : Agrees (fs.lineReading f path line) (fs.lineExpansion g path line) := by
  unfold lineReading lineExpansion
  split
  · rfl
  next optional argument hline =>
  split
  · exact ⟨_, rfl, rfl⟩
  have htarget := h (fs.includePath path (includeTarget argument))
  generalize f (fs.includePath path (includeTarget argument)) = r at htarget ⊢
  generalize g (fs.includePath path (includeTarget argument)) = e at htarget ⊢
  match e, htarget, optional with
  | .ok source, htarget, _ =>
    obtain rfl : r = .ok source := htarget
    rfl
  | .error .absent, ⟨error, herror, hpasses⟩, false =>
    exact ⟨error, by rw [herror]; simp only [passesOver_mandatory]; rfl, hpasses⟩
  | .error .absent, ⟨error, herror, hpasses⟩, true =>
    rw [herror]
    simp only [hpasses]
    rfl
  | .error (.missing _), _, true => trivial
  | .error (.missing true), _, false => trivial
  | .error (.missing false), ⟨error, herror, hpasses⟩, false =>
    exact ⟨error, by rw [herror]; simp only [passesOver_mandatory]; rfl, hpasses⟩
  | .error .broken, ⟨error, herror, hpasses⟩, false =>
    exact ⟨error, by rw [herror]; simp only [passesOver_mandatory]; rfl, hpasses⟩
  | .error .broken, ⟨error, herror, hpasses⟩, true =>
    exact ⟨error, by rw [herror]; simp only [hpasses]; rfl, hpasses⟩

omit [DecidableEq P] in
theorem pieces_agree {f : String → Except (ReadError P) String}
    {g : String → Except Problem String} (h : ∀ line, Agrees (f line) (g line))
    (ls : List String) : Agrees (pieces f ls) (pieces g ls) := by
  induction ls with
  | nil => rfl
  | cons line rest ih =>
    have hline := h line
    unfold pieces
    cases hg : g line with
    | ok text =>
      rw [hg] at hline
      rw [show f line = .ok text from hline]
      simp only
      generalize pieces f rest = r at ih ⊢
      generalize pieces g rest = e at ih ⊢
      match e, ih with
      | .ok text', h => exact congrArg (Except.map (text ++ ·)) h
      | .error (.missing true), _ => trivial
      | .error .broken, ⟨error, h, hpasses⟩ => exact ⟨error, by rw [h]; rfl, hpasses⟩
      | .error .absent, ⟨error, h, hpasses⟩ => exact ⟨error, by rw [h]; rfl, hpasses⟩
      | .error (.missing false), ⟨error, h, hpasses⟩ => exact ⟨error, by rw [h]; rfl, hpasses⟩
    | error problem =>
      rw [hg] at hline
      match problem, hline with
      | .missing true, _ => trivial
      | .broken, ⟨error, h, hpasses⟩ => exact ⟨error, by rw [h], hpasses⟩
      | .absent, ⟨error, h, hpasses⟩ => exact ⟨error, by rw [h], hpasses⟩
      | .missing false, ⟨error, h, hpasses⟩ => exact ⟨error, by rw [h], hpasses⟩

variable (fs) in
theorem reading_agrees (n : Nat) (stack : List P) (path : P) :
    Agrees (fs.reading n stack path) (fs.expansion n stack path) := by
  induction n generalizing stack path with
  | zero => exact ⟨_, rfl, rfl⟩
  | succ n ih =>
    unfold reading expansion
    split
    · exact ⟨_, rfl, rfl⟩
    cases fs.readToString path with
    | error source =>
      cases source with
      | notFound => exact ⟨_, rfl, rfl⟩
      | other => exact ⟨_, rfl, rfl⟩
    | ok source => exact pieces_agree (lineReading_agrees (ih _) path) _

variable (fs) in
theorem lines_agree (n : Nat) (stack : List P) (path : P) (ls : List String) :
    Agrees (pieces (fs.lineReading (fs.reading n stack) path) ls)
      (pieces (fs.lineExpansion (fs.expansion n stack) path) ls) :=
  pieces_agree (lineReading_agrees (fs.reading_agrees n stack) path) ls

/-! ## The files a reading comes to -/

variable (fs) in
/-- The reading of a file, given with the files above it, comes to an include of another. -/
def ReachesInclude (file : List P × P) (optional : Bool) (target : P) : Prop :=
  ∃ source before line after argument text,
    file.1.length < 32 ∧ fs.identity file.2 ∉ file.1 ∧ fs.readToString file.2 = .ok source
      ∧ lines source = before ++ line :: after
      ∧ pieces (fs.lineReading (fs.reading (31 - file.1.length)
          (file.1 ++ [fs.identity file.2])) file.2) before = .ok text
      ∧ includeDirective line = some (optional, argument) ∧ includeTarget argument ≠ ""
      ∧ target = fs.includePath file.2 (includeTarget argument)

variable (fs) in
def Opens (file next : List P × P) : Prop :=
  next.1 = file.1 ++ [fs.identity file.2] ∧ ∃ optional, fs.ReachesInclude file optional next.2

variable (fs) in
/-- The reading of a file passes over an optional include of a file that does exist. -/
def Drops (file : List P × P) : Prop :=
  ∃ target missing, fs.ReachesInclude file true target
    ∧ fs.reading (31 - file.1.length) (file.1 ++ [fs.identity file.2]) target
        = .error (.read missing .notFound) ∧ fs.readToString target ≠ .error .notFound

theorem expansion_missing {n : Nat} {stack : List P} {path : P} {belowOptional : Bool}
    (h : fs.expansion n stack path = .error (.missing belowOptional)) :
    ∃ m source, n = m + 1 ∧ fs.identity path ∉ stack ∧ fs.readToString path = .ok source
      ∧ pieces (fs.lineExpansion (fs.expansion m (stack ++ [fs.identity path])) path)
          (lines source) = .error (.missing belowOptional) := by
  cases n with
  | zero => exact nomatch h
  | succ m =>
    rw [expansion] at h
    split at h
    · exact nomatch h
    next hfresh =>
    split at h
    · exact nomatch h
    · exact nomatch h
    · next source hsource => exact ⟨m, source, rfl, hfresh, hsource, h⟩

/-- A missing file below an optional include is dropped somewhere. -/
theorem drops_of_missing (n : Nat) (stack : List P) (path : P) (hn : n = 32 - stack.length)
    (h : fs.expansion n stack path = .error (.missing true)) :
    ∃ file, Relation.ReflTransGen fs.Opens (stack, path) file ∧ fs.Drops file := by
  induction n generalizing stack path with
  | zero => exact nomatch h
  | succ n ih =>
    obtain ⟨m, source, hm, hfresh, hsource, hpieces⟩ := expansion_missing h
    obtain rfl : n = m := by omega
    have hleft : 31 - stack.length = n := by omega
    have hnext : n = 32 - (stack ++ [fs.identity path]).length := by
      rw [List.length_append, List.length_singleton]
      omega
    obtain ⟨before, line, after, text, hlines, hbefore, hline⟩ := pieces_error hpieces
    have hread : pieces (fs.lineReading (fs.reading n (stack ++ [fs.identity path])) path)
        before = .ok text := by
      have hagrees := fs.lines_agree n (stack ++ [fs.identity path]) path before
      rw [hbefore] at hagrees
      exact hagrees
    rw [lineExpansion] at hline
    split at hline
    · exact nomatch hline
    next optional argument hdirective =>
    split at hline
    · exact nomatch hline
    next htarget =>
    have hreach : fs.ReachesInclude (stack, path) optional
        (fs.includePath path (includeTarget argument)) :=
      ⟨source, before, line, after, argument, text, by show stack.length < 32; omega, hfresh,
        hsource, hlines, by rw [hleft]; exact hread, hdirective, htarget, rfl⟩
    have hagrees := fs.reading_agrees n (stack ++ [fs.identity path])
      (fs.includePath path (includeTarget argument))
    split at hline
    · exact nomatch hline
    · split at hline <;> simp at hline
    · next belowOptional hexpansion =>
      cases belowOptional with
      | true =>
        obtain ⟨file, hopens, hdrops⟩ := ih _ _ hnext hexpansion
        exact ⟨file, .head ⟨rfl, optional, hreach⟩ hopens, hdrops⟩
      | false =>
        obtain rfl : optional = true := by simpa using hline
        rw [hexpansion] at hagrees
        obtain ⟨error, herror, hpasses⟩ := hagrees
        obtain ⟨missing, rfl⟩ := passesOver_true hpasses
        obtain ⟨_, found, _, _, hfound, _⟩ := expansion_missing hexpansion
        exact ⟨(stack, path), .refl, _, missing, hreach, by rw [hleft]; exact herror,
          by rw [hfound]; exact nofun⟩
    · exact nomatch hline

/-- Where no missing file is below an optional include, an include that the reading comes to has
    none below it either, and none at all if it is optional. -/
theorem expansion_of_reachesInclude {file : List P × P} {optional : Bool} {target : P}
    (hreach : fs.ReachesInclude file optional target)
    (h : fs.expansion (32 - file.1.length) file.1 file.2 ≠ .error (.missing true)) :
    ∀ belowOptional, fs.expansion (31 - file.1.length) (file.1 ++ [fs.identity file.2]) target
        = .error (.missing belowOptional) → (optional || belowOptional) = false := by
  intro belowOptional htarget
  obtain ⟨source, before, line, after, argument, text, hroom, hfresh, hsource, hlines, hbefore,
    hdirective, hnonempty, rfl⟩ := hreach
  have hagrees := fs.lines_agree (31 - file.1.length) (file.1 ++ [fs.identity file.2]) file.2 before
  obtain ⟨n, hn⟩ : ∃ n, 31 - file.1.length = n := ⟨_, rfl⟩
  rw [show 32 - file.1.length = n + 1 by omega, expansion, if_neg hfresh, hsource] at h
  simp only [hlines, pieces_append] at h
  rw [hn] at hbefore hagrees htarget
  rw [hbefore] at hagrees
  split at h
  · next problem hproblem =>
    rw [hproblem] at hagrees
    match problem, hagrees with
    | .missing true, _ => exact absurd rfl h
    | .broken, ⟨_, herror, _⟩ => exact nomatch herror
    | .absent, ⟨_, herror, _⟩ => exact nomatch herror
    | .missing false, ⟨_, herror, _⟩ => exact nomatch herror
  next text' _ =>
  cases hor : optional || belowOptional with
  | false => rfl
  | true =>
    have hline : fs.lineExpansion (fs.expansion n (file.1 ++ [fs.identity file.2])) file.2 line
        = .error (.missing true) := by
      rw [lineExpansion, hdirective]
      simp only
      rw [if_neg hnonempty, htarget]
      simp only [hor]
    rw [pieces, hline] at h
    exact absurd rfl h

/-! ## What is wrong with a file -/

variable (fs) in
/-- Something is wrong with a file below the files of the stack: the nesting is too deep, the file
    reaches itself or cannot be read, or one of its include lines is empty, cannot do without a
    file that does not exist, or includes a file with which something is wrong. -/
inductive Troubled : List P → P → Prop
  | nested (stack path) (h : 32 ≤ stack.length) : Troubled stack path
  | cycle (stack path) (h : fs.identity path ∈ stack) : Troubled stack path
  | unreadable (stack path) (h : fs.readToString path = .error .other) : Troubled stack path
  | empty (stack path source line optional argument) (hsource : fs.readToString path = .ok source)
      (hline : line ∈ lines source) (hdirective : includeDirective line = some (optional, argument))
      (h : includeTarget argument = "") : Troubled stack path
  | missing (stack path source line argument) (hsource : fs.readToString path = .ok source)
      (hline : line ∈ lines source) (hdirective : includeDirective line = some (false, argument))
      (h : fs.readToString (fs.includePath path (includeTarget argument)) = .error .notFound) :
      Troubled stack path
  | inside (stack path source line optional argument) (hsource : fs.readToString path = .ok source)
      (hline : line ∈ lines source) (hdirective : includeDirective line = some (optional, argument))
      (h : Troubled (stack ++ [fs.identity path]) (fs.includePath path (includeTarget argument))) :
      Troubled stack path

theorem expansion_error {n : Nat} {stack : List P} {path : P} {problem : Problem}
    (hn : n = 32 - stack.length) (h : fs.expansion n stack path = .error problem) :
    problem ≠ .absent ∧ fs.Troubled stack path
      ∨ problem = .absent ∧ fs.readToString path = .error .notFound := by
  induction n generalizing stack path problem with
  | zero =>
    obtain rfl : .broken = problem := Except.error.inj h
    exact .inl ⟨nofun, .nested _ _ (by omega)⟩
  | succ n ih =>
    rw [expansion] at h
    split at h
    · next hcycle =>
      obtain rfl : .broken = problem := Except.error.inj h
      exact .inl ⟨nofun, .cycle _ _ hcycle⟩
    split at h
    · next hsource => exact .inr ⟨(Except.error.inj h).symm, hsource⟩
    · next hsource =>
      obtain rfl : .broken = problem := Except.error.inj h
      exact .inl ⟨nofun, .unreadable _ _ hsource⟩
    next source hsource =>
    obtain ⟨before, line, after, _, hlines, _, hline⟩ := pieces_error h
    have hmem : line ∈ lines source := by
      rw [hlines]
      exact List.mem_append_right _ (List.mem_cons_self ..)
    have hnext : n = 32 - (stack ++ [fs.identity path]).length := by
      rw [List.length_append, List.length_singleton]
      omega
    left
    rw [lineExpansion] at hline
    split at hline
    · exact nomatch hline
    next optional argument hdirective =>
    split at hline
    · next hempty =>
      obtain rfl : .broken = problem := Except.error.inj hline
      exact ⟨nofun, .empty _ _ _ _ _ _ hsource hmem hdirective hempty⟩
    split at hline
    · exact nomatch hline
    · next htarget =>
      obtain ⟨h', _⟩ | ⟨_, habsent⟩ := ih hnext htarget
      · exact absurd rfl h'
      cases optional with
      | true => exact nomatch hline
      | false =>
        obtain rfl : .missing false = problem := Except.error.inj hline
        exact ⟨nofun, .missing _ _ _ _ _ hsource hmem hdirective habsent⟩
    · next belowOptional htarget =>
      obtain rfl : .missing _ = problem := Except.error.inj hline
      obtain ⟨_, htroubled⟩ | ⟨h', _⟩ := ih hnext htarget
      · exact ⟨nofun, .inside _ _ _ _ _ _ hsource hmem hdirective htroubled⟩
      · exact nomatch h'
    · next htarget =>
      obtain rfl : .broken = problem := Except.error.inj hline
      obtain ⟨_, htroubled⟩ | ⟨h', _⟩ := ih hnext htarget
      · exact ⟨nofun, .inside _ _ _ _ _ _ hsource hmem hdirective htroubled⟩
      · exact nomatch h'

omit [DecidableEq P] in
theorem lineExpansion_ne_absent {expand : P → Except Problem String} {path : P} {line : String} :
    fs.lineExpansion expand path line ≠ .error .absent := by
  intro h
  rw [lineExpansion] at h
  split at h
  · exact nomatch h
  split at h
  · exact nomatch h
  split at h
  · exact nomatch h
  · split at h
    · exact nomatch h
    · exact nomatch h
  · exact nomatch h
  · exact nomatch h

/-- A line with a problem is a problem of its file. -/
theorem expansion_of_line {stack : List P} {path : P} {source line : String}
    (hsource : fs.readToString path = .ok source) (hmem : line ∈ lines source)
    (hline : ∃ problem, fs.lineExpansion
      (fs.expansion (31 - stack.length) (stack ++ [fs.identity path])) path line = .error problem) :
    ∃ problem, problem ≠ .absent
      ∧ fs.expansion (32 - stack.length) stack path = .error problem := by
  by_cases hfull : 32 ≤ stack.length
  · rw [Nat.sub_eq_zero_of_le hfull]
    exact ⟨.broken, nofun, rfl⟩
  rw [show 32 - stack.length = 31 - stack.length + 1 by omega, expansion]
  split
  · exact ⟨.broken, nofun, rfl⟩
  obtain ⟨problem, hproblem⟩ := hline
  obtain ⟨first, line', _, hfirst, hpieces⟩ := pieces_fails hmem hproblem
  rw [hsource]
  exact ⟨first, fun h => lineExpansion_ne_absent (h ▸ hfirst), hpieces⟩

theorem expansion_of_troubled {stack : List P} {path : P} (h : fs.Troubled stack path) :
    ∃ problem, problem ≠ .absent
      ∧ fs.expansion (32 - stack.length) stack path = .error problem := by
  induction h with
  | nested stack path hfull =>
    rw [Nat.sub_eq_zero_of_le hfull]
    exact ⟨.broken, nofun, rfl⟩
  | cycle stack path hcycle =>
    cases 32 - stack.length with
    | zero => exact ⟨.broken, nofun, rfl⟩
    | succ n => exact ⟨.broken, nofun, by rw [expansion, if_pos hcycle]⟩
  | unreadable stack path hsource =>
    cases 32 - stack.length with
    | zero => exact ⟨.broken, nofun, rfl⟩
    | succ n =>
      refine ⟨.broken, nofun, ?_⟩
      rw [expansion, hsource]
      split <;> rfl
  | empty stack path source line optional argument hsource hline hdirective hempty =>
    refine expansion_of_line hsource hline ⟨.broken, ?_⟩
    rw [lineExpansion, hdirective]
    exact if_pos hempty
  | missing stack path source line argument hsource hline hdirective habsent =>
    refine expansion_of_line hsource hline ?_
    rw [lineExpansion, hdirective]
    simp only
    split
    · exact ⟨_, rfl⟩
    cases 31 - stack.length with
    | zero => exact ⟨_, rfl⟩
    | succ n =>
      rw [expansion, habsent]
      split
      · next h => split at h <;> exact nomatch h
      · exact ⟨_, rfl⟩
      · exact ⟨_, rfl⟩
      · exact ⟨_, rfl⟩
  | inside stack path source line optional argument hsource hline hdirective _ ih =>
    refine expansion_of_line hsource hline ?_
    obtain ⟨problem, hproblem, hexpansion⟩ := ih
    rw [List.length_append, List.length_singleton,
      show 32 - (stack.length + 1) = 31 - stack.length by omega] at hexpansion
    rw [lineExpansion, hdirective]
    simp only
    rw [hexpansion]
    split
    · exact ⟨_, rfl⟩
    cases problem with
    | absent => exact absurd rfl hproblem
    | missing belowOptional => exact ⟨_, rfl⟩
    | broken => exact ⟨_, rfl⟩

/-! ## The whole reading -/

variable (fs) in
/-- The reading of a file always ends, with the stack as it was; a text it gives is the expansion
    of the file; an include it passes over is of a file that does not exist; and it fails if and
    only if the file is missing or something is wrong with it. -/
structure ExpandsIncludes (root : P) : Prop where
  terminates : ∀ (stack : List P) path fuel, 32 - stack.length < fuel →
    fs.readWithIncludes fuel path stack = some (fs.reading (32 - stack.length) stack path, stack)
  expands : ∀ text, fs.reading 32 [] root = .ok text ↔ fs.expansion 32 [] root = .ok text
  keeps : ∀ file, Relation.ReflTransGen fs.Opens ([], root) file → ¬ fs.Drops file
  fails : (∃ error, fs.reading 32 [] root = .error error)
    ↔ fs.Troubled [] root ∨ fs.readToString root = .error .notFound

theorem reading_ok_iff {root : P} (h : fs.expansion 32 [] root ≠ .error (.missing true))
    (text : String) : fs.reading 32 [] root = .ok text ↔ fs.expansion 32 [] root = .ok text := by
  have hagrees := fs.reading_agrees 32 [] root
  cases hexpansion : fs.expansion 32 [] root with
  | ok text' =>
    rw [hexpansion] at hagrees
    simp only [show fs.reading 32 [] root = .ok text' from hagrees, Except.ok.injEq]
  | error problem =>
    rw [hexpansion] at hagrees h
    match problem, hagrees with
    | .missing true, _ => exact absurd rfl h
    | .broken, ⟨_, herror, _⟩ => simp only [herror, reduceCtorEq]
    | .absent, ⟨_, herror, _⟩ => simp only [herror, reduceCtorEq]
    | .missing false, ⟨_, herror, _⟩ => simp only [herror, reduceCtorEq]

theorem expansion_of_opens {root : P} (h : fs.expansion 32 [] root ≠ .error (.missing true))
    {file : List P × P} (hopens : Relation.ReflTransGen fs.Opens ([], root) file) :
    fs.expansion (32 - file.1.length) file.1 file.2 ≠ .error (.missing true) := by
  induction hopens with
  | refl => exact h
  | @tail file next _ hopen ih =>
    obtain ⟨hstack, optional, hreach⟩ := hopen
    intro hnext
    rw [hstack, List.length_append, List.length_singleton,
      show 32 - (file.1.length + 1) = 31 - file.1.length by omega] at hnext
    simpa using expansion_of_reachesInclude hreach ih true hnext

theorem not_drops {file : List P × P}
    (h : fs.expansion (32 - file.1.length) file.1 file.2 ≠ .error (.missing true)) :
    ¬ fs.Drops file := by
  rintro ⟨target, missing, hreach, hread, hexists⟩
  have htarget := fs.reading_agrees (31 - file.1.length) (file.1 ++ [fs.identity file.2]) target
  rw [hread] at htarget
  cases hexpansion : fs.expansion (31 - file.1.length) (file.1 ++ [fs.identity file.2]) target with
  | ok text =>
    rw [hexpansion] at htarget
    exact nomatch htarget
  | error problem =>
    rw [hexpansion] at htarget
    match problem, htarget with
    | .missing belowOptional, _ =>
      simpa using expansion_of_reachesInclude hreach h belowOptional hexpansion
    | .broken, ⟨_, herror, hpasses⟩ =>
      rw [← Except.error.inj herror] at hpasses
      exact nomatch hpasses
    | .absent, _ =>
      have hlevel : 31 - file.1.length = 32 - (file.1 ++ [fs.identity file.2]).length := by
        rw [List.length_append, List.length_singleton]
        omega
      obtain ⟨h', _⟩ | ⟨_, habsent⟩ := expansion_error hlevel hexpansion
      · exact absurd rfl h'
      · exact hexists habsent

theorem expansion_error_iff (root : P) : (∃ problem, fs.expansion 32 [] root = .error problem)
      ↔ fs.Troubled [] root ∨ fs.readToString root = .error .notFound := by
  constructor
  · rintro ⟨problem, hexpansion⟩
    have hlevel : 32 = 32 - ([] : List P).length := rfl
    obtain ⟨_, htroubled⟩ | ⟨_, habsent⟩ := expansion_error hlevel hexpansion
    · exact .inl htroubled
    · exact .inr habsent
  · rintro (htroubled | habsent)
    · obtain ⟨problem, _, hexpansion⟩ := expansion_of_troubled htroubled
      exact ⟨problem, hexpansion⟩
    · exact ⟨.absent, by rw [expansion, if_neg List.not_mem_nil, habsent]⟩

/-- A reading expands its includes if and only if the first problem of the file is not a missing
    file below an optional include. -/
theorem expandsIncludes_iff (fs : FileSystem P) (root : P) :
    fs.ExpandsIncludes root ↔ fs.expansion 32 [] root ≠ .error (.missing true) := by
  constructor
  · intro h hmissing
    obtain ⟨file, hopens, hdrops⟩ := drops_of_missing 32 [] root rfl hmissing
    exact h.keeps file hopens hdrops
  intro h
  refine ⟨fun stack path fuel => readWithIncludes_eq fuel stack path, reading_ok_iff h,
    fun file hopens => not_drops (expansion_of_opens h hopens), ?_⟩
  rw [← expansion_error_iff]
  -- The two fail together, since they succeed together.
  cases hread : fs.reading 32 [] root with
  | ok text => simp only [(reading_ok_iff h text).mp hread, reduceCtorEq, exists_false]
  | error error =>
    cases hexpansion : fs.expansion 32 [] root with
    | ok text =>
      rw [(reading_ok_iff h text).mpr hexpansion] at hread
      exact nomatch hread
    | error problem => exact ⟨fun _ => ⟨problem, rfl⟩, fun _ => ⟨error, rfl⟩⟩

/-- Three files, of which the first includes the second optionally and the second includes the
    third, which does not exist. -/
def optionalChain : FileSystem Nat where
  canonicalize path := some path
  readToString
    | 0 => .ok "#tryinclude b"
    | 1 => .ok "#include c"
    | _ => .error .notFound
  includePath path _ := path + 1
  display path := toString path

/-- The second file exists and is dropped. -/
theorem optionalChain_drops : ¬ optionalChain.ExpandsIncludes 0 := by
  intro h
  have hread : optionalChain.reading 32 [] 0 = .ok "" := by decide +kernel
  have hexpansion : optionalChain.expansion 32 [] 0 = .error (.missing true) := by decide +kernel
  have hexpands := (h.expands "").mp hread
  rw [hexpansion] at hexpands
  exact nomatch hexpands

end FileSystem

end Sccp.Includes
