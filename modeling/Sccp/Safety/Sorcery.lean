/-
  Sccp.Safety.Sorcery

  What the last known good inventory of a provider is, along any run of calls.

  The calls that have returned say which inventory may be kept, which configuration may be
  activated and what was rejected.  The provider keeps one candidate and one rejection for two
  entry points; neither is touched when a refresh is refused, nor when a load fails for want of
  a fallback.
-/

import Sccp.Config.Sorcery
import Sccp.Lib.Runs

namespace Sccp.Config

open Sccp Runs

variable {Config ConfigError : Type}
variable {parser : ConfigParser Config ConfigError} {p : Provider Config ConfigError}
  {sources : Sources ConfigError} {s : ProviderState Config ConfigError}
  {initial : Option SorceryInventory} {storeError : Option String}

/-! ## What the calls say -/

/-- The base, the inventory and the configuration of sources that were accepted, if the sources
    were read as far as the desired inventory. -/
def outcome (parser : ConfigParser Config ConfigError) (sources : Sources ConfigError) :
    Option (Option (String × SorceryInventory × Config)) :=
  match sources.base with
  | .error _ => none
  | .ok contents =>
    match parser.configurationSource contents with
    | .ok .sorcery =>
      match sources.desired with
      | .error _ => some none
      | .ok desired =>
        match parser.compile contents desired "sorcery desired inventory" with
        | .ok config => some (some (contents, desired, config))
        | .error _ => some none
    | _ => none

/-- Whether the desired inventory of the latest call that reached one was rejected. -/
def lastRejected (parser : ConfigParser Config ConfigError) :
    List (Returned Config ConfigError) → Bool
  | [] => false
  | .activated _ _ :: earlier => lastRejected parser earlier
  | .candidate _ sources _ :: earlier =>
    match outcome parser sources with
    | none => lastRejected parser earlier
    | some desired => desired.isNone

/-- The configuration that the latest load or refresh returned. -/
def lastReturned : List (Returned Config ConfigError) → Option Config
  | [] => none
  | .activated _ _ :: earlier => lastReturned earlier
  | .candidate _ _ (.ok config) :: _ => some config
  | .candidate _ _ (.error _) :: _ => none

/-- The latest load or refresh that returned a configuration. -/
def lastCandidate : List (Returned Config ConfigError) → Option (Sources ConfigError × Config)
  | [] => none
  | .candidate _ sources (.ok config) :: _ => some (sources, config)
  | _ :: earlier => lastCandidate earlier

/-- The base and the configuration of the latest desired inventory that was activated. -/
def lastActivated (parser : ConfigParser Config ConfigError) :
    List (Returned Config ConfigError) → Option (String × Config)
  | [] => none
  | .activated config (.ok ()) :: earlier =>
    match (lastCandidate earlier).bind fun candidate => outcome parser candidate.1 with
    | some (some (contents, _, _)) => some (contents, config)
    | _ => lastActivated parser earlier
  | _ :: earlier => lastActivated parser earlier

/-- What a provider owes its deployment after the calls that have returned. -/
structure Trustworthy (parser : ConfigParser Config ConfigError)
    (initial : Option SorceryInventory) (p : Provider Config ConfigError) : Prop where
  /-- The last known good inventory is the first one, or one whose configuration was returned
      and then activated. -/
  lastKnownGood : p.lastKnownGood = initial
    ∨ ∃ later config between allowFallback sources earlier contents inventory,
        p.returned = later ++ .activated config (.ok ()) ::
            (between ++ .candidate allowFallback sources (.ok config) :: earlier)
          ∧ outcome parser sources = some (some (contents, inventory, config))
          ∧ p.lastKnownGood = some inventory
  /-- Only what the latest load or refresh returned is activated. -/
  activation : ∀ later config earlier, p.returned = later ++ .activated config (.ok ()) :: earlier →
      lastReturned earlier = some config
  /-- A refresh returns what its own desired inventory compiles to. -/
  refresh : ∀ sources config, .candidate false sources (.ok config) ∈ p.returned →
    ∃ contents inventory, outcome parser sources = some (some (contents, inventory, config))
  rejection : p.state.rejectedDesired.isSome = lastRejected parser p.returned
  /-- A load with the base of the latest activated desired inventory returns the configuration
      that was activated when it has to fall back. -/
  recovery : ∀ contents config, lastActivated parser p.returned = some (contents, config) →
    ∀ sources, sources.base = .ok contents → outcome parser sources = some none →
      sources.lastKnownGoodError = none →
        (p.state.loadCandidate parser true sources p.lastKnownGood).2 = .ok config

/-! ## Loads and refreshes -/

/-- Whether there is an inventory to fall back to that compiles with a base. -/
def canFallBack (parser : ConfigParser Config ConfigError) (p : Provider Config ConfigError)
    (sources : Sources ConfigError) : Bool :=
  match sources.base, sources.lastKnownGoodError, p.lastKnownGood with
  | .ok contents, none, some inventory =>
    (parser.compile contents inventory "sorcery last-known-good").isOk
  | _, _, _ => false

/-- A load or refresh that does not reach a desired inventory fails and changes nothing. -/
theorem loadCandidate_unreached (allowFallback : Bool) (lastKnownGood : Option SorceryInventory)
    (h : outcome parser sources = none) : ∃ error,
    s.loadCandidate parser allowFallback sources lastKnownGood = (s, .error error) := by
  unfold outcome at h
  unfold ProviderState.loadCandidate
  rcases hbase : sources.base with error | contents
  · exact ⟨error, rfl⟩
  rw [hbase] at h
  dsimp only at h ⊢
  split at h
  · split at h
    · cases h
    · split at h <;> cases h
  next hsource =>
  split
  · exact ⟨_, rfl⟩
  · exact ⟨_, rfl⟩
  · next hsorcery => exact absurd hsorcery hsource

/-- A desired inventory that compiles is the candidate. -/
theorem loadCandidate_accepted {allowFallback : Bool} {lastKnownGood : Option SorceryInventory}
    {contents : String} {inventory : SorceryInventory} {config : Config}
    (h : outcome parser sources = some (some (contents, inventory, config))) :
    s.loadCandidate parser allowFallback sources lastKnownGood
      = (⟨some ⟨config, some inventory⟩, none⟩, .ok config) := by
  unfold outcome at h
  unfold ProviderState.loadCandidate
  rcases hbase : sources.base with _ | contents'
  · rw [hbase] at h
    cases h
  rw [hbase] at h
  dsimp only at h ⊢
  split at h
  · next hsource =>
    rw [hsource]
    rcases hdesired : sources.desired with _ | desired
    · rw [hdesired] at h
      cases h
    rw [hdesired] at h
    dsimp only at h ⊢
    rcases hcompile : parser.compile contents' desired "sorcery desired inventory" with _ | config'
    · rw [hcompile] at h
      cases h
    rw [hcompile] at h
    cases h
    rfl
  · cases h

/-- The last known good inventory as the sources let a load see it. -/
def Sources.stored (sources : Sources ConfigError) (lastKnownGood : Option SorceryInventory) :
    Except String (Option SorceryInventory) :=
  match sources.lastKnownGoodError with
  | some error => .error error
  | none => .ok lastKnownGood

/-- After a rejection a load falls back, and a refresh is refused. -/
theorem loadCandidate_rejected (allowFallback : Bool) (lastKnownGood : Option SorceryInventory)
    (h : outcome parser sources = some none) : ∃ contents error, sources.base = .ok contents
      ∧ s.loadCandidate parser allowFallback sources lastKnownGood = if allowFallback then
            s.fallback parser contents (sources.stored lastKnownGood) error
          else s.reject error := by
  unfold outcome at h
  unfold ProviderState.loadCandidate
  rcases hbase : sources.base with _ | contents
  · rw [hbase] at h
    cases h
  rw [hbase] at h
  dsimp only at h ⊢
  split at h
  · next hsource =>
    rw [hsource]
    rcases hdesired : sources.desired with message | desired
    · exact ⟨contents, _, rfl, rfl⟩
    rw [hdesired] at h
    dsimp only at h ⊢
    rcases hcompile : parser.compile contents desired "sorcery desired inventory" with error | _
    · exact ⟨contents, _, rfl, rfl⟩
    rw [hcompile] at h
    cases h
  · cases h

theorem fallback_ok {contents : String} {inventory : SorceryInventory} {config : Config}
    (h : parser.compile contents inventory "sorcery last-known-good" = .ok config)
    (error : ProviderError ConfigError) : s.fallback parser contents (.ok (some inventory)) error
      = (⟨some ⟨config, none⟩, some error⟩, .ok config) := by
  unfold ProviderState.fallback
  simp only [h]
  rfl

/-- The outcome of a compilation does not depend on the origin it is reported under. -/
theorem compile_origin {parser : ConfigParser Config ConfigError} {contents : String}
    {inventory : SorceryInventory} {origin : String} {config : Config}
    (h : parser.compile contents inventory origin = .ok config) (origin' : String) :
    parser.compile contents inventory origin' = .ok config := by
  unfold ConfigParser.compile at h ⊢
  split at h
  · cases h
  next overlays hoverlays =>
  split at h
  · cases h
  · exact h

/-- What accepted sources hold. -/
theorem compile_of_outcome {contents : String} {inventory : SorceryInventory} {config : Config}
    (h : outcome parser sources = some (some (contents, inventory, config))) :
    parser.compile contents inventory "sorcery desired inventory" = .ok config := by
  unfold outcome at h
  split at h
  · cases h
  split at h
  · split at h
    · cases h
    · split at h
      · next hcompile => cases h; exact hcompile
      · cases h
  · cases h

/-- The answers of a load or a refresh, and what each leaves. -/
inductive CandidateSpec (parser : ConfigParser Config ConfigError)
    (p : Provider Config ConfigError) (allowFallback : Bool) (sources : Sources ConfigError) :
    ProviderState Config ConfigError × Answer ConfigError Config → Prop where
  | unreached {error} (h : outcome parser sources = none) :
      CandidateSpec parser p allowFallback sources (p.state, .error error)
  | accepted {contents inventory config}
      (h : outcome parser sources = some (some (contents, inventory, config))) :
      CandidateSpec parser p allowFallback sources
        (⟨some ⟨config, some inventory⟩, none⟩, .ok config)
  | refused {error} (h : outcome parser sources = some none) (hrefresh : allowFallback = false) :
      CandidateSpec parser p allowFallback sources
        ({ p.state with rejectedDesired := some error }, .error error)
  | fellBack {error config} (h : outcome parser sources = some none)
      (hload : allowFallback = true) (hcan : canFallBack parser p sources = true) :
      CandidateSpec parser p allowFallback sources (⟨some ⟨config, none⟩, some error⟩, .ok config)
  | stuck {error} (h : outcome parser sources = some none) (hload : allowFallback = true)
      (hcannot : canFallBack parser p sources = false) :
      CandidateSpec parser p allowFallback sources (p.state, .error error)

theorem fallback_spec {contents : String} (h : outcome parser sources = some none)
    (hbase : sources.base = .ok contents) (error : ProviderError ConfigError) :
    CandidateSpec parser p true sources
      (p.state.fallback parser contents (sources.stored p.lastKnownGood) error) := by
  unfold Sources.stored
  rcases hstored : sources.lastKnownGoodError with _ | message
  · rcases hgood : p.lastKnownGood with _ | inventory
    · exact .stuck h rfl (by simp only [canFallBack, hbase, hstored, hgood])
    · rcases hcompile : parser.compile contents inventory "sorcery last-known-good"
        with error' | config
      · have hcannot : canFallBack parser p sources = false := by
          simp only [canFallBack, hbase, hstored, hgood, hcompile]
          rfl
        unfold ProviderState.fallback
        simp only [hcompile]
        exact .stuck h rfl hcannot
      · have hcan : canFallBack parser p sources = true := by
          simp only [canFallBack, hbase, hstored, hgood, hcompile]
          rfl
        simp only [fallback_ok hcompile]
        exact .fellBack h rfl hcan
  · exact .stuck h rfl (by simp only [canFallBack, hbase, hstored])

theorem loadCandidate_spec (parser : ConfigParser Config ConfigError)
    (p : Provider Config ConfigError) (allowFallback : Bool) (sources : Sources ConfigError) :
    CandidateSpec parser p allowFallback sources
      (p.state.loadCandidate parser allowFallback sources p.lastKnownGood) := by
  rcases houtcome : outcome parser sources with _ | _ | ⟨contents, inventory, config⟩
  · obtain ⟨error, heq⟩ := loadCandidate_unreached (s := p.state)
      allowFallback p.lastKnownGood houtcome
    rw [heq]
    exact .unreached houtcome
  · obtain ⟨contents, error, hbase, heq⟩ := loadCandidate_rejected (s := p.state)
      allowFallback p.lastKnownGood houtcome
    rw [heq]
    cases allowFallback with
    | true => exact fallback_spec houtcome hbase error
    | false => exact .refused houtcome rfl
  · rw [loadCandidate_accepted houtcome]
    exact .accepted houtcome

/-- An activation succeeds just when the configuration is the candidate's and the inventory it
    was compiled from, if there is one, can be stored. -/
def CanActivate (p : Provider Config ConfigError) (config : Config)
    (storeError : Option String) : Prop :=
  ∃ pending ∈ p.state.pending, pending.config = config
    ∧ (pending.inventory.isSome = true → storeError = none)

theorem activated_ok [DecidableEq Config] {pending : PendingCandidate Config}
    (hpending : s.pending = some pending)
    (hstore : pending.inventory.isSome = true → storeError = none) :
    s.activated pending.config storeError
      = ({ s with pending := none }, pending.inventory, .ok ()) := by
  unfold ProviderState.activated
  rw [hpending]
  dsimp only
  rw [if_pos rfl]
  split
  · next hinventory => exact absurd (hstore (by rw [hinventory]; rfl)) nofun
  · rfl

theorem activated_error [DecidableEq Config] {config : Config}
    (h : ¬ CanActivate p config storeError) :
    ∃ error, p.state.activated config storeError = (p.state, none, .error error) := by
  unfold ProviderState.activated
  split
  · exact ⟨_, rfl⟩
  next pending hpending =>
  split
  · next hconfig =>
    cases hinventory : pending.inventory with
    | none => exact absurd ⟨pending, hpending, hconfig, by rw [hinventory]; nofun⟩ h
    | some inventory =>
      cases storeError with
      | none => exact absurd ⟨pending, hpending, hconfig, fun _ => rfl⟩ h
      | some message => exact ⟨_, rfl⟩
  · exact ⟨_, rfl⟩

/-! ## The candidate and the calls -/

/-- Where a candidate comes from: the desired inventory of the sources, which is then to be
    kept, or the last known good one. -/
def ComesFrom (parser : ConfigParser Config ConfigError) (sources : Sources ConfigError)
    (pending : PendingCandidate Config) : Prop :=
  match pending.inventory with
  | some inventory =>
    ∃ contents, outcome parser sources = some (some (contents, inventory, pending.config))
  | none => outcome parser sources = some none

/-- What a provider keeps of the calls that have returned. -/
structure Tracks (parser : ConfigParser Config ConfigError) (initial : Option SorceryInventory)
    (p : Provider Config ConfigError) : Prop where
  trustworthy : Trustworthy parser initial p
  /-- The candidate is the latest one returned. -/
  pending : ∀ pending ∈ p.state.pending, ∃ sources,
    lastCandidate p.returned = some (sources, pending.config) ∧ ComesFrom parser sources pending
  /-- The inventory of the latest activation is the one kept. -/
  activated : ∀ contents config, lastActivated parser p.returned = some (contents, config) →
    ∃ inventory, p.lastKnownGood = some inventory
      ∧ parser.compile contents inventory "sorcery last-known-good" = .ok config

theorem lastCandidate_split {returned : List (Returned Config ConfigError)} {config : Config}
    (h : lastCandidate returned = some (sources, config)) : ∃ between allowFallback earlier,
      returned = between ++ .candidate allowFallback sources (.ok config) :: earlier := by
  induction returned with
  | nil => cases h
  | cons r earlier ih =>
    unfold lastCandidate at h
    split at h
    · cases h
    · next hr =>
      cases hr
      cases h
      exact ⟨[], _, earlier, rfl⟩
    · next hr =>
      cases hr
      obtain ⟨between, allowFallback, before, heq⟩ := ih h
      exact ⟨r :: between, allowFallback, before, congrArg (r :: ·) heq⟩

/-- What the latest load or refresh returned is the latest candidate. -/
theorem lastCandidate_of_lastReturned {returned : List (Returned Config ConfigError)}
    {config : Config} (h : lastReturned returned = some config) :
    ∃ sources, lastCandidate returned = some (sources, config) := by
  induction returned with
  | nil => cases h
  | cons r earlier ih =>
    cases r with
    | activated config' answer => exact ih h
    | candidate allowFallback sources answer =>
      cases answer with
      | error error => cases h
      | ok config' =>
        cases h
        exact ⟨sources, rfl⟩

/-- If the inventory of the latest activation is kept, a load with its base that has to fall
    back returns the configuration that was activated. -/
theorem recovers {contents : String} {config : Config} {inventory : SorceryInventory}
    (hgood : p.lastKnownGood = some inventory)
    (hcompile : parser.compile contents inventory "sorcery last-known-good" = .ok config)
    (hbase : sources.base = .ok contents) (hrejected : outcome parser sources = some none)
    (hreadable : sources.lastKnownGoodError = none) :
    (p.state.loadCandidate parser true sources p.lastKnownGood).2 = .ok config := by
  obtain ⟨contents', error, hbase', heq⟩ := loadCandidate_rejected (s := p.state)
    true p.lastKnownGood hrejected
  have hstored : sources.stored p.lastKnownGood = .ok (some inventory) := by
    rw [Sources.stored, hreadable, hgood]
  rw [hbase] at hbase'
  cases hbase'
  rw [heq, if_pos rfl, hstored, fallback_ok hcompile]

/-- A step keeps what was trusted before, if what it adds can be trusted. -/
theorem Trustworthy.cons {p' : Provider Config ConfigError} (h : Trustworthy parser initial p)
    {r : Returned Config ConfigError} (hreturned : p'.returned = r :: p.returned)
    (hgood : p'.lastKnownGood = p.lastKnownGood
      ∨ ∃ config between allowFallback sources earlier contents inventory,
          r = .activated config (.ok ())
            ∧ p.returned = between ++ .candidate allowFallback sources (.ok config) :: earlier
            ∧ outcome parser sources = some (some (contents, inventory, config))
            ∧ p'.lastKnownGood = some inventory)
    (hactivation : ∀ config, r = .activated config (.ok ()) → lastReturned p.returned = some config)
    (hrefresh : ∀ sources config, r = .candidate false sources (.ok config) →
      ∃ contents inventory, outcome parser sources = some (some (contents, inventory, config)))
    (hrejection : p'.state.rejectedDesired.isSome = lastRejected parser p'.returned)
    (hrecovery : ∀ contents config, lastActivated parser p'.returned = some (contents, config) →
        ∃ inventory, p'.lastKnownGood = some inventory
          ∧ parser.compile contents inventory "sorcery last-known-good" = .ok config) :
    Trustworthy parser initial p' where
  lastKnownGood := by
    rw [hreturned]
    rcases hgood with hsame | ⟨config, between, allowFallback, sources, earlier, contents,
      inventory, hr, hsplit, houtcome, hkept⟩
    · rw [hsame]
      rcases h.lastKnownGood with hinitial | ⟨later, config, between, allowFallback, sources,
        earlier, contents, inventory, hsplit, houtcome, hkept⟩
      · exact .inl hinitial
      · exact .inr ⟨r :: later, config, between, allowFallback, sources, earlier, contents,
          inventory, congrArg (r :: ·) hsplit, houtcome, hkept⟩
    · exact .inr ⟨[], config, between, allowFallback, sources, earlier, contents, inventory,
        by rw [hr, hsplit]; rfl, houtcome, hkept⟩
  activation := by
    intro later config earlier heq
    rw [hreturned] at heq
    cases later with
    | nil =>
      obtain ⟨hr, hrest⟩ := List.cons.inj heq
      rw [← hrest]
      exact hactivation config hr
    | cons r' later => exact h.activation later config earlier (List.cons.inj heq).2
  refresh := by
    intro sources config hmem
    rw [hreturned] at hmem
    rcases List.mem_cons.mp hmem with hr | hmem
    · exact hrefresh sources config hr.symm
    · exact h.refresh sources config hmem
  rejection := hrejection
  recovery := by
    intro contents config hlast sources hbase hrejected hreadable
    obtain ⟨inventory, hkept, hcompile⟩ := hrecovery contents config hlast
    exact recovers hkept hcompile hbase hrejected hreadable

/-! ## Steps -/

/-- What a call must meet: an activation follows a load or refresh that did not fail, and a
    load that is stuck with a rejected inventory finds the rejection of an earlier one. -/
def Covered (parser : ConfigParser Config ConfigError) (p : Provider Config ConfigError) :
    ProviderCall Config ConfigError → Prop
  | .load sources => outcome parser sources = some none →
      canFallBack parser p sources = false → p.state.rejectedDesired.isSome = true
  | .refresh _ => True
  | .activated config storeError => CanActivate p config storeError →
      (lastReturned p.returned).isSome = true

theorem Tracks.candidate (h : Tracks parser initial p) (allowFallback : Bool)
    (sources : Sources ConfigError)
    (hstuck : allowFallback = true → outcome parser sources = some none →
      canFallBack parser p sources = false → p.state.rejectedDesired.isSome = true) :
    Tracks parser initial (p.candidate parser allowFallback sources) := by
  unfold Provider.candidate
  have hspec := loadCandidate_spec parser p allowFallback sources
  generalize p.state.loadCandidate parser allowFallback sources p.lastKnownGood = result at hspec
  have htrust := h.trustworthy
  cases hspec with
  | unreached houtcome =>
    refine ⟨htrust.cons rfl (.inl rfl) nofun nofun ?_ h.activated, h.pending, h.activated⟩
    simp only [lastRejected, houtcome]
    exact htrust.rejection
  | accepted houtcome =>
    refine ⟨htrust.cons rfl (.inl rfl) nofun ?_ ?_ h.activated, ?_, h.activated⟩
    · intro sources' config' heq
      cases heq
      exact ⟨_, _, houtcome⟩
    · simp only [lastRejected, houtcome]
      rfl
    · intro pending hpending
      cases hpending
      exact ⟨sources, rfl, _, houtcome⟩
  | refused houtcome hrefresh =>
    refine ⟨htrust.cons rfl (.inl rfl) nofun nofun ?_ h.activated, h.pending, h.activated⟩
    simp only [lastRejected, houtcome]
    rfl
  | fellBack houtcome hload hcan =>
    refine ⟨htrust.cons rfl (.inl rfl) nofun ?_ ?_ h.activated, ?_, h.activated⟩
    · intro sources' config' heq
      cases heq
      cases hload
    · simp only [lastRejected, houtcome]
      rfl
    · intro pending hpending
      cases hpending
      exact ⟨sources, rfl, houtcome⟩
  | stuck houtcome hload hcannot =>
    refine ⟨htrust.cons rfl (.inl rfl) nofun nofun ?_ h.activated, h.pending, h.activated⟩
    simp only [lastRejected, houtcome]
    exact hstuck hload houtcome hcannot

theorem Tracks.activate [DecidableEq Config] (h : Tracks parser initial p) {config : Config}
    (hcovered : CanActivate p config storeError → (lastReturned p.returned).isSome = true) :
    Tracks parser initial (p.step parser (.activated config storeError)) := by
  unfold Provider.step
  have htrust := h.trustworthy
  by_cases hcan : CanActivate p config storeError
  · obtain ⟨pending, hpending, rfl, hstore⟩ := hcan
    obtain ⟨sources, hlast, hfrom⟩ := h.pending pending hpending
    obtain ⟨between, allowFallback, earlier, hsplit⟩ := lastCandidate_split hlast
    obtain ⟨config, hreturned⟩ := Option.isSome_iff_exists.mp
      (hcovered ⟨pending, hpending, rfl, hstore⟩)
    obtain ⟨sources', hlast'⟩ := lastCandidate_of_lastReturned hreturned
    obtain ⟨-, rfl⟩ : sources = sources' ∧ pending.config = config :=
      Prod.mk.inj (Option.mem_unique hlast hlast')
    simp only [activated_ok hpending hstore]
    unfold ComesFrom at hfrom
    cases hinventory : pending.inventory with
    | none =>
      rw [hinventory] at hfrom
      have hactivated : ∀ contents config', lastActivated parser
          (.activated pending.config (.ok ()) :: p.returned) = some (contents, config') →
          ∃ inventory, p.lastKnownGood = some inventory
            ∧ parser.compile contents inventory "sorcery last-known-good" = .ok config' := by
        intro contents config' hactive
        unfold lastActivated at hactive
        rw [hlast, Option.bind_some, hfrom] at hactive
        exact h.activated contents config' hactive
      refine ⟨htrust.cons rfl (.inl rfl) ?_ nofun ?_ hactivated, nofun, hactivated⟩
      · intro config' heq
        cases heq
        exact hreturned
      · exact htrust.rejection
    | some inventory =>
      rw [hinventory] at hfrom
      obtain ⟨contents, houtcome⟩ := hfrom
      have hactivated : ∀ contents' config', lastActivated parser
          (.activated pending.config (.ok ()) :: p.returned) = some (contents', config') →
          ∃ inventory', some inventory = some inventory'
            ∧ parser.compile contents' inventory' "sorcery last-known-good" = .ok config' := by
        intro contents' config' hactive
        unfold lastActivated at hactive
        rw [hlast, Option.bind_some, houtcome] at hactive
        cases hactive
        exact ⟨inventory, rfl, compile_origin (compile_of_outcome houtcome) _⟩
      refine ⟨htrust.cons rfl (.inr ⟨pending.config, between, allowFallback, sources, earlier,
        contents, inventory, rfl, hsplit, houtcome, rfl⟩) ?_ nofun ?_ hactivated, nofun, hactivated⟩
      · intro config' heq
        cases heq
        exact hreturned
      · exact htrust.rejection
  · obtain ⟨error, heq⟩ := activated_error hcan
    simp only [heq]
    exact ⟨htrust.cons rfl (.inl rfl) nofun nofun htrust.rejection h.activated, h.pending,
      h.activated⟩

theorem Tracks.step [DecidableEq Config] (h : Tracks parser initial p)
    (call : ProviderCall Config ConfigError) (hcovered : Covered parser p call) :
    Tracks parser initial (p.step parser call) := by
  cases call with
  | load sources => exact h.candidate true sources fun _ => hcovered
  | refresh sources => exact h.candidate false sources nofun
  | activated config storeError => exact h.activate hcovered

/-- A call that is not covered ends the trust. -/
theorem Tracks.covered [DecidableEq Config] {call : ProviderCall Config ConfigError}
    (htrust : Trustworthy parser initial (p.step parser call)) : Covered parser p call := by
  cases call with
  | load sources =>
    intro houtcome hcannot
    have hrejection := htrust.rejection
    unfold Provider.step Provider.candidate at hrejection
    have hspec := loadCandidate_spec parser p true sources
    rcases hresult : p.state.loadCandidate parser true sources p.lastKnownGood with ⟨state, answer⟩
    rw [hresult] at hspec
    simp only [hresult, lastRejected, houtcome] at hrejection
    cases hspec with
    | unreached h => rw [houtcome] at h; cases h
    | accepted h => rw [houtcome] at h; cases h
    | refused h hrefresh => cases hrefresh
    | fellBack h hload hcan => rw [hcannot] at hcan; cases hcan
    | stuck h hload _ => exact hrejection
  | refresh sources => trivial
  | activated config storeError =>
    intro hcan
    obtain ⟨pending, hpending, rfl, hstore⟩ := hcan
    have hactivation := htrust.activation []
    unfold Provider.step at hactivation
    simp only [activated_ok hpending hstore] at hactivation
    rw [hactivation pending.config p.returned rfl]
    rfl

/-- A provider that has not been called keeps track of nothing. -/
theorem tracks_start (parser : ConfigParser Config ConfigError)
    (initial : Option SorceryInventory) : Tracks parser initial { lastKnownGood := initial } where
  trustworthy :=
    { lastKnownGood := .inl rfl
      activation := fun later _ _ heq => absurd heq.symm (by simp)
      refresh := fun _ _ hmem => absurd hmem List.not_mem_nil
      rejection := rfl
      recovery := nofun }
  pending := nofun
  activated := nofun

/-- A provider can be trusted along a run just when all of its calls are covered. -/
theorem trustworthy_iff_covered [DecidableEq Config] (parser : ConfigParser Config ConfigError)
    (initial : Option SorceryInventory) (calls : List (ProviderCall Config ConfigError)) :
    Always (Provider.step parser) (Trustworthy parser initial) { lastKnownGood := initial } calls
      ↔ Each (Provider.step parser) (Covered parser) { lastKnownGood := initial } calls :=
  always_iff_each (fun _ h => h.trustworthy) (fun _ call h hcovered => h.step call hcovered)
    (fun _ _ _ htrust => Tracks.covered htrust) (tracks_start parser initial) calls

/-- A configuration stays activatable after a refresh that was refused. -/
theorem not_trustworthy_stale_candidate : ¬ Always
    (Provider.step (⟨fun _ => .ok .sorcery, fun _ overlays => .ok overlays.length, "base"⟩ :
      ConfigParser Nat Unit))
    (Trustworthy ⟨fun _ => .ok .sorcery, fun _ overlays => .ok overlays.length, "base"⟩ none)
    { lastKnownGood := none }
    [.load { base := .ok "", desired := .ok {} },
      .refresh { base := .ok "", desired := .error "the database is locked" },
      .activated 0 none] := by
  intro h
  exact absurd (h.2.2.2.activation [] 0 _ rfl) nofun

end Sccp.Config
