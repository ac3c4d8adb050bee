/-
  Sccp.Safety.Realtime

  Decoding puts the sections of a snapshot together again.

  The rows may come in any order: sorting them by their place gives the one order in which the
  sections were written, the metadata rows are passed over, and each remaining row adds the
  field it encodes to the section it names.  Rows that do not form one snapshot are rejected.
-/

import Sccp.Config.Realtime

namespace Sccp.Realtime

variable {rows : List RealtimeRow} {revision : String} {state : Decoding}

/-! ## Hexadecimal text -/

theorem byte_of_nibbles (b : UInt8) : (b >>> 4) <<< 4 ||| (b &&& 15) = b := by
  have key : ∀ n : Fin 256,
      (UInt8.ofNat n >>> 4) <<< 4 ||| (UInt8.ofNat n &&& 15) = UInt8.ofNat n := by
    decide +kernel
  have h := key ⟨b.toNat, b.toNat_lt⟩
  simpa using h

/-- The two digits of a byte. -/
def nibbles (b : UInt8) : List (Option UInt8) := [some (b >>> 4), some (b &&& 15)]

/-- The first text spells out the bytes of the second in digits of either case. -/
def HexOf (encoded text : String) : Prop :=
  (utf8 encoded).map hexDigit = (utf8 text).flatMap nibbles

theorem hexPairs_of_digits {digits bytes : List UInt8}
    (h : digits.map hexDigit = bytes.flatMap nibbles) :
    hexPairs digits = some bytes ∧ digits.length = 2 * bytes.length := by
  induction bytes generalizing digits with
  | nil =>
    have hnil : digits = [] := by simpa using h
    subst hnil
    exact ⟨rfl, rfl⟩
  | cons b bytes ih =>
    obtain _ | ⟨first, _ | ⟨second, rest⟩⟩ := digits
    · simp [nibbles] at h
    · simp [nibbles] at h
    simp only [List.map_cons, List.flatMap_cons, nibbles, List.cons_append, List.nil_append,
      List.cons.injEq] at h
    obtain ⟨hfirst, hsecond, hrest⟩ := h
    obtain ⟨hbytes, hlength⟩ := ih hrest
    refine ⟨?_, by simp only [List.length_cons]; omega⟩
    rw [hexPairs, hfirst, hsecond, hbytes]
    simp only [Option.map_some, byte_of_nibbles]

theorem decodeHexText_of_hexOf {encoded text : String} (h : HexOf encoded text) (row : Nat) :
    decodeHexText encoded row = .ok text := by
  obtain ⟨hpairs, hlength⟩ := hexPairs_of_digits h
  unfold decodeHexText
  rw [if_neg (by omega), hpairs]
  simp only [ofUtf8?_utf8]

/-! ## Snapshots as rows -/

structure SnapshotSection where
  name : String
  fields : List RealtimeField
  nonempty : fields ≠ []

/-- The section as a row of the result: its name and then its fields. -/
def SnapshotSection.row (s : SnapshotSection) : RealtimeRow := ⟨⟨"name", some s.name⟩ :: s.fields⟩

/-- The fields of a section, each with the name of the section. -/
def SnapshotSection.cells (s : SnapshotSection) : List (String × RealtimeField) :=
  s.fields.map fun field => (s.name, field)

/-- The place of a row, if it has one. -/
def placeOf (row : RealtimeRow) : Option Nat :=
  (fieldValue row "_row_order").join.bind (parseUnsigned 64)

/-- The row has a place and belongs to a revision. -/
structure Placed (revision : String) (place : Nat) (row : RealtimeRow) : Prop where
  place : placeOf row = some place
  revision : fieldValue row "_revision" = some (some revision)

/-- The kind and the encoded value of a row are those of a value. -/
def EncodesValue (row : RealtimeRow) (value : Option String) : Prop :=
  ∃ kind encoded, fieldValue row "_field_kind" = some (some kind)
    ∧ fieldValue row "_field_value" = some (some encoded) ∧ match value with
      | none => kind = "null"
      | some text => if text = "" then kind = "empty" else kind = "value" ∧ HexOf encoded text

/-- The row encodes a field of a section at a place. -/
structure EncodesCell (revision : String) (cell : Nat × String × RealtimeField)
    (row : RealtimeRow) : Prop extends Placed revision cell.1 row where
  data : isMetadata row = false
  name : fieldValue row "name" = some (some cell.2.1)
  fieldName : fieldValue row "_field_name" = some (some cell.2.2.name)
  value : EncodesValue row cell.2.2.value

structure EncodesMetadata (revision : String) (place : Nat) (row : RealtimeRow) : Prop
    extends Placed revision place row where
  metadata : isMetadata row = true

/-- The rows are those of one snapshot of the sections, in any order: one row for each field,
    at places that increase along the sections, and any number of metadata rows. -/
def IsSnapshot (revision : String) (sections : List SnapshotSection) (rows : List RealtimeRow) :
    Prop :=
  ∃ cells fieldRows places metadataRows, cells.map (·.2) = sections.flatMap (·.cells)
      ∧ (cells.map (·.1)).Pairwise (· < ·) ∧ List.Forall₂ (EncodesCell revision) cells fieldRows
      ∧ List.Forall₂ (EncodesMetadata revision) places metadataRows
      ∧ (cells.map (·.1) ++ places).Nodup ∧ rows.Perm (fieldRows ++ metadataRows)

theorem requiredText_of {row : RealtimeRow} {name text : String}
    (h : fieldValue row name = some (some text)) (rowIndex : Nat) :
    requiredText row rowIndex name = .ok text := by
  unfold requiredText
  rw [h]

theorem of_requiredText {row : RealtimeRow} {rowIndex : Nat} {name text : String}
    (h : requiredText row rowIndex name = .ok text) : fieldValue row name = some (some text) := by
  unfold requiredText at h
  split at h
  · next text' hvalue =>
    cases h
    exact hvalue
  · cases h

/-- What a row that encodes a cell is decoded to, wherever it stands. -/
theorem EncodesCell.decodeField {cell : Nat × String × RealtimeField} {row : RealtimeRow}
    (h : EncodesCell revision cell row) (rowIndex : Nat) :
    decodeField rowIndex row = .ok cell.2 := by
  obtain ⟨place, «section», name, value⟩ := cell
  obtain ⟨kind, encoded, hkind, hencoded, hvalue⟩ := h.value
  unfold Realtime.decodeField
  rw [requiredText_of h.name, requiredText_of h.fieldName, requiredText_of hkind,
    requiredText_of hencoded]
  simp only [bind, Except.bind]
  cases value with
  | none =>
    have hkind : kind = "null" := hvalue
    rw [if_pos hkind]
  | some text =>
    simp only at hvalue
    split at hvalue
    · next hempty =>
      rw [hvalue, hempty]
      rfl
    · obtain ⟨rfl, hhex⟩ := hvalue
      rw [if_neg (by decide), if_neg (by decide), if_pos rfl, decodeHexText_of_hexOf hhex]

/-! ## The order of the rows -/

theorem orderedRow_ok {entry : RealtimeRow × Nat} {ordered : OrderedRow} :
    orderedRow entry = .ok ordered ↔
      placeOf entry.1 = some ordered.order ∧ ordered.rowIndex = entry.2
        ∧ ordered.row = entry.1 := by
  obtain ⟨row, rowIndex⟩ := entry
  obtain ⟨order, rowIndex', row'⟩ := ordered
  unfold orderedRow requiredText placeOf
  simp only [bind, Except.bind]
  rcases fieldValue row "_row_order" with _ | _ | text
  · simp
  · simp
  simp only [Option.join_some, Option.bind_some]
  cases parseUnsigned 64 text with
  | none => simp
  | some order' =>
    simp only [Except.ok.injEq, OrderedRow.mk.injEq, Option.some.injEq, eq_comm]

/-- The rows with their places, if each of them has one. -/
theorem orderedRows_ok {ordered : List OrderedRow} (h : rows.zipIdx.mapM orderedRow = .ok ordered) :
    ordered.map (·.row) = rows ∧ ∀ e ∈ ordered, placeOf e.row = some e.order := by
  have key : ∀ (entries : List (RealtimeRow × Nat)) (ordered : List OrderedRow),
      List.Forall₂ (fun entry e => orderedRow entry = .ok e) entries ordered →
      ordered.map (·.row) = entries.map (·.1) ∧ ∀ e ∈ ordered, placeOf e.row = some e.order := by
    intro entries ordered h
    induction h with
    | nil => exact ⟨rfl, fun e he => by cases he⟩
    | cons hone _ ih =>
      obtain ⟨hplace, _, hrow⟩ := orderedRow_ok.mp hone
      refine ⟨by simp only [List.map_cons, hrow, ih.1], fun e he => ?_⟩
      rcases List.mem_cons.mp he with rfl | he
      · rw [hrow, hplace]
      · exact ih.2 e he
  obtain ⟨hrows, hplaces⟩ := key _ _ (Checked.mapM_ok.mp h)
  exact ⟨by simpa using hrows, hplaces⟩

theorem exists_orderedRows (h : ∀ row ∈ rows, placeOf row ≠ none) :
    ∃ ordered, rows.zipIdx.mapM orderedRow = .ok ordered := by
  have key : ∀ entries : List (RealtimeRow × Nat), (∀ e ∈ entries, placeOf e.1 ≠ none) →
      ∃ ordered, List.Forall₂ (fun entry e => orderedRow entry = .ok e) entries ordered := by
    intro entries hentries
    induction entries with
    | nil => exact ⟨[], .nil⟩
    | cons entry rest ih =>
      obtain ⟨ordered, hrest⟩ := ih fun e he => hentries e (List.mem_cons_of_mem _ he)
      obtain ⟨place, hplace⟩ :=
        Option.ne_none_iff_exists'.mp (hentries entry (List.mem_cons_self ..))
      exact ⟨⟨place, entry.2, entry.1⟩ :: ordered,
        .cons (orderedRow_ok.mpr ⟨hplace, rfl, rfl⟩) hrest⟩
  obtain ⟨ordered, h⟩ := key rows.zipIdx fun e he => h e.1 (List.fst_mem_of_mem_zipIdx he)
  exact ⟨ordered, Checked.mapM_ok.mpr h⟩

theorem sortRows_perm (rows : List OrderedRow) : (sortRows rows).Perm rows :=
  List.perm_insertionSort _ rows

theorem sortRows_pairwise (rows : List OrderedRow) :
    (sortRows rows).Pairwise fun a b => a.order ≤ b.order := by
  have htotal : Std.Total fun a b : OrderedRow => a.order ≤ b.order :=
    ⟨fun a b => Nat.le_total a.order b.order⟩
  have htrans : IsTrans OrderedRow fun a b => a.order ≤ b.order := ⟨fun _ _ _ => Nat.le_trans⟩
  exact List.pairwise_insertionSort _ rows

/-- Among rows in their order, no two have the same place when no neighbours do. -/
theorem repeatedOrder_none {rows : List OrderedRow}
    (h : rows.Pairwise fun a b => a.order ≤ b.order) :
    repeatedOrder rows = none ↔ (rows.map (·.order)).Nodup := by
  induction rows with
  | nil => simp [repeatedOrder]
  | cons first rest ih =>
    obtain ⟨hfirst, hrest⟩ := List.pairwise_cons.mp h
    obtain _ | ⟨second, rest⟩ := rest
    · simp [repeatedOrder]
    rw [repeatedOrder, List.map_cons, List.nodup_cons]
    split
    · next heq =>
      simp [heq]
    next hne =>
    rw [ih hrest, iff_and_self]
    intro _ hmem
    obtain ⟨e, he, heq⟩ := List.mem_map.mp hmem
    have hle := hfirst second (List.mem_cons_self ..)
    rcases List.mem_cons.mp he with rfl | he
    · exact hne heq.symm
    · have := (List.pairwise_cons.mp hrest).1 e he
      omega

/-! ## The run over the rows -/

theorem addField_revision (state : Decoding) (name : String) (field : RealtimeField) :
    (state.addField name field).revision = state.revision := by
  unfold Decoding.addField
  simp only
  split <;> rfl

theorem decodeRow_ok {state' : Decoding} {e : OrderedRow} (h : decodeRow state e = .ok state') :
    ∃ revision, fieldValue e.row "_revision" = some (some revision)
      ∧ state'.revision = some revision ∧ (∀ r, state.revision = some r → r = revision) := by
  unfold decodeRow at h
  obtain ⟨revision, hrevision, h⟩ := Checked.bind_ok.mp h
  obtain ⟨checked, hchecked, h⟩ := Checked.bind_ok.mp h
  have hsame : checked = some revision ∧ ∀ r, state.revision = some r → r = revision := by
    unfold checkRevision at hchecked
    split at hchecked
    · next hnone =>
      cases hchecked
      exact ⟨rfl, fun r hr => by rw [hnone] at hr; cases hr⟩
    next expected hsome =>
    split at hchecked
    · next heq =>
      cases hchecked
      rw [hsome, heq]
      exact ⟨rfl, fun r hr => (Option.some.inj hr).symm⟩
    · cases hchecked
  refine ⟨revision, of_requiredText hrevision, ?_, hsame.2⟩
  split at h
  · cases h
    exact hsame.1
  · obtain ⟨cell, _, h⟩ := Checked.bind_ok.mp h
    cases h
    exact (addField_revision ..).trans hsame.1

/-- After a run all rows are of the revision that it ended with. -/
theorem run_revisions {entries : List OrderedRow} {state' : Decoding}
    (h : entries.foldlM decodeRow state = .ok state') :
    (∀ r, state.revision = some r → state'.revision = some r)
      ∧ ∀ e ∈ entries, ∃ r, fieldValue e.row "_revision" = some (some r)
        ∧ state'.revision = some r := by
  induction entries generalizing state with
  | nil =>
    cases h
    exact ⟨fun r hr => hr, fun e he => by cases he⟩
  | cons e rest ih =>
    rw [List.foldlM_cons] at h
    obtain ⟨next, hnext, h⟩ := Checked.bind_ok.mp h
    obtain ⟨revision, hrevision, hafter, hbefore⟩ := decodeRow_ok hnext
    obtain ⟨hkeep, hrest⟩ := ih h
    refine ⟨fun r hr => ?_, fun e' he' => ?_⟩
    · rw [hbefore r hr]
      exact hkeep _ hafter
    · rcases List.mem_cons.mp he' with rfl | he'
      · exact ⟨revision, hrevision, hkeep _ hafter⟩
      · exact hrest e' he'

/-- The cell of a row that is not about the snapshot itself. -/
def cellOf (row : RealtimeRow) : Option (String × RealtimeField) :=
  if isMetadata row then none else (decodeField 0 row).toOption

/-- A row that encodes a cell, or one about the snapshot itself. -/
def Encodes (revision : String) (row : RealtimeRow) : Prop :=
  (∃ place, EncodesMetadata revision place row) ∨ ∃ cell, EncodesCell revision cell row

/-- One row adds its cell, if it has one. -/
theorem decodeRow_encoded {e : OrderedRow} (h : Encodes revision e.row)
    (hstate : ∀ r, state.revision = some r → r = revision) :
    decodeRow state e = .ok ((cellOf e.row).toList.foldl
      (fun d cell => d.addField cell.1 cell.2) { state with revision := some revision }) := by
  have hrevision : fieldValue e.row "_revision" = some (some revision) := by
    rcases h with ⟨_, h⟩ | ⟨_, h⟩
    · exact h.revision
    · exact h.revision
  have hcheck : checkRevision state.revision revision = .ok (some revision) := by
    unfold checkRevision
    split
    · rfl
    · next expected hsome =>
      rw [hstate expected hsome, if_pos rfl, hsome, hstate expected hsome]
  unfold decodeRow cellOf
  rw [requiredText_of hrevision]
  simp only [bind, Except.bind, hcheck]
  rcases h with ⟨_, h⟩ | ⟨cell, h⟩
  · rw [if_pos h.metadata, if_pos h.metadata]
    rfl
  · rw [if_neg (by simp [h.data]), if_neg (by simp [h.data]), h.decodeField, h.decodeField]
    rfl

/-- The run over encoded rows adds their cells one by one. -/
theorem run_encoded {entries : List OrderedRow} (h : ∀ e ∈ entries, Encodes revision e.row)
    (hstate : state.revision = some revision) :
    entries.foldlM decodeRow state = .ok (((entries.map (·.row)).filterMap cellOf).foldl
      (fun state cell => state.addField cell.1 cell.2) state) := by
  induction entries generalizing state with
  | nil => rfl
  | cons e rest ih =>
    have hsame : ({ state with revision := some revision } : Decoding) = state := by rw [← hstate]
    rw [List.foldlM_cons, decodeRow_encoded (h e (List.mem_cons_self ..)) fun r hr =>
      (Option.mem_unique hr hstate), hsame, List.map_cons, List.filterMap_cons]
    simp only [bind, Except.bind]
    have hrest := fun e he => h e (List.mem_cons_of_mem _ he)
    cases cellOf e.row with
    | none => exact ih hrest hstate
    | some cell => exact ih hrest ((addField_revision ..).trans hstate)

/-! ## Sections -/

theorem pushField_append (rows : List RealtimeRow) (last : RealtimeRow) (field : RealtimeField) :
    pushField (rows ++ [last]) field = rows ++ [⟨last.fields ++ [field]⟩] := by
  induction rows with
  | nil => rfl
  | cons row rest ih =>
    obtain _ | ⟨second, rest⟩ := rest
    · rfl
    · exact congrArg (row :: ·) ih

/-- Fields of the current section go to the last row. -/
theorem foldl_current {d : Decoding} {last : RealtimeRow} {name : String}
    (fields : List RealtimeField) (hrows : d.decoded = rows ++ [last])
    (hcurrent : d.currentSection = some name) :
    (fields.map fun field => (name, field)).foldl
        (fun d cell => d.addField cell.1 cell.2) d
      = { d with decoded := rows ++ [⟨last.fields ++ fields⟩] } := by
  induction fields generalizing d last with
  | nil => simp [← hrows]
  | cons field rest ih =>
    have hadd : d.addField name field
        = { d with decoded := rows ++ [⟨last.fields ++ [field]⟩] } := by
      unfold Decoding.addField
      rw [if_pos hcurrent]
      simp only [hrows, pushField_append]
    rw [List.map_cons, List.foldl_cons, hadd]
    refine (ih (d := { d with decoded := rows ++ [⟨last.fields ++ [field]⟩] }) rfl
      hcurrent).trans ?_
    simp

/-- A section that is not the current one becomes a row of its own. -/
theorem foldl_section {d : Decoding} (s : SnapshotSection)
    (hcurrent : d.currentSection ≠ some s.name) :
    s.cells.foldl (fun d cell => d.addField cell.1 cell.2) d
      = { d with
          decoded := d.decoded ++ [s.row]
          currentSection := some s.name } := by
  obtain ⟨name, fields, hfields⟩ := s
  obtain _ | ⟨field, rest⟩ := fields
  · exact absurd rfl hfields
  have hadd : d.addField name field = { d with
      decoded := d.decoded ++ [⟨[⟨"name", some name⟩, field]⟩]
      currentSection := some name } := by
    unfold Decoding.addField
    rw [if_neg hcurrent]
    simp only [pushField_append]
    rfl
  simp only [SnapshotSection.cells, List.map_cons, List.foldl_cons]
  rw [hadd]
  exact foldl_current (d := { d with
    decoded := d.decoded ++ [⟨[⟨"name", some name⟩, field]⟩]
    currentSection := some name }) rest rfl rfl

theorem foldl_sections {d : Decoding} {sections : List SnapshotSection}
    (hnames : sections.IsChain fun a b => a.name ≠ b.name)
    (hcurrent : ∀ s ∈ sections.head?, d.currentSection ≠ some s.name) :
    ((sections.flatMap (·.cells)).foldl (fun d cell => d.addField cell.1 cell.2) d).decoded
      = d.decoded ++ sections.map (·.row) ∧ ((sections.flatMap (·.cells)).foldl
        (fun d cell => d.addField cell.1 cell.2) d).revision = d.revision := by
  induction sections generalizing d with
  | nil => simp
  | cons s rest ih =>
    rw [List.flatMap_cons, List.foldl_append, foldl_section s (hcurrent s rfl)]
    have hnext : ∀ s' ∈ rest.head?, (some s.name : Option String) ≠ some s'.name := by
      intro s' hs'
      obtain _ | ⟨second, rest⟩ := rest
      · cases hs'
      · cases hs'
        exact fun heq => (List.isChain_cons_cons.mp hnames).1 (Option.some.inj heq)
    obtain ⟨hdecoded, hrevision⟩ := ih (d := { d with
      decoded := d.decoded ++ [s.row], currentSection := some s.name }) hnames.of_cons hnext
    exact ⟨by rw [hdecoded]; simp, hrevision⟩

/-! ## Decoding -/

/-- What the decoder accepts is of one revision, and no two of its rows have the same place. -/
theorem decoded_versioned {load : RealtimeLoad} (h : decodeSnapshotRows rows = .ok load)
    (hversioned : ∃ row ∈ rows, (fieldValue row "_revision").isSome = true) :
    (∃ revision, ∀ row ∈ rows, fieldValue row "_revision" = some (some revision))
      ∧ (rows.filterMap placeOf).Nodup := by
  unfold decodeSnapshotRows at h
  rw [if_neg (by simpa [Option.isSome_iff_ne_none] using hversioned)] at h
  obtain ⟨ordered, hordered, h⟩ := Checked.bind_ok.mp h
  obtain ⟨hrows, hplaces⟩ := orderedRows_ok hordered
  have hperm := sortRows_perm ordered
  simp only at h
  split at h
  · cases h
  next hnone =>
  obtain ⟨d, hrun, -⟩ := Checked.bind_ok.mp h
  have hrevisions := (run_revisions hrun).2
  constructor
  · obtain ⟨revision, hrevision⟩ : ∃ revision, ∀ r, d.revision = some r → r = revision :=
      ⟨d.revision.getD "", fun r hr => by rw [hr]; rfl⟩
    refine ⟨revision, fun row hrow => ?_⟩
    rw [← hrows] at hrow
    obtain ⟨e, he, rfl⟩ := List.mem_map.mp hrow
    obtain ⟨r, hr, hd⟩ := hrevisions e (hperm.mem_iff.mpr he)
    rw [hr, hrevision r hd]
  have hnodup := (repeatedOrder_none (sortRows_pairwise ordered)).mp hnone
  have hmap : rows.filterMap placeOf = ordered.map (·.order) := by
    rw [← hrows, List.filterMap_map, ← List.filterMap_eq_map]
    exact List.filterMap_congr fun e he => hplaces e he
  rw [hmap]
  exact (hperm.map _).nodup_iff.mp hnodup

theorem forall₂_right {α β : Type} {R : α → β → Prop} {as : List α} {bs : List β} {b : β}
    (h : List.Forall₂ R as bs) (hb : b ∈ bs) : ∃ a ∈ as, R a b := by
  induction h with
  | nil => cases hb
  | cons hone _ ih =>
    rcases List.mem_cons.mp hb with rfl | hb
    · exact ⟨_, List.mem_cons_self .., hone⟩
    · obtain ⟨a, ha, hr⟩ := ih hb
      exact ⟨a, List.mem_cons_of_mem _ ha, hr⟩

theorem filterMap_forall₂ {α β γ : Type} {R : α → β → Prop} {f : α → γ} {g : β → Option γ}
    {as : List α} {bs : List β} (h : List.Forall₂ R as bs) (hg : ∀ a b, R a b → g b = some (f a)) :
    bs.filterMap g = as.map f := by
  induction h with
  | nil => rfl
  | cons hone _ ih => rw [List.filterMap_cons_some (hg _ _ hone), ih, List.map_cons]

/-- Rows that encode cells at increasing places are the rows with cells of any sorted list of
    the same rows and the metadata rows. -/
theorem filter_sorted {cells : List (Nat × String × RealtimeField)}
    {fieldRows metadataRows sorted : List RealtimeRow} {places : List Nat}
    (hcells : List.Forall₂ (EncodesCell revision) cells fieldRows)
    (hincreasing : (cells.map (·.1)).Pairwise (· < ·))
    (hmetadata : List.Forall₂ (EncodesMetadata revision) places metadataRows)
    (hperm : sorted.Perm (fieldRows ++ metadataRows))
    (hsorted : sorted.Pairwise fun a b => ∃ x y, placeOf a = some x ∧ placeOf b = some y ∧ x < y) :
    sorted.filter (fun row => !isMetadata row) = fieldRows := by
  have hfields : fieldRows.filter (fun row => !isMetadata row) = fieldRows := by
    refine List.filter_eq_self.mpr fun row hrow => ?_
    obtain ⟨cell, _, h⟩ := forall₂_right hcells hrow
    simp [h.data]
  have hmeta : metadataRows.filter (fun row => !isMetadata row) = [] := by
    refine List.filter_eq_nil_iff.mpr fun row hrow => ?_
    obtain ⟨place, _, h⟩ := forall₂_right hmetadata hrow
    simp [h.metadata]
  have hfilter := hperm.filter (fun row => !isMetadata row)
  rw [List.filter_append, hfields, hmeta, List.append_nil] at hfilter
  refine List.Perm.eq_of_pairwise ?_ (hsorted.filter _) ?_ hfilter
  · rintro a b _ _ ⟨x, y, hx, hy, hlt⟩ ⟨y', x', hy', hx', hlt'⟩
    rw [hx] at hx'
    rw [hy] at hy'
    cases hx'
    cases hy'
    omega
  clear hfields hfilter hperm
  induction hcells with
  | nil => exact .nil
  | cons hone hrest ih =>
    rw [List.map_cons, List.pairwise_cons] at hincreasing
    refine List.pairwise_cons.mpr ⟨fun row hrow => ?_, ih hincreasing.2⟩
    obtain ⟨cell, hcell, h⟩ := forall₂_right hrest hrow
    exact ⟨_, _, hone.place, h.place, hincreasing.1 _ (List.mem_map_of_mem hcell)⟩

/-- Whatever order the rows of a snapshot are in, its sections come back. -/
theorem decode_snapshot {sections : List SnapshotSection}
    (hsnapshot : IsSnapshot revision sections rows) (hrows : rows ≠ [])
    (hnames : sections.IsChain fun a b => a.name ≠ b.name) :
    decodeSnapshotRows rows = .ok ⟨some revision, sections.map (·.row)⟩ := by
  obtain ⟨cells, fieldRows, places, metadataRows, hcells, hincreasing, hfields, hmetadata, hnodup,
    hperm⟩ := hsnapshot
  -- every row has a place and encodes something of the revision
  have hencodes : ∀ row ∈ rows, Encodes revision row ∧ placeOf row ≠ none := by
    intro row hrow
    rcases List.mem_append.mp (hperm.mem_iff.mp hrow) with hrow | hrow
    · obtain ⟨cell, _, h⟩ := forall₂_right hfields hrow
      exact ⟨.inr ⟨cell, h⟩, by rw [h.place]; simp⟩
    · obtain ⟨place, _, h⟩ := forall₂_right hmetadata hrow
      exact ⟨.inl ⟨place, h⟩, by rw [h.place]; simp⟩
  have hversioned : ∃ row ∈ rows, (fieldValue row "_revision").isSome = true := by
    obtain ⟨row, hrow⟩ := List.exists_mem_of_ne_nil rows hrows
    refine ⟨row, hrow, ?_⟩
    rcases (hencodes row hrow).1 with ⟨_, h⟩ | ⟨_, h⟩
    · rw [h.revision]
      rfl
    · rw [h.revision]
      rfl
  obtain ⟨ordered, hordered⟩ := exists_orderedRows fun row hrow => (hencodes row hrow).2
  obtain ⟨hback, hplaces⟩ := orderedRows_ok hordered
  have hsame := sortRows_perm ordered
  have hentries : ∀ e ∈ sortRows ordered, e.row ∈ rows ∧ placeOf e.row = some e.order := by
    intro e he
    have he := hsame.mem_iff.mp he
    exact ⟨hback ▸ List.mem_map_of_mem he, hplaces e he⟩
  -- the places of the rows are those of the cells and of the metadata
  have hplaced : ((sortRows ordered).map (·.order)).Nodup := by
    have hmap : ordered.map (·.order) = rows.filterMap placeOf := by
      rw [← hback, List.filterMap_map, ← List.filterMap_eq_map]
      exact (List.filterMap_congr fun e he => hplaces e he).symm
    rw [(hsame.map _).nodup_iff, hmap, (hperm.filterMap _).nodup_iff, List.filterMap_append,
      filterMap_forall₂ (f := Prod.fst) hfields fun _ _ h => h.place,
      filterMap_forall₂ (f := id) hmetadata fun _ _ h => h.place, List.map_id]
    exact hnodup
  have hstrict : ((sortRows ordered).map (·.row)).Pairwise fun a b =>
      ∃ x y, placeOf a = some x ∧ placeOf b = some y ∧ x < y := by
    rw [List.pairwise_map]
    refine ((sortRows_pairwise ordered).and (List.pairwise_map.mp hplaced)).imp_of_mem ?_
    intro a b ha hb ⟨hle, hne⟩
    exact ⟨a.order, b.order, (hentries a ha).2, (hentries b hb).2, Nat.lt_of_le_of_ne hle hne⟩
  have hdata : ((sortRows ordered).map (·.row)).filterMap cellOf = sections.flatMap (·.cells) := by
    have hfilter := filter_sorted hfields hincreasing hmetadata
      ((hsame.map _).trans (hback ▸ hperm)) hstrict
    have hskip : ∀ rows : List RealtimeRow, rows.filterMap cellOf
        = (rows.filter fun row => !isMetadata row).filterMap cellOf := by
      intro rows
      rw [List.filterMap_filter]
      refine List.filterMap_congr fun row _ => ?_
      unfold cellOf
      cases isMetadata row <;> rfl
    rw [hskip, hfilter, ← hcells]
    refine filterMap_forall₂ hfields fun cell row h => ?_
    unfold cellOf
    rw [if_neg (by simp [h.data]), h.decodeField 0]
    rfl
  have hrun : (sortRows ordered).foldlM decodeRow {}
      = .ok ((sections.flatMap (·.cells)).foldl (fun state cell => state.addField cell.1 cell.2)
        { revision := some revision }) := by
    cases hs : sortRows ordered with
    | nil =>
      rw [hs] at hsame
      rw [← hback, ← hsame.nil_eq] at hrows
      exact absurd rfl hrows
    | cons e rest =>
      have hall : ∀ e' ∈ e :: rest, Encodes revision e'.row := fun e' he' =>
        (hencodes _ (hentries e' (hs ▸ he')).1).1
      rw [hs, List.map_cons] at hdata
      rw [← hdata, List.foldlM_cons, decodeRow_encoded (hall e (List.mem_cons_self ..))
        (fun r hr => by cases hr), List.filterMap_cons]
      simp only [bind, Except.bind]
      have hrest := fun e' he' => hall e' (List.mem_cons_of_mem _ he')
      cases cellOf e.row with
      | none => exact run_encoded hrest rfl
      | some cell => exact run_encoded hrest (addField_revision ..)
  unfold decodeSnapshotRows
  rw [if_neg (by simpa [Option.isSome_iff_ne_none] using hversioned), hordered]
  simp only [bind, Except.bind]
  rw [(repeatedOrder_none (sortRows_pairwise ordered)).mpr hplaced, hrun]
  obtain ⟨hdecoded, hrev⟩ := foldl_sections (d := { revision := some revision }) hnames
    fun s _ h => by cases h
  simp only [hdecoded, hrev, List.nil_append]

/-! ## Rejection -/

variable (rows)

/-- Two rows with different revisions. -/
def TwoRevisions : Prop :=
  ∃ row ∈ rows, ∃ row' ∈ rows, ∃ a b, fieldValue row "_revision" = some (some a)
    ∧ fieldValue row' "_revision" = some (some b) ∧ a ≠ b

/-- Two rows at the same place. -/
def RepeatedPlace : Prop := ¬(rows.filterMap placeOf).Nodup

/-- A row with a revision, which may be null. -/
def Versioned : Prop :=
  ∃ row ∈ rows, (fieldValue row "_revision").isSome = true

/-- A row without a revision, or with a null in its place. -/
def LacksRevision : Prop :=
  ∃ row ∈ rows, ∀ text, fieldValue row "_revision" ≠ some (some text)

def Rejected : Prop := ∃ error, decodeSnapshotRows rows = .error error

variable {rows}

theorem rejected_of
    (hbad : TwoRevisions rows ∨ Versioned rows ∧ (RepeatedPlace rows ∨ LacksRevision rows)) :
    Rejected rows := by
  have h : Versioned rows := by
    rcases hbad with ⟨row, hrow, _, _, a, _, ha, _⟩ | ⟨h, _⟩
    · exact ⟨row, hrow, by rw [ha]; rfl⟩
    · exact h
  cases hdecode : decodeSnapshotRows rows with
  | error error => exact ⟨error, hdecode⟩
  | ok load =>
    obtain ⟨⟨revision, hrevision⟩, hnodup⟩ := decoded_versioned hdecode h
    rcases hbad with ⟨row, hrow, row', hrow', a, b, ha, hb, hne⟩ |
      ⟨_, hrepeated | ⟨row, hrow, hnone⟩⟩
    · rw [hrevision row hrow] at ha
      rw [hrevision row' hrow'] at hb
      cases ha
      cases hb
      exact absurd rfl hne
    · exact absurd hnodup hrepeated
    · exact absurd (hrevision row hrow) (hnone revision)

/-- A permutation does not make rows acceptable. -/
theorem Perm.bad {rows' : List RealtimeRow} (hperm : rows.Perm rows') :
    (Versioned rows → Versioned rows') ∧ (TwoRevisions rows → TwoRevisions rows')
      ∧ (RepeatedPlace rows → RepeatedPlace rows')
      ∧ (LacksRevision rows → LacksRevision rows') := by
  refine ⟨fun ⟨row, hrow, h⟩ => ⟨row, hperm.mem_iff.mp hrow, h⟩, fun ⟨row, hrow, row', hrow', h⟩ =>
      ⟨row, hperm.mem_iff.mp hrow, row', hperm.mem_iff.mp hrow', h⟩,
    fun h hnodup => h ((hperm.filterMap _).nodup_iff.mpr hnodup),
    fun ⟨row, hrow, h⟩ => ⟨row, hperm.mem_iff.mp hrow, h⟩⟩

/-! ## Overlays -/

/-- The revision that a candidate has agreed on. -/
def CandidateRevision.agreed : CandidateRevision → Option (Option String)
  | .unknown => none
  | .unversioned => some none
  | .versioned revision => some (some revision)

theorem include_ok {self next : CandidateRevision} {family : String} {actual : Option String}
    (h : self.include family actual = .ok next) :
    next.agreed = some actual ∧ ∀ r, self.agreed = some r → r = actual := by
  unfold CandidateRevision.include at h
  cases actual <;> cases self
  case some.versioned actual expected =>
    simp only at h
    split at h
    · next heq =>
      cases h
      subst heq
      exact ⟨rfl, fun r hr => (Option.some.inj hr).symm⟩
    · cases h
  all_goals cases h
  all_goals exact ⟨rfl, fun r hr => by cases hr <;> rfl⟩

/-- The answers of a source to queries from a position on are all of one revision. -/
def OneRevision (source : RealtimeConfigurationSource) (revision : Option String)
    (position : Nat) (queries : List RealtimeConfigurationQuery) : Prop :=
  ∀ i query, queries[i]? = some query →
    ∃ load, source (position + i) query.family query.predicates = .ok load
      ∧ load.revision = revision

theorem loadQueries_ok {source : RealtimeConfigurationSource} {position : Nat}
    {agreed : CandidateRevision} {overlays result : List Config.ConfigOverlaySection}
    {queries : List RealtimeConfigurationQuery}
    (h : loadQueries source position agreed overlays queries = .ok result) :
    ∃ revision, (∀ r, agreed.agreed = some r → r = revision)
      ∧ OneRevision source revision position queries := by
  induction queries generalizing position agreed overlays with
  | nil =>
    refine ⟨agreed.agreed.getD none, fun r hr => by rw [hr]; rfl, fun i query hi => ?_⟩
    cases hi
  | cons query rest ih =>
    unfold loadQueries at h
    split at h
    · cases h
    split at h
    · cases h
    next load hload =>
    obtain ⟨next, hnext, h⟩ := Checked.bind_ok.mp h
    obtain ⟨sections, _, h⟩ := Checked.bind_ok.mp h
    obtain ⟨hagreed, hbefore⟩ := include_ok hnext
    obtain ⟨revision, hrevision, hrest⟩ := ih h
    have hsame := hrevision _ hagreed
    refine ⟨revision, fun r hr => (hbefore r hr).trans hsame, fun i query' hi => ?_⟩
    cases i with
    | zero =>
      cases hi
      exact ⟨load, hload, hsame⟩
    | succ i =>
      obtain ⟨load', hload', hrev⟩ := hrest i query' hi
      exact ⟨load', by rw [show position + (i + 1) = position + 1 + i by omega, hload'], hrev⟩

theorem loadRealtimeOverlays_ok {source : RealtimeConfigurationSource}
    {queries : List RealtimeConfigurationQuery} {result : List Config.ConfigOverlaySection}
    (h : loadRealtimeOverlays source queries = .ok result) :
    ∃ revision, OneRevision source revision 0 queries := by
  unfold loadRealtimeOverlays at h
  split at h
  · cases h
  · obtain ⟨revision, _, hone⟩ := loadQueries_ok h
    exact ⟨revision, hone⟩

/-! ## Results -/

/-- The sections of a snapshot come back whatever the order of its rows; rows of which one has
    a revision are rejected in every order when another has a different one or none, or when
    two have the same place; and overlays are loaded from answers of one revision only. -/
theorem snapshots_decoded :
    (∀ revision sections rows, IsSnapshot revision sections rows → rows ≠ [] →
      (sections.IsChain fun a b => a.name ≠ b.name) →
      decodeSnapshotRows rows = .ok ⟨some revision, sections.map (·.row)⟩)
    ∧ (∀ rows rows', rows.Perm rows' →
      TwoRevisions rows ∨ Versioned rows ∧ (RepeatedPlace rows ∨ LacksRevision rows) →
      Rejected rows') ∧ ∀ source queries result, loadRealtimeOverlays source queries = .ok result →
      ∃ revision, OneRevision source revision 0 queries := by
  refine ⟨fun revision sections rows hsnapshot hrows hnames =>
    decode_snapshot hsnapshot hrows hnames, fun rows rows' hperm hbad => ?_,
    fun source queries result h => loadRealtimeOverlays_ok h⟩
  obtain ⟨hkeep, htwo, hplace, hlacks⟩ := Perm.bad hperm
  exact rejected_of (hbad.imp htwo (And.imp hkeep (Or.imp hplace hlacks)))

namespace Sample

/-- A device with a type and an empty label, and a line with a value that is NULL. -/
def sections : List SnapshotSection :=
  [⟨"desk", [⟨"type", some "phone"⟩, ⟨"label", some ""⟩], by decide⟩,
    ⟨"line1", [⟨"mailbox", none⟩], by decide⟩]

/-- The row of a field of a section. -/
def fieldRow (place name field kind value : String) : RealtimeRow :=
  ⟨[⟨"_row_order", some place⟩, ⟨"_revision", some "r7"⟩, ⟨"name", some name⟩,
    ⟨"_field_name", some field⟩, ⟨"_field_kind", some kind⟩, ⟨"_field_value", some value⟩]⟩

def metadataRow : RealtimeRow :=
  ⟨[⟨"_row_order", some "0"⟩, ⟨"_revision", some "r7"⟩, ⟨"_metadata", some "1"⟩]⟩

def fieldRows : List RealtimeRow :=
  [fieldRow "2" "desk" "type" "value" "70686F6e65", fieldRow "3" "desk" "label" "empty" "",
    fieldRow "7" "line1" "mailbox" "null" ""]

end Sample

/-- The rows of a snapshot in another order than that of their places. -/
theorem snapshots_decoded_shuffled : decodeSnapshotRows
      ([Sample.metadataRow] ++ Sample.fieldRows.reverse)
    = .ok ⟨some "r7", Sample.sections.map (·.row)⟩ := by
  refine snapshots_decoded.1 "r7" Sample.sections _ ?_ (List.cons_ne_nil _ _) (by decide)
  refine ⟨[(2, "desk", ⟨"type", some "phone"⟩), (3, "desk", ⟨"label", some ""⟩),
    (7, "line1", ⟨"mailbox", none⟩)], Sample.fieldRows, [0], [Sample.metadataRow], rfl,
    by decide, ?_, ?_, by decide, ?_⟩
  · refine .cons ?_ (.cons ?_ (.cons ?_ .nil))
    · exact ⟨⟨by decide +kernel, rfl⟩, rfl, rfl, rfl, "value", "70686F6e65", rfl, rfl, rfl,
        by unfold HexOf; decide +kernel⟩
    · exact ⟨⟨by decide +kernel, rfl⟩, rfl, rfl, rfl, "empty", "", rfl, rfl, rfl⟩
    · exact ⟨⟨by decide +kernel, rfl⟩, rfl, rfl, rfl, "null", "", rfl, rfl, rfl⟩
  · exact .cons ⟨⟨by decide +kernel, rfl⟩, rfl⟩ .nil
  · exact List.perm_append_comm.trans ((List.reverse_perm _).append_right _)

/-- Rows without revisions pass through unchanged, even when two have the same place. -/
theorem unversioned_repeated :
    ¬∀ rows rows' : List RealtimeRow, rows.Perm rows' → RepeatedPlace rows → Rejected rows' := by
  intro h
  obtain ⟨error, herror⟩ := h [⟨[⟨"_row_order", some "1"⟩]⟩, ⟨[⟨"_row_order", some "1"⟩]⟩] _
    (.refl _) (by unfold RepeatedPlace; decide +kernel)
  have hok : decodeSnapshotRows
      [⟨[⟨"_row_order", some "1"⟩]⟩, ⟨[⟨"_row_order", some "1"⟩]⟩] = .ok ⟨none,
        [⟨[⟨"_row_order", some "1"⟩]⟩, ⟨[⟨"_row_order", some "1"⟩]⟩]⟩ := by
    decide +kernel
  rw [hok] at herror
  cases herror

end Sccp.Realtime
