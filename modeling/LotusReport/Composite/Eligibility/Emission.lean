import LotusReport.Composite.Eligibility.Projection

/-!
# The rows that are emitted

Every loop of the projection appends the rows that it should.
-/

namespace LotusReport.Composite.Eligibility

open Encoding Fallible

section Cells

variable {lib : SourceLibrary} {data v : Json} {value : Except CaptureError Json}
  {absence : Availability × List String} {source : RowSource} {pointer field : String}

/-- The pointer leads to the value, and a null there means the absence. -/
structure Points (lib : SourceLibrary) (data : Json) (value : Except CaptureError Json)
    (absence : Availability × List String) (pointer : String) : Prop where
  found : ∀ v, value = .ok v ↔ Resolves data pointer v
  absence : value = .ok .null → nullSemantics lib data pointer = .ok absence

theorem Points.shows
    (h : Points lib data (source.value field) (source.absence field) pointer)
    {cell : CompositeCell} (hcell : cellAt lib data pointer = .ok cell) :
    Shows data source field (field, cell) := by
  obtain ⟨v, hv, hcell⟩ := bind_eq_ok.mp hcell
  split at hcell
  · rename_i hscalar
    obtain ⟨availability, havailability, hdone⟩ := bind_eq_ok.mp hcell
    cases hdone
    have hvalue := (h.found v).mpr hv
    refine ⟨rfl, v, hvalue, hv, hscalar, rfl, ?_⟩
    unfold availabilityOf at havailability
    split at havailability
    · rename_i hnull
      rw [if_pos hnull]
      rw [h.absence (hnull ▸ hvalue)] at havailability
      exact (Except.ok.inj havailability).symm
    · rename_i hsome
      rw [if_neg hsome]
      cases havailability
      rfl
  · cases hcell

theorem Points.exists_cell (h : Points lib data value absence pointer)
    (hscalar : value.toOption.any isScalar = true) :
    ∃ cell, cellAt lib data pointer = .ok cell := by
  cases hvalue : value with
  | error e =>
      rw [hvalue] at hscalar
      cases hscalar
  | ok v =>
      rw [hvalue] at hscalar
      have havailability : ∃ availability,
          availabilityOf lib data pointer v = .ok availability := by
        unfold availabilityOf
        split
        · rename_i hnull
          exact ⟨absence, h.absence (hnull ▸ hvalue)⟩
        · exact ⟨_, rfl⟩
      obtain ⟨availability, havailability⟩ := havailability
      refine ⟨⟨canonicalText v, availability.1, availability.2, pointer⟩,
        bind_eq_ok.mpr ⟨v, (h.found v).mp hvalue, ?_⟩⟩
      rw [if_pos (show isScalar v = true from hscalar)]
      exact bind_eq_ok.mpr ⟨availability, havailability, rfl⟩

theorem exists_row {table : EligibilityTableId} {pointers : List (String × String)}
    (h : List.Forall₂ (fun field entry => entry.1 = field ∧
      Points lib data (source.value field) (source.absence field) entry.2)
      (tableFields table) pointers) (hscalars : presentable table source = true) :
    ∃ row, Eligibility.row lib data source.rowId pointers = .ok row := by
  unfold presentable at hscalars
  rw [List.all_eq_true] at hscalars
  have hcells : ∀ entry ∈ pointers, ∃ cell, (do
      return (entry.1, ← cellAt lib data entry.2) : Except CaptureError (String × CompositeCell)) =
        .ok cell := by
    generalize tableFields table = fields at h hscalars
    induction h with
    | nil => exact fun _ hentry => absurd hentry List.not_mem_nil
    | cons hentry _ ih =>
        rw [List.forall_mem_cons] at hscalars ⊢
        obtain ⟨cell, hcell⟩ := hentry.2.exists_cell hscalars.1
        exact ⟨⟨_, bind_eq_ok.mpr ⟨cell, hcell, rfl⟩⟩, ih hscalars.2⟩
  obtain ⟨cells, hcells⟩ := exists_mapM_eq _ hcells
  exact ⟨_, bind_eq_ok.mpr ⟨cells, hcells, rfl⟩⟩

theorem shown_of_row {table : EligibilityTableId} {pointers : List (String × String)}
    (h : List.Forall₂ (fun field entry => entry.1 = field ∧
      Points lib data (source.value field) (source.absence field) entry.2)
      (tableFields table) pointers) {row : CompositeRow}
    (hrow : Eligibility.row lib data source.rowId pointers = .ok row) :
    Shown data table source row := by
  obtain ⟨cells, hcells, hdone⟩ := bind_eq_ok.mp hrow
  cases hdone
  refine ⟨rfl, ?_⟩
  rw [mapM_eq_ok] at hcells
  clear hrow
  dsimp only
  generalize tableFields table = fields at h
  induction h generalizing cells with
  | nil =>
      cases hcells
      exact .nil
  | @cons field entry _ _ hentry _ ih =>
      cases hcells with
      | cons hcell hrest =>
          obtain ⟨found, hfound, hdone⟩ := bind_eq_ok.mp hcell
          cases hdone
          obtain ⟨rfl, hpoints⟩ := hentry
          exact .cons (hpoints.shows hfound) (ih _ hrest)

theorem Points.of_eq {other : Except CaptureError Json} (h : Points lib data value absence pointer)
    (heq : other = value) : Points lib data other absence pointer :=
  heq ▸ h

theorem points_text {text : String} (h : Resolves data pointer (.str text)) :
    Points lib data (.ok (.str text)) absence pointer := by
  constructor
  · intro v
    rw [Except.ok.injEq]
    exact ⟨fun heq => heq ▸ h, h.eq⟩
  · intro hnull
    cases hnull

theorem points_null (h : Resolves data pointer .null)
    (habsence : nullSemantics lib data pointer = .ok absence) :
    Points lib data (.ok .null) absence pointer := by
  constructor
  · intro v
    rw [Except.ok.injEq]
    exact ⟨fun heq => heq ▸ h, h.eq⟩
  · exact fun _ => habsence

theorem points_field (h : Resolves data pointer v) (hout : Outside pointer) (hname : IsKey field)
    (hne : field ≠ "assessments") :
    Points lib data (subscript v field) valueUnavailable (below pointer field) where
  found _ := ⟨h.below hname.1, h.of_below hname⟩
  absence _ := nullSemantics_outside (hout.below hname.1 hne)

theorem points_assessment {root : String} {n : Nat} {rule : Json}
    (h : Resolves data (itemBelow (below root "assessments") n) v)
    (hrule : subscript v "rule" = .ok rule) (hname : IsKey field) :
    Points lib data (subscript v field)
      (if field ∈ unusedFields lib rule then fieldNotApplicable else valueUnavailable)
      (below (itemBelow (below root "assessments") n) field) where
  found _ := ⟨h.below hname.1, h.of_below hname⟩
  absence _ := nullSemantics_assessment h hrule hname.1

theorem points_reason {k : Nat} {reasons : List Json} {reason : Json}
    (h : Resolves data pointer (.arr reasons)) (hreason : reasons[k]? = some reason)
    (hne : reason ≠ .null) :
    Points lib data (.ok reason) absence (itemBelow pointer k) := by
  have hplace := h.item hreason
  constructor
  · intro v
    rw [Except.ok.injEq]
    exact ⟨fun heq => heq ▸ hplace, hplace.eq⟩
  · exact fun hnull => absurd (Except.ok.inj hnull) hne

end Cells

section Appending

variable {α : Type} {lib : SourceLibrary} {data : Json}

/-- What is appended are the expected rows of each table, and they are appended if their values
are scalars. -/
structure Emits (data : Json) (expected : EligibilityTableId → List RowSource)
    (x : Except CaptureError (List Appended)) : Prop where
  shown : ∀ appended, x = .ok appended →
    ∀ table, List.Forall₂ (Shown data table) (expected table) (rowsFor table appended)
  emitted : (∀ table, ∀ source ∈ expected table, presentable table source = true) →
    ∃ appended, x = .ok appended

/-- Rows of one table. -/
def only (table : EligibilityTableId) (sources : List RowSource) (t : EligibilityTableId) :
    List RowSource :=
  if t = table then sources else []

@[simp] theorem only_self (table : EligibilityTableId) (sources : List RowSource) :
    only table sources table = sources := if_pos rfl

theorem only_of_ne {table t : EligibilityTableId} (sources : List RowSource) (h : t ≠ table) :
    only table sources t = [] := if_neg h

@[simp] theorem rowsFor_append (table : EligibilityTableId) (xs ys : List Appended) :
    rowsFor table (xs ++ ys) = rowsFor table xs ++ rowsFor table ys := by
  simp [rowsFor]

theorem rowsFor_singleton (table t : EligibilityTableId) (row : CompositeRow) :
    rowsFor t [⟨table, row⟩] = if t = table then [row] else [] := by
  by_cases h : t = table
  · simp [rowsFor, h]
  · simp [rowsFor, h, Ne.symm h]

theorem Emits.congr {expected expected' : EligibilityTableId → List RowSource}
    {x : Except CaptureError (List Appended)} (h : Emits data expected x)
    (heq : ∀ table, expected' table = expected table) : Emits data expected' x := by
  rwa [funext heq]

theorem emits_append {table : EligibilityTableId} {source : RowSource}
    {pointers : List (String × String)}
    (h : List.Forall₂ (fun field entry => entry.1 = field ∧
      Points lib data (source.value field) (source.absence field) entry.2)
      (tableFields table) pointers) :
    Emits data (only table [source]) (append lib data table source.rowId pointers) := by
  constructor
  · intro appended happended t
    obtain ⟨row, hrow, hdone⟩ := bind_eq_ok.mp happended
    cases hdone
    rw [rowsFor_singleton]
    unfold only
    split
    · rename_i heq
      rw [heq]
      exact .cons (shown_of_row h hrow) .nil
    · exact .nil
  · intro hscalars
    obtain ⟨row, hrow⟩ := exists_row h (hscalars table source (by simp))
    exact ⟨_, bind_eq_ok.mpr ⟨row, hrow, rfl⟩⟩

theorem appendAll_cons (x : Except CaptureError (List Appended))
    (xs : List (Except CaptureError (List Appended))) :
    appendAll (x :: xs) = (do
      let appended ← x
      let rest ← appendAll xs
      return appended ++ rest) := by
  unfold appendAll
  rw [List.mapM_cons]
  cases x with
  | error e => rfl
  | ok appended => cases xs.mapM id <;> rfl

theorem emits_nil : Emits data (fun _ => []) (appendAll []) := by
  constructor
  · intro appended happended table
    cases happended
    exact .nil
  · exact fun _ => ⟨[], rfl⟩

theorem Emits.cons {expected rest : EligibilityTableId → List RowSource}
    {x : Except CaptureError (List Appended)} {xs : List (Except CaptureError (List Appended))}
    (hx : Emits data expected x) (hxs : Emits data rest (appendAll xs)) :
    Emits data (fun table => expected table ++ rest table) (appendAll (x :: xs)) := by
  constructor
  · intro appended happended table
    rw [appendAll_cons] at happended
    obtain ⟨first, hfirst, happended⟩ := bind_eq_ok.mp happended
    obtain ⟨more, hmore, hdone⟩ := bind_eq_ok.mp happended
    cases hdone
    rw [rowsFor_append]
    exact List.rel_append (hx.shown first hfirst table) (hxs.shown more hmore table)
  · intro hscalars
    obtain ⟨first, hfirst⟩ := hx.emitted fun table source hsource =>
      hscalars table source (List.mem_append_left _ hsource)
    obtain ⟨more, hmore⟩ := hxs.emitted fun table source hsource =>
      hscalars table source (List.mem_append_right _ hsource)
    rw [appendAll_cons]
    exact ⟨_, bind_eq_ok.mpr ⟨first, hfirst, bind_eq_ok.mpr ⟨more, hmore, rfl⟩⟩⟩

theorem emits_appendAll {items : List α} {part : α → Except CaptureError (List Appended)}
    {expected : α → EligibilityTableId → List RowSource}
    (h : ∀ a ∈ items, Emits data (expected a) (part a)) :
    Emits data (fun table => items.flatMap fun a => expected a table)
      (appendAll (items.map part)) := by
  induction items with
  | nil => exact emits_nil
  | cons a items ih =>
      rw [List.forall_mem_cons] at h
      exact h.1.cons (ih h.2)

/-- The same for a loop over the positions of a list. -/
theorem emits_range {items : List α} {part : Nat → Except CaptureError (List Appended)}
    (expected : α × Nat → EligibilityTableId → List RowSource)
    (h : ∀ a ∈ items.zipIdx, Emits data (expected a) (part a.2)) :
    Emits data (fun table => items.zipIdx.flatMap fun a => expected a table)
      (appendAll ((List.range items.length).map part)) := by
  have hrange : List.range items.length = items.zipIdx.map Prod.snd := by
    rw [List.zipIdx_map_snd, List.range_eq_range']
  rw [hrange, List.map_map]
  exact emits_appendAll h

/-- The same for a loop over items that were read. -/
theorem emits_zipIdx {β : Type} {items : List α} (item : α → β)
    (part : β × Nat → Except CaptureError (List Appended))
    (expected : α × Nat → EligibilityTableId → List RowSource)
    (h : ∀ a ∈ items.zipIdx, Emits data (expected a) (part (item a.1, a.2))) :
    Emits data (fun table => items.zipIdx.flatMap fun a => expected a table)
      (appendAll ((items.map item).zipIdx.map part)) := by
  rw [List.zipIdx_map, List.map_map]
  exact emits_appendAll h

theorem Emits.read {expected : EligibilityTableId → List RowSource} {β : Type}
    {x : Except CaptureError β} {b : β} {y : β → Except CaptureError (List Appended)}
    (hx : x = .ok b) (h : Emits data expected (y b)) : Emits data expected (x >>= y) := by
  subst hx
  exact h

theorem Emits.orElse {table : EligibilityTableId} {sources last : List RowSource}
    {expected : EligibilityTableId → List RowSource} {x y : Except CaptureError (List Appended)}
    (hx : Emits data expected x) (hsources : expected table = sources)
    (hy : Emits data (only table last) y) :
    Emits data (fun t => expected t ++ if sources = [] then only table last t else [])
      (do
        let appended ← x
        if rowsFor table appended = [] then return appended ++ (← y) else return appended) := by
  have hnone : ∀ appended, x = .ok appended → (rowsFor table appended = [] ↔ sources = []) := by
    intro appended happended
    have hshown := hx.shown appended happended table
    rw [hsources] at hshown
    constructor
    · intro hnil
      rwa [hnil, List.forall₂_nil_right_iff] at hshown
    · intro hnil
      rwa [hnil, List.forall₂_nil_left_iff] at hshown
  constructor
  · intro appended happended t
    obtain ⟨first, hfirst, happended⟩ := bind_eq_ok.mp happended
    split at happended
    · rename_i hnil
      obtain ⟨more, hmore, hdone⟩ := bind_eq_ok.mp happended
      cases hdone
      rw [rowsFor_append, if_pos ((hnone first hfirst).mp hnil)]
      exact List.rel_append (hx.shown first hfirst t) (hy.shown more hmore t)
    · rename_i hsome
      cases happended
      rw [if_neg (mt (hnone _ hfirst).mpr hsome), List.append_nil]
      exact hx.shown _ hfirst t
  · intro hscalars
    obtain ⟨first, hfirst⟩ := hx.emitted fun t source hsource =>
      hscalars t source (List.mem_append_left _ hsource)
    by_cases hnil : sources = []
    · obtain ⟨more, hmore⟩ := hy.emitted fun t source hsource => by
        apply hscalars t source
        rw [if_pos hnil]
        exact List.mem_append_right _ hsource
      refine ⟨first ++ more, bind_eq_ok.mpr ⟨first, hfirst, ?_⟩⟩
      rw [if_pos ((hnone first hfirst).mpr hnil)]
      exact bind_eq_ok.mpr ⟨more, hmore, rfl⟩
    · refine ⟨first, bind_eq_ok.mpr ⟨first, hfirst, ?_⟩⟩
      rw [if_neg (mt (hnone first hfirst).mp hnil)]
      rfl

theorem emits_pointersOf {table : EligibilityTableId} {source : RowSource}
    {common : List (String × String)} {other : String → String}
    (h : ∀ field ∈ tableFields table, Points lib data (source.value field) (source.absence field)
      ((common.lookup field).getD (other field))) :
    Emits data (only table [source])
      (append lib data table source.rowId (pointersOf (tableFields table) common other)) := by
  apply emits_append
  unfold pointersOf
  rw [List.forall₂_map_right_iff, List.forall₂_same]
  exact fun field hfield => ⟨rfl, h field hfield⟩

theorem only_map {table : EligibilityTableId} (items : List α) (f : α → RowSource)
    (t : EligibilityTableId) :
    only table (items.map f) t = items.flatMap fun a => only table [f a] t := by
  unfold only
  split
  · exact List.map_eq_flatMap
  · simp

theorem only_flatMap {table : EligibilityTableId} (items : List α) (f : α → List RowSource)
    (t : EligibilityTableId) :
    only table (items.flatMap f) t = items.flatMap fun a => only table (f a) t := by
  unfold only
  split
  · rfl
  · simp

end Appending

section Months

variable {lib : SourceLibrary} {data : Json} {m : MonthPlace} {absence : Availability × List String}
  {field : String}

/-- A month that was read, in its place of the dataset. -/
structure MonthAt (data : Json) (m : MonthPlace) : Prop where
  read : m.source.Read
  found : sourceMonthAt data m.index = .ok m.source.month
  here : Resolves data (sourceMonthPointer m.index) m.source.month
  pinned : Resolves data (selectedMonth m.index) (.str m.pin.month)

/-- The facts of a report that cells point at. -/
structure FactsAt (data : Json) : Prop where
  unavailable : Resolves data "/report_facts/unavailable" .null
  noReasons : Resolves data "/report_facts/no_reasons/value" .null
  kinds : ∀ kind ∈ reasonKinds,
    Resolves data (below "/report_facts/reason_kinds" kind) (.str (kindText kind))

theorem plain_of_mem_reasonKinds : ∀ kind ∈ reasonKinds, Plain kind := by
  simp [reasonKinds, Plain, escapeKey, replaceChar]

theorem rule_not_mem_unusedFields (lib : SourceLibrary) (rule : Json) :
    "rule" ∉ unusedFields lib rule := by
  unfold unusedFields
  split
  · decide
  · split <;> decide

theorem portfolio_not_mem_unusedFields (lib : SourceLibrary) (rule : Json) :
    "portfolio_id" ∉ unusedFields lib rule := by
  unfold unusedFields
  split
  · decide
  · split <;> decide

theorem outside_sourceMonth (n : Nat) : Outside (sourceMonthPointer n) := by
  have hplace : below "" "source_months" = "/source_months" := by simp [below]
  have hparts : pointerParts (below "" "source_months") =
      pointerParts "" ++ ["source_months".toList] :=
    pointerParts_below (by simp [Plain, escapeKey, replaceChar])
  have hroot : Outside "/source_months" := by
    rw [← hplace]
    constructor
    · rw [hparts]
      rfl
    · rw [hparts]
      simp [pointerParts]
  exact hroot.item n

theorem points_monthValue (h : MonthAt data m) {other : String → Except CaptureError Json}
    {otherPointer : String → String}
    (hother : field ≠ "month" → field ≠ "evidence_kind" →
      Points lib data (other field) absence (otherPointer field)) :
    Points lib data (monthValue m other field) absence
      (((commonPointers m.index).lookup field).getD (otherPointer field)) := by
  unfold monthValue commonPointers
  by_cases hmonth : field = "month"
  · subst hmonth
    exact points_text h.pinned
  · rw [if_neg hmonth]
    by_cases hkind : field = "evidence_kind"
    · subst hkind
      exact points_text (h.here.below (by decide) h.read.kind)
    · rw [if_neg hkind]
      have hlookup : List.lookup field [("month", selectedMonth m.index),
          ("evidence_kind", below (sourceMonthPointer m.index) "evidence_kind")] = none := by
        simp [List.lookup_eq_none_iff, hmonth, hkind]
      rw [hlookup]
      exact hother hmonth hkind

theorem points_memberValue (h : MonthAt data m) {member : MemberSource} {pointer : String}
    (hhere : Resolves data pointer member.item) (hout : Outside pointer)
    {other : String → Except CaptureError Json} {otherPointer : String → String}
    (habsence : field = "portfolio_id" → absence = valueUnavailable)
    (hother : field ≠ "month" → field ≠ "evidence_kind" → field ≠ "portfolio_id" →
      Points lib data (other field) absence (otherPointer field)) :
    Points lib data (memberValue m member other field) absence
      (((commonPointers m.index ++ [("portfolio_id", below pointer "portfolio_id")]).lookup
        field).getD (otherPointer field)) := by
  unfold memberValue
  by_cases hportfolio : field = "portfolio_id"
  · rw [if_pos hportfolio, habsence hportfolio]
    subst hportfolio
    exact points_field hhere hout (by decide) (by decide)
  · rw [if_neg hportfolio]
    have hlookup : (commonPointers m.index ++
        [("portfolio_id", below pointer "portfolio_id")]).lookup field =
          (commonPointers m.index).lookup field := by
      have hother : (field == "portfolio_id") = false := by simpa using hportfolio
      simp [List.lookup_append, List.lookup_cons, hother]
    rw [hlookup]
    exact points_monthValue h fun hmonth hkind => hother hmonth hkind hportfolio

theorem emits_reasonRows (hfacts : FactsAt data) (h : MonthAt data m)
    {member : MemberSource × Nat} {root : String}
    (hhere : Resolves data (itemBelow root member.2) member.1.item) (hout : Outside root)
    {assessment : AssessmentSource × Nat} (hread : assessment.1.Read)
    (hplace : Resolves data (itemBelow (below (itemBelow root member.2) "assessments") assessment.2)
      assessment.1.item) :
    Emits data (only .reasons (expectedReasons m member assessment))
      (reasonRows lib data m.index (below (itemBelow root member.2) "portfolio_id")
        (itemBelow (below (itemBelow root member.2) "assessments") assessment.2)
        (assessmentId m member assessment.2) assessment.1.item) := by
  refine (emits_appendAll fun kind hmem => ?_).congr fun t => only_flatMap _ _ t
  refine Emits.read (hread.reasons kind hmem) (Emits.read rfl ?_)
  refine (emits_range (fun reason => only .reasons
    [expectedReason m member assessment kind reason]) ?_).congr fun t => only_map _ _ t
  intro reason hreason
  have hplaced := List.mem_zipIdx_iff_getElem?.mp hreason
  apply emits_append
  refine .cons ⟨rfl, ?_⟩ (.cons ⟨rfl, ?_⟩ (.cons ⟨rfl, ?_⟩ (.cons ⟨rfl, ?_⟩ (.cons ⟨rfl, ?_⟩ .nil))))
  · exact (points_text h.pinned).of_eq (by simp [expectedReason, memberValue, monthValue])
  · exact (points_field hhere (hout.item _) (by decide) (by decide)).of_eq
      (by simp [expectedReason, memberValue])
  · have hrule : Points lib data _ _ _ :=
      points_assessment hplace hread.rule (show IsKey "rule" by decide)
    rw [if_neg (rule_not_mem_unusedFields _ _)] at hrule
    exact hrule.of_eq (by simp [expectedReason, memberValue, monthValue, reasonValue])
  · exact (points_text (hfacts.kinds kind hmem)).of_eq
      (by simp [expectedReason, memberValue, monthValue, reasonValue])
  · have hreasons := hplace.below (plain_of_mem_reasonKinds kind hmem) (hread.reasons kind hmem)
    exact (points_reason hreasons hplaced
      (hread.stated kind hmem _ (List.mem_of_getElem? hplaced))).of_eq
      (by simp [expectedReason, memberValue, monthValue, reasonValue])

theorem emits_assessmentRows (hfacts : FactsAt data) (h : MonthAt data m)
    {member : MemberSource × Nat} {root : String}
    (hhere : Resolves data (itemBelow root member.2) member.1.item) (hout : Outside root)
    {assessment : AssessmentSource × Nat} (hread : assessment.1.Read)
    (hplace : Resolves data (itemBelow (below (itemBelow root member.2) "assessments") assessment.2)
      assessment.1.item) :
    Emits data (fun t => only .assessments [expectedAssessment lib m member assessment] t ++
        only .reasons (expectedReasons m member assessment) t)
      (assessmentRows lib data m.index
        (commonPointers m.index ++
          [("portfolio_id", below (itemBelow root member.2) "portfolio_id")])
        (below (itemBelow root member.2) "portfolio_id")
        (below (itemBelow root member.2) "assessments") (memberId m member.2)
        (assessment.1.item, assessment.2)) := by
  have hreasons : Emits data _ (reasonRows lib data m.index _ _ _ _) :=
    emits_reasonRows hfacts h hhere hout hread hplace
  have hassessment : Emits data (only .assessments [expectedAssessment lib m member assessment])
      (append lib data .assessments (expectedAssessment lib m member assessment).rowId
        (pointersOf (tableFields .assessments)
          (commonPointers m.index ++
            [("portfolio_id", below (itemBelow root member.2) "portfolio_id")])
          (below (itemBelow (below (itemBelow root member.2) "assessments") assessment.2)))) := by
    apply emits_pointersOf
    intro field hfield
    show Points lib data (memberValue m member.1 (subscript assessment.1.item) field)
      (if field ∈ unusedFields lib assessment.1.rule then fieldNotApplicable
        else valueUnavailable) _
    refine points_memberValue h hhere (hout.item _) ?_ ?_
    · rintro rfl
      exact if_neg (portfolio_not_mem_unusedFields _ _)
    · intro _ _ _
      exact points_assessment hplace hread.rule (isKey_of_mem_tableFields _ field hfield)
  exact (hassessment.cons (hreasons.cons emits_nil)).congr fun t => by rw [List.append_nil]

/-- The rows of an evaluated portfolio in each table. -/
def expectedMemberRows (lib : SourceLibrary) (m : MonthPlace) (member : MemberSource × Nat)
    (t : EligibilityTableId) : List RowSource :=
  only .members [expectedMember m member] t ++
    member.1.assessments.zipIdx.flatMap fun assessment =>
      only .assessments [expectedAssessment lib m member assessment] t ++
        only .reasons (expectedReasons m member assessment) t

theorem emits_memberRows (hfacts : FactsAt data) (h : MonthAt data m)
    {member : MemberSource × Nat} {root : String}
    (hhere : Resolves data (itemBelow root member.2) member.1.item) (hout : Outside root)
    (hread : member.1.Read) :
    Emits data (expectedMemberRows lib m member)
      (memberRows lib data m.index root (member.1.item, member.2)) := by
  have hmember : Emits data (only .members [expectedMember m member])
      (append lib data .members (expectedMember m member).rowId
        (pointersOf (tableFields .members)
          (commonPointers m.index ++
            [("portfolio_id", below (itemBelow root member.2) "portfolio_id")])
          (below (itemBelow root member.2)))) := by
    apply emits_pointersOf
    intro field hfield
    show Points lib data (memberValue m member.1 (subscript member.1.item) field)
      valueUnavailable _
    refine points_memberValue h hhere (hout.item _) (fun _ => rfl) fun _ _ _ => ?_
    refine points_field hhere (hout.item _) (isKey_of_mem_tableFields _ field hfield) ?_
    rintro rfl
    exact absurd hfield (by decide)
  have hassessments := emits_zipIdx (fun a : AssessmentSource => a.item)
    (assessmentRows lib data m.index
      (commonPointers m.index ++ [("portfolio_id", below (itemBelow root member.2) "portfolio_id")])
      (below (itemBelow root member.2) "portfolio_id")
      (below (itemBelow root member.2) "assessments") (memberId m member.2)) _
    fun assessment hassessment => by
      have hmem := List.mem_zipIdx_iff_getElem?.mp hassessment
      refine emits_assessmentRows hfacts h hhere hout
        (hread.each _ (List.mem_of_getElem? hmem)) ?_
      refine (hhere.below (by decide) hread.assessments).item ?_
      rw [List.getElem?_map, hmem]
      rfl
  exact (hmember.cons (Emits.cons (Emits.read hread.assessments (Emits.read rfl hassessments))
    emits_nil)).congr fun t => by rw [List.append_nil, expectedMemberRows]

theorem Outside.path {pointer : String} {path : List String} (h : Outside pointer)
    (hpath : ∀ name ∈ path, Plain name ∧ name ≠ "assessments") :
    Outside (path.foldl Eligibility.below pointer) := by
  induction path generalizing pointer with
  | nil => exact h
  | cons name path ih =>
      rw [List.forall_mem_cons] at hpath
      rw [List.foldl_cons]
      exact ih (h.below hpath.1.1 hpath.1.2) hpath.2

theorem points_path {v : Json} {pointer : String} (path : List String)
    (h : Resolves data pointer v) (hout : Outside pointer)
    (hpath : ∀ name ∈ path, IsKey name ∧ name ≠ "assessments") :
    Points lib data (readAt v path) valueUnavailable (path.foldl below pointer) := by
  constructor
  · exact fun _ => ⟨h.path path fun name hname => (hpath name hname).1.1,
      h.of_path path fun name hname => (hpath name hname).1⟩
  · exact fun _ => nullSemantics_outside (hout.path fun name hname =>
      ⟨(hpath name hname).1.1, (hpath name hname).2⟩)

/-- The suffix of the proposal's place. -/
def proposalSuffix (published : Bool) : String :=
  if published then "receipt/approval/proposal" else "proposal"

/-- The pointer to the evaluation of a month. -/
def evaluationRoot (m : MonthPlace) : String :=
  below (below (sourceMonthPointer m.index) (proposalSuffix m.source.published)) "evaluation"

theorem below_proposalSuffix (pointer : String) (published : Bool) :
    below pointer (proposalSuffix published) = (proposalPath published).foldl below pointer := by
  cases published with
  | true =>
      show pointer ++ "/" ++ "receipt/approval/proposal" =
        pointer ++ "/" ++ "receipt" ++ "/" ++ "approval" ++ "/" ++ "proposal"
      simp only [String.append_assoc]
      rfl
  | false => rfl

theorem plain_proposalPath (published : Bool) : ∀ name ∈ proposalPath published, Plain name := by
  cases published <;> simp [proposalPath, Plain, escapeKey, replaceChar]

theorem readAt_append {value found : Json} {path rest : List String} :
    readAt value (path ++ rest) = .ok found ↔
      ∃ next, readAt value path = .ok next ∧ readAt next rest = .ok found := by
  rw [readAt, List.foldlM_append, bind_eq_ok]
  rfl

theorem MonthSource.Read.proposal (lib : SourceLibrary) {s : MonthSource} (h : s.Read) : ∃ proposal,
    readAt s.month (proposalPath s.published) = .ok proposal ∧
      proposalAt lib s.month = .ok (proposal, proposalSuffix s.published) ∧
      subscript proposal "evaluation" = .ok s.evaluation := by
  obtain ⟨proposal, hproposal, hevaluation⟩ := readAt_append.mp h.evaluation
  rw [readAt_singleton] at hevaluation
  refine ⟨proposal, hproposal, ?_, hevaluation⟩
  refine bind_eq_ok.mpr ⟨_, h.kind, ?_⟩
  unfold MonthSource.published at hproposal ⊢
  by_cases hkind : s.kind = "PUBLISHED"
  · rw [if_pos (lib.eq_text.mpr (congrArg Json.str hkind))]
    rw [hkind] at hproposal ⊢
    exact bind_eq_ok.mpr ⟨proposal, hproposal, rfl⟩
  · rw [if_neg fun heq => hkind (Json.str.inj (lib.eq_text.mp heq))]
    have hnot : (s.kind == "PUBLISHED") = false := beq_eq_false_iff_ne.mpr hkind
    rw [hnot] at hproposal ⊢
    exact bind_eq_ok.mpr ⟨proposal, (readAt_singleton ▸ hproposal), rfl⟩

theorem MonthAt.evaluation (h : MonthAt data m) :
    Resolves data (evaluationRoot m) m.source.evaluation := by
  obtain ⟨proposal, hproposal, hevaluation⟩ := readAt_append.mp h.read.evaluation
  rw [readAt_singleton] at hevaluation
  rw [evaluationRoot, below_proposalSuffix]
  exact (h.here.path _ (plain_proposalPath _) hproposal).below (by decide) hevaluation

theorem outside_evaluationRoot (m : MonthPlace) : Outside (evaluationRoot m) := by
  rw [evaluationRoot, below_proposalSuffix]
  refine Outside.below ?_ (by decide) (by decide)
  have hmonth := outside_sourceMonth m.index
  cases m.source.published with
  | true =>
      exact ((hmonth.below (show Plain "receipt" by decide) (by decide)).below
        (show Plain "approval" by decide) (by decide)).below (show Plain "proposal" by decide)
        (by decide)
  | false => exact hmonth.below (show Plain "proposal" by decide) (by decide)

/-- The rows of the evaluation of a month in each table, before the row of a month without any
reason. -/
def expectedEvaluated (lib : SourceLibrary) (m : MonthPlace) (t : EligibilityTableId) :
    List RowSource :=
  only .summary [expectedSummary m] t ++ (only .methods [expectedMethods m] t ++
    m.source.members.zipIdx.flatMap fun member => expectedMemberRows lib m member t)

theorem expectedEvaluated_reasons (lib : SourceLibrary) (m : MonthPlace) :
    expectedEvaluated lib m .reasons = monthReasons m := by
  simp [expectedEvaluated, expectedMemberRows, only, monthReasons]

/-- The rows of the evaluation of a month in each table. -/
def expectedEvaluation (lib : SourceLibrary) (m : MonthPlace) (t : EligibilityTableId) :
    List RowSource :=
  expectedEvaluated lib m t ++
    if monthReasons m = [] then only .reasons [expectedNoReasons m] t else []

theorem emits_evaluated (hfacts : FactsAt data) (h : MonthAt data m) :
    Emits data (expectedEvaluated lib m) (appendAll
      [ append lib data .summary (monthId m.index)
          (pointersOf (tableFields .summary) (commonPointers m.index) (below (evaluationRoot m))),
        append lib data .methods (monthId m.index)
          (pointersOf (tableFields .methods) (commonPointers m.index)
            (below (below (evaluationRoot m) "resolved_policy"))),
        appendAll ((m.source.members.map fun member => member.item).zipIdx.map
          (memberRows lib data m.index (below (evaluationRoot m) "portfolios"))) ]) := by
  have hevaluation := h.evaluation
  have hout := outside_evaluationRoot m
  have hsummary : Emits data (only .summary [expectedSummary m])
      (append lib data .summary (expectedSummary m).rowId
        (pointersOf (tableFields .summary) (commonPointers m.index)
          (below (evaluationRoot m)))) := by
    apply emits_pointersOf
    intro field hfield
    show Points lib data (monthValue m (subscript m.source.evaluation) field) valueUnavailable _
    refine points_monthValue h fun _ _ => ?_
    refine points_field hevaluation hout (isKey_of_mem_tableFields _ field hfield) ?_
    rintro rfl
    exact absurd hfield (by decide)
  have hmethods : Emits data (only .methods [expectedMethods m])
      (append lib data .methods (expectedMethods m).rowId
        (pointersOf (tableFields .methods) (commonPointers m.index)
          (below (below (evaluationRoot m) "resolved_policy")))) := by
    apply emits_pointersOf
    intro field hfield
    show Points lib data
      (monthValue m (fun field => readAt m.source.evaluation ["resolved_policy", field]) field)
      valueUnavailable _
    refine points_monthValue h fun _ _ => ?_
    refine points_path ["resolved_policy", field] hevaluation hout ?_
    simp only [List.forall_mem_cons, List.not_mem_nil, false_implies, implies_true, and_true]
    refine ⟨by decide, isKey_of_mem_tableFields _ field hfield, ?_⟩
    rintro rfl
    exact absurd hfield (by decide)
  have hmembers := emits_zipIdx (fun member : MemberSource => member.item)
    (memberRows lib data m.index (below (evaluationRoot m) "portfolios")) _
    fun member hmember => by
      have hmem := List.mem_zipIdx_iff_getElem?.mp hmember
      refine emits_memberRows hfacts h ?_ (hout.below (by decide) (by decide))
        (h.read.members _ (List.mem_of_getElem? hmem))
      refine (hevaluation.below (by decide) h.read.portfolios).item ?_
      rw [List.getElem?_map, hmem]
      rfl
  exact (hsummary.cons (hmethods.cons (hmembers.cons emits_nil))).congr fun t => by
    rw [List.append_nil, expectedEvaluated]

theorem nullSemantics_unavailable :
    nullSemantics lib data "/report_facts/unavailable" = .ok valueUnavailable := by
  unfold nullSemantics
  rw [if_neg (by decide), if_neg (by decide +kernel)]

theorem lookup_map_self {names : List String} {f : String → String} {name : String}
    (h : name ∈ names) : (names.map fun n => (n, f n)).lookup name = some (f name) := by
  induction names with
  | nil => cases h
  | cons n names ih =>
      rw [List.map_cons, List.lookup_cons]
      by_cases hn : name = n
      · rw [hn, beq_self_eq_true]
      · rw [beq_eq_false_iff_ne.mpr hn]
        exact ih ((List.mem_cons.mp h).resolve_left hn)

theorem lookup_map_self_of_not_mem {names : List String} {f : String → String} {name : String}
    (h : name ∉ names) : (names.map fun n => (n, f n)).lookup name = none := by
  rw [List.lookup_eq_none_iff]
  intro entry hentry
  obtain ⟨n, hn, rfl⟩ := List.mem_map.mp hentry
  rw [bne_iff_ne]
  rintro rfl
  exact h hn

theorem plain_membership (s : MonthSource) (h : s.memberships.map Prod.fst = membershipProducts) :
    ∀ membership ∈ s.memberships, Plain membership.1 ∧ membership.1 ≠ "assessments" := by
  intro membership hmem
  have hall : ∀ product ∈ membershipProducts, Plain product ∧ product ≠ "assessments" := by
    simp [membershipProducts, Plain, escapeKey, replaceChar]
  exact hall _ (h ▸ List.mem_map_of_mem hmem)

/-- What `_evaluation_rows` appends. -/
theorem emits_evaluationRows (hfacts : FactsAt data) (h : MonthAt data m) :
    Emits data (expectedEvaluation lib m) (evaluationRows lib data m.index) := by
  obtain ⟨proposal, -, hplace, hevaluation⟩ := h.read.proposal lib
  have hportfolios : readAt proposal ["evaluation", "portfolios"] =
      .ok (.arr (m.source.members.map fun member => member.item)) := by
    rw [readAt_of_subscript hevaluation, readAt_singleton]
    exact h.read.portfolios
  have hevaluated : Emits data (expectedEvaluated lib m) _ := emits_evaluated hfacts h
  have hrow : Emits data (only .reasons [expectedNoReasons m])
      (append lib data .reasons (expectedNoReasons m).rowId
        (pointersOf (tableFields .reasons) (commonPointers m.index)
          fun _ => "/report_facts/no_reasons/value")) := by
    apply emits_pointersOf
    intro field _
    show Points lib data (monthValue m (fun _ => .ok .null) field) noReasons _
    have hnull : Points lib data (.ok .null) noReasons "/report_facts/no_reasons/value" :=
      points_null hfacts.noReasons (if_pos rfl)
    exact @points_monthValue lib data m noReasons field h (fun _ => .ok .null)
      (fun _ => "/report_facts/no_reasons/value") fun _ _ => hnull
  refine Emits.read h.found (Emits.read hplace ?_)
  dsimp only
  rw [hportfolios]
  exact hevaluated.orElse (expectedEvaluated_reasons lib m) hrow

/-- What `_history_rows` appends. -/
theorem emits_historyRows (hfacts : FactsAt data) (h : MonthAt data m) :
    Emits data (only .history (expectedHistory m)) (historyRows lib data m.index) := by
  refine Emits.read h.found (Emits.read h.read.kind ?_)
  unfold expectedHistory
  by_cases honly : m.source.kind = "EVALUATED_ONLY"
  · rw [if_pos honly, if_pos (lib.eq_text.mpr (congrArg Json.str honly))]
    apply emits_pointersOf
    intro field hfield
    show Points lib data (monthValue m (fun _ => .ok .null) field) valueUnavailable
      (([("month", selectedMonth m.index)].lookup field).getD "/report_facts/unavailable")
    have hkind : field ≠ "evidence_kind" := by
      rintro rfl
      exact absurd hfield (by decide)
    rw [monthValue, if_neg hkind, List.lookup_cons]
    by_cases hmonth : field = "month"
    · subst hmonth
      exact points_text h.pinned
    · rw [if_neg hmonth, beq_eq_false_iff_ne.mpr hmonth]
      exact points_null hfacts.unavailable nullSemantics_unavailable
  · rw [if_neg honly, if_neg fun heq => honly (Json.str.inj (lib.eq_text.mp heq))]
    rw [show ["parent_membership", "membership"] = membershipProducts from rfl,
      ← h.read.products honly, List.map_map]
    refine (emits_appendAll fun membership hmembership => ?_).congr
      fun t => only_flatMap _ _ t
    obtain ⟨hread, hdecisions⟩ := h.read.memberships membership hmembership
    have hpath : readAt m.source.month [membership.1, "decisions"] =
        .ok (.arr membership.2.decisions) := by
      rw [readAt_of_subscript hread, readAt_singleton]
      exact hdecisions
    refine Emits.read hpath (Emits.read rfl ?_)
    refine (emits_range (fun decision => only .history
      [expectedDecision m membership.1 membership.2.item decision]) ?_).congr
      fun t => only_map _ _ t
    intro decision hdecision
    apply emits_pointersOf
    intro field hfield
    show Points lib data (if field = "month" then .ok (.str m.pin.month)
      else if field ∈ membershipMetadata then subscript membership.2.item field
      else subscript decision.1 field) valueUnavailable _
    have hkey := isKey_of_mem_tableFields _ field hfield
    have hne : field ≠ "assessments" := by
      rintro rfl
      exact absurd hfield (by decide)
    have hplain : Plain membership.1 ∧ membership.1 ≠ "assessments" :=
      plain_membership m.source (h.read.products honly) membership hmembership
    have hbase := h.here.below hplain.1 hread
    have hout := (outside_sourceMonth m.index).below hplain.1 hplain.2
    rw [List.lookup_append, List.lookup_cons]
    by_cases hmonth : field = "month"
    · subst hmonth
      exact points_text h.pinned
    · rw [if_neg hmonth, beq_eq_false_iff_ne.mpr hmonth]
      by_cases hmetadata : field ∈ membershipMetadata
      · rw [if_pos hmetadata, lookup_map_self hmetadata]
        exact points_field hbase hout hkey hne
      · rw [if_neg hmetadata, lookup_map_self_of_not_mem hmetadata]
        have hplace := (hbase.below (by decide) hdecisions).item
          (List.mem_zipIdx_iff_getElem?.mp hdecision)
        exact points_field hplace ((hout.below (by decide) (by decide)).item _) hkey hne

/-- A product in the loop of the lineage. -/
def RetainedProduct.place (product : RetainedProduct) : LineageProduct :=
  ⟨"/".intercalate product.path, product.revision, product.digestKey⟩

theorem lineageProducts_eq (published : Bool) :
    lineageProducts (proposalSuffix published) published =
      (retainedProducts published).map RetainedProduct.place := by
  cases published <;> rfl

theorem below_place (pointer : String) (published : Bool) : ∀ product ∈ retainedProducts published,
    below pointer product.place.path = product.path.foldl below pointer := by
  cases published with
  | true =>
      simp only [retainedProducts, if_pos, List.forall_mem_cons, List.not_mem_nil, false_implies,
        implies_true, and_true]
      refine ⟨?_, rfl, rfl, rfl, rfl⟩
      exact below_proposalSuffix pointer true
  | false =>
      simp only [retainedProducts, Bool.false_eq_true, if_false, List.mem_singleton, forall_eq]
      rfl

theorem isKey_retainedProducts (published : Bool) : ∀ product ∈ retainedProducts published,
    (∀ name ∈ product.path, IsKey name ∧ name ≠ "assessments") ∧
      (IsKey product.revision ∧ product.revision ≠ "assessments") ∧
        (IsKey product.digestKey ∧ product.digestKey ≠ "assessments") := by
  cases published <;> simp [retainedProducts, IsKey, Plain, escapeKey, replaceChar, indexOf]

/-- What `_lineage_rows` appends. -/
theorem emits_lineageRows (h : MonthAt data m) :
    Emits data (only .lineage
      ((retainedProducts m.source.published).zipIdx.map (expectedProduct m)))
      (lineageRows lib data m.index) := by
  obtain ⟨proposal, -, hplace, -⟩ := h.read.proposal lib
  refine Emits.read h.found (Emits.read hplace (Emits.read h.read.kind ?_))
  have hpublished : lib.eq (.str m.source.kind) (.str "PUBLISHED") = m.source.published := by
    rw [Bool.eq_iff_iff, lib.eq_text, MonthSource.published, beq_iff_eq, Json.str.injEq]
  dsimp only
  rw [hpublished, lineageProducts_eq]
  refine (emits_zipIdx RetainedProduct.place _
    (fun product => only .lineage [expectedProduct m product]) ?_).congr fun t => only_map _ _ t
  intro product hproduct
  have hmem : product.1 ∈ retainedProducts m.source.published :=
    List.mem_of_getElem? (List.mem_zipIdx_iff_getElem?.mp hproduct)
  obtain ⟨hpath, hrevision, hdigest⟩ := isKey_retainedProducts _ _ hmem
  have hout := outside_sourceMonth m.index
  have hfield : ∀ name, IsKey name ∧ name ≠ "assessments" →
      Points lib data (readAt m.source.month (product.1.path ++ [name])) valueUnavailable
        (below (below (sourceMonthPointer m.index) product.1.place.path) name) := by
    intro name hname
    have hnames : ∀ other ∈ product.1.path ++ [name], IsKey other ∧ other ≠ "assessments" := by
      intro other hother
      rw [List.mem_append, List.mem_singleton] at hother
      rcases hother with hother | rfl
      · exact hpath other hother
      · exact hname
    have hpoints : Points lib data _ _ _ := points_path _ h.here hout hnames
    rwa [List.foldl_append, ← below_place _ _ _ hmem] at hpoints
  dsimp only
  apply emits_append
  refine .cons ⟨rfl, ?_⟩ (.cons ⟨rfl, ?_⟩ (.cons ⟨rfl, ?_⟩ (.cons ⟨rfl, ?_⟩ (.cons ⟨rfl, ?_⟩
    (.cons ⟨rfl, ?_⟩ .nil)))))
  · exact (points_text h.pinned).of_eq (by simp [expectedProduct, monthValue])
  · exact (points_text (h.here.below (by decide) h.read.kind)).of_eq
      (by simp [expectedProduct, monthValue])
  · exact (hfield "product_name" (by decide)).of_eq
      (by simp [expectedProduct, monthValue, productValue])
  · exact (hfield product.1.revision hrevision).of_eq
      (by simp [expectedProduct, monthValue, productValue])
  · exact (hfield "content_hash" (by decide)).of_eq
      (by simp [expectedProduct, monthValue, productValue])
  · have hdigests : ∀ name ∈ ["response_digests", product.1.digestKey],
        IsKey name ∧ name ≠ "assessments" := by
      simp only [List.forall_mem_cons, List.not_mem_nil, false_implies, implies_true, and_true]
      exact ⟨by decide, hdigest⟩
    exact (points_path _ h.here hout hdigests).of_eq
      (by simp [expectedProduct, monthValue, productValue])

end Months

section Report

variable {lib : SourceLibrary} {data : Json} {m : MonthPlace}

theorem expectedRowsOf_eq (lib : SourceLibrary) (m : MonthPlace) (t : EligibilityTableId) :
    expectedRowsOf lib m t = expectedEvaluation lib m t ++ (only .history (expectedHistory m) t ++
      only .lineage ((retainedProducts m.source.published).zipIdx.map (expectedProduct m)) t) := by
  have hnone : ∀ {α : Type} (items : List α), (items.flatMap fun _ => []) = ([] : List RowSource) :=
    fun items => by simp
  cases t with
  | reasons =>
      rw [expectedEvaluation, expectedEvaluated_reasons, only_self, only_of_ne _ (by decide),
        only_of_ne _ (by decide), expectedRowsOf]
      split
      · rename_i hreasons
        rw [hreasons]
        rfl
      · simp
  | _ =>
      simp [expectedRowsOf, expectedEvaluation, expectedEvaluated, expectedMemberRows, only,
        List.map_eq_flatMap, hnone]

theorem emits_monthRows (hfacts : FactsAt data) (h : MonthAt data m) :
    Emits data (expectedRowsOf lib m) (monthRows lib data m.index) :=
  ((emits_evaluationRows hfacts h).cons ((emits_historyRows hfacts h).cons
    ((emits_lineageRows h).cons emits_nil))).congr fun t => by
      rw [List.append_nil, expectedRowsOf_eq]

/-- What `eligibility_tables` appends for the disclosures of a report. -/
theorem emits_disclosureRows {disclosures : List Json}
    (hread : readAt data ["report_facts", "disclosures"] = .ok (.arr disclosures))
    (hstated : ∀ item ∈ disclosures, ∃ code text, item = disclosure code text) :
    Emits data (only .disclosures (disclosures.zipIdx.map expectedDisclosure))
      (disclosureRows lib data) := by
  refine Emits.read hread (Emits.read rfl ?_)
  refine (emits_range (fun item => only .disclosures [expectedDisclosure item]) ?_).congr
    fun t => only_map _ _ t
  intro item hitem
  have hmem := List.mem_zipIdx_iff_getElem?.mp hitem
  obtain ⟨code, text, heq⟩ := hstated item.1 (List.mem_of_getElem? hmem)
  have hroot : Resolves data "/report_facts/disclosures" (.arr disclosures) :=
    Resolves.path ["report_facts", "disclosures"] resolves_root (by decide) hread
  have hplace := hroot.item hmem
  apply emits_pointersOf
  intro field hfield
  show Points lib data (subscript item.1 field) valueUnavailable
    (below (itemBelow "/report_facts/disclosures" item.2) field)
  rw [heq] at hplace ⊢
  have hvalue : ∃ value, subscript (disclosure code text) field = .ok (.str value) := by
    simp only [tableFields, List.mem_cons, List.not_mem_nil, or_false] at hfield
    rcases hfield with rfl | rfl
    · exact ⟨code, rfl⟩
    · exact ⟨text, rfl⟩
  obtain ⟨value, hvalue⟩ := hvalue
  rw [hvalue]
  exact points_text (hplace.below (isKey_of_mem_tableFields _ field hfield).1 hvalue)

theorem disclosures_stated (family : EligibilityFamily) :
    ∀ item ∈ eligibilityDisclosures ++ (addedFacts family).disclosures,
      ∃ code text, item = disclosure code text := by
  rw [List.forall_mem_append]
  constructor
  · unfold eligibilityDisclosures
    simp only [List.forall_mem_cons, List.not_mem_nil, false_implies, implies_true, and_true]
    exact ⟨⟨_, _, rfl⟩, ⟨_, _, rfl⟩, ⟨_, _, rfl⟩, ⟨_, _, rfl⟩, ⟨_, _, rfl⟩, ⟨_, _, rfl⟩⟩
  · intro item hitem
    cases family with
    | original => cases hitem
    | amendment => exact ⟨_, _, List.mem_singleton.mp hitem⟩
    | historical => exact ⟨_, _, List.mem_singleton.mp hitem⟩

end Report

section Dataset

variable {lib : SourceLibrary} {selection : EligibilitySelection} {months : List Json}

theorem subscript_sourceMonths :
    subscript (eligibilityData selection months) "source_months" = .ok (.arr months) := by
  simp [subscript, eligibilityData, Json.lookup]

theorem subscript_selection :
    subscript (eligibilityData selection months) "selection" = .ok (selectionDump selection) := by
  simp [subscript, eligibilityData, Json.lookup]

theorem subscript_reportFacts :
    subscript (eligibilityData selection months) "report_facts" =
      .ok (factsWith (addedFacts selection.family)) := by
  simp [subscript, eligibilityData, Json.lookup]

theorem subscript_selectedMonths :
    subscript (selectionDump selection) "months" =
      .ok (.arr (selection.months.map (monthPinDump selection.family))) := by
  cases hfamily : selection.family <;>
    simp [subscript, selectionDump, selectionVersion, hfamily, Json.lookup]

theorem subscript_currency :
    subscript (selectionDump selection) "reporting_currency" =
      .ok (.str selection.reportingCurrency) := by
  cases hfamily : selection.family <;>
    simp [subscript, selectionDump, selectionVersion, hfamily, Json.lookup]

theorem resolves_fact (path : List String) {v : Json} (hpath : ∀ name ∈ path, Plain name)
    (hv : readAt (factsWith (addedFacts selection.family)) path = .ok v) :
    Resolves (eligibilityData selection months) (path.foldl below "/report_facts") v := by
  have hroot : Resolves (eligibilityData selection months) "/report_facts" _ :=
    resolves_root.below (show Plain "report_facts" by decide) subscript_reportFacts
  exact hroot.path path hpath hv

theorem factsAt_eligibilityData : FactsAt (eligibilityData selection months) where
  unavailable := by
    refine resolves_fact ["unavailable"] (by decide) (readAt_singleton.trans ?_)
    simp [subscript, factsWith, Json.lookup]
  noReasons := by
    refine resolves_fact ["no_reasons", "value"] (by decide) (readAt_cons.mpr ?_)
    simp [readAt_singleton, subscript, factsWith, Json.lookup]
  kinds := by
    have hkinds : subscript (factsWith (addedFacts selection.family)) "reason_kinds" = .ok
        (.obj [("failure_reasons", .str "FAILURE"), ("unknown_reasons", .str "UNKNOWN")]) := by
      simp [subscript, factsWith, Json.lookup]
    simp only [reasonKinds, List.forall_mem_cons, List.not_mem_nil, false_implies, implies_true,
      and_true]
    constructor
    · exact resolves_fact ["reason_kinds", "failure_reasons"] (by decide)
        (readAt_cons.mpr ⟨_, hkinds, rfl⟩)
    · exact resolves_fact ["reason_kinds", "unknown_reasons"] (by decide)
        (readAt_cons.mpr ⟨_, hkinds, rfl⟩)

theorem monthAt_eligibilityData {index : Nat} {pin : MonthPin} {month : Json} {s : MonthSource}
    (hpin : selection.months[index]? = some pin) (hmonth : months[index]? = some month)
    (h : readMonth month = .ok s) :
    MonthAt (eligibilityData selection months) ⟨index, pin, s⟩ := by
  obtain ⟨rfl, hread⟩ := readMonth_read h
  refine ⟨hread, ?_, ?_, ?_⟩
  · refine bind_eq_ok.mpr ⟨_, subscript_sourceMonths, bind_eq_ok.mpr ⟨months, rfl, ?_⟩⟩
    rw [hmonth]
  · have hroot : Resolves (eligibilityData selection months) "/source_months" (.arr months) :=
      resolves_root.below (show Plain "source_months" by decide) subscript_sourceMonths
    exact hroot.item hmonth
  · have hroot : Resolves (eligibilityData selection months) "/selection/months" _ :=
      (resolves_root.below (show Plain "selection" by decide) subscript_selection).below
        (show Plain "months" by decide) subscript_selectedMonths
    have hitem : (selection.months.map (monthPinDump selection.family))[index]? =
        some (monthPinDump selection.family pin) := by
      rw [List.getElem?_map, hpin]
      rfl
    refine (hroot.item hitem).below (show Plain "month" by decide) ?_
    simp [subscript, monthPinDump, Json.lookup]

end Dataset

end LotusReport.Composite.Eligibility
