import LotusReport.Composite.Eligibility.PublishedMonth
import LotusReport.Composite.Eligibility.Tables

/-!
# The eligibility projection

What the tables of an eligibility report should show: a row for each evaluated
portfolio, for each of its assessments, for each reason of an assessment and
for each decision of the memberships. The rows that are emitted are compared
with these one by one.
-/

namespace LotusReport.Composite.Eligibility

open Encoding Fallible

section Sources

/-- An assessment, with its rule and its two lists of reasons. -/
structure AssessmentSource where
  item : Json
  rule : Json
  failures : List Json
  unknowns : List Json

/-- The reasons of a kind. -/
def AssessmentSource.reasons (assessment : AssessmentSource) (kind : String) : List Json :=
  if kind = "failure_reasons" then assessment.failures else assessment.unknowns

/-- An evaluated portfolio, with its assessments. -/
structure MemberSource where
  item : Json
  assessments : List AssessmentSource

/-- A membership, with its decisions. -/
structure MembershipSource where
  item : Json
  decisions : List Json

/-- A month, with its evaluation and its memberships. -/
structure MonthSource where
  month : Json
  kind : String
  evaluation : Json
  members : List MemberSource
  memberships : List (String × MembershipSource)

/-- The proposal of a published month is that of its receipt. -/
def MonthSource.published (s : MonthSource) : Bool := s.kind == "PUBLISHED"

/-- The items of a list. -/
def listOf : Json → Except CaptureError (List Json)
  | .arr items => .ok items
  | _ => .error (.raised "TypeError")

/-- The reasons of an assessment are texts. -/
def reasonsOf (item : Json) (kind : String) : Except CaptureError (List Json) := do
  return (← (← listOf (← subscript item kind)).mapM textOf).map Json.str

def readAssessment (item : Json) : Except CaptureError AssessmentSource := do
  return {
    item
    rule := ← subscript item "rule"
    failures := ← reasonsOf item "failure_reasons"
    unknowns := ← reasonsOf item "unknown_reasons" }

def readMember (item : Json) : Except CaptureError MemberSource := do
  return { item, assessments := ← (← listOf (← subscript item "assessments")).mapM readAssessment }

def readMembership (month : Json) (product : String) :
    Except CaptureError (String × MembershipSource) := do
  let item ← subscript month product
  return (product, { item, decisions := ← listOf (← subscript item "decisions") })

/-- The place of the proposal in a month. -/
def proposalPath (published : Bool) : List String :=
  if published then ["receipt", "approval", "proposal"] else ["proposal"]

/-- The memberships of a published month, in the order of their history. -/
def membershipProducts : List String := ["parent_membership", "membership"]

/-- A month that was only evaluated has no memberships. -/
def readMemberships (month : Json) (kind : String) :
    Except CaptureError (List (String × MembershipSource)) :=
  if kind = "EVALUATED_ONLY" then .ok [] else membershipProducts.mapM (readMembership month)

def readMonth (month : Json) : Except CaptureError MonthSource := do
  let kind ← textOf (← subscript month "evidence_kind")
  let evaluation ← readAt month (proposalPath (kind == "PUBLISHED") ++ ["evaluation"])
  return {
    month
    kind
    evaluation
    members := ← (← listOf (← subscript evaluation "portfolios")).mapM readMember
    memberships := ← readMemberships month kind }

/-- An assessment as it was read. -/
structure AssessmentSource.Read (a : AssessmentSource) : Prop where
  rule : subscript a.item "rule" = .ok a.rule
  reasons : ∀ kind ∈ reasonKinds, subscript a.item kind = .ok (.arr (a.reasons kind))
  stated : ∀ kind ∈ reasonKinds, ∀ reason ∈ a.reasons kind, reason ≠ .null

/-- A portfolio as it was read. -/
structure MemberSource.Read (member : MemberSource) : Prop where
  assessments : subscript member.item "assessments" = .ok (.arr (member.assessments.map (·.item)))
  each : ∀ a ∈ member.assessments, a.Read

/-- A month as it was read. -/
structure MonthSource.Read (s : MonthSource) : Prop where
  kind : subscript s.month "evidence_kind" = .ok (.str s.kind)
  evaluation : readAt s.month (proposalPath s.published ++ ["evaluation"]) = .ok s.evaluation
  portfolios : subscript s.evaluation "portfolios" = .ok (.arr (s.members.map (·.item)))
  members : ∀ member ∈ s.members, member.Read
  products : s.kind ≠ "EVALUATED_ONLY" → s.memberships.map Prod.fst = membershipProducts
  memberships : ∀ membership ∈ s.memberships,
    subscript s.month membership.1 = .ok membership.2.item ∧
      subscript membership.2.item "decisions" = .ok (.arr membership.2.decisions)

theorem listOf_eq_ok {value : Json} {items : List Json} :
    listOf value = .ok items ↔ value = .arr items := by
  cases value <;> simp [listOf]

theorem map_str_of_mapM {items : List Json} {texts : List String}
    (h : items.mapM textOf = .ok texts) : items = texts.map Json.str := by
  rw [mapM_eq_ok] at h
  induction h with
  | nil => rfl
  | cons hhead _ ih => rw [List.map_cons, textOf_eq_ok.mp hhead, ih]

theorem reasonsOf_read {item : Json} {kind : String} {reasons : List Json}
    (h : reasonsOf item kind = .ok reasons) :
    subscript item kind = .ok (.arr reasons) ∧ ∀ reason ∈ reasons, reason ≠ .null := by
  obtain ⟨value, hvalue, h⟩ := bind_eq_ok.mp h
  obtain ⟨items, hitems, h⟩ := bind_eq_ok.mp h
  obtain ⟨texts, htexts, hdone⟩ := bind_eq_ok.mp h
  cases hdone
  rw [listOf_eq_ok] at hitems
  subst hitems
  refine ⟨map_str_of_mapM htexts ▸ hvalue, ?_⟩
  rw [List.forall_mem_map]
  exact fun text _ hnull => by cases hnull

theorem readAssessment_read {item : Json} {a : AssessmentSource} (h : readAssessment item = .ok a) :
    a.item = item ∧ a.Read := by
  obtain ⟨rule, hrule, h⟩ := bind_eq_ok.mp h
  obtain ⟨failures, hfailures, h⟩ := bind_eq_ok.mp h
  obtain ⟨unknowns, hunknowns, h⟩ := bind_eq_ok.mp h
  cases h
  refine ⟨rfl, hrule, ?_, ?_⟩
  · simp only [reasonKinds, List.forall_mem_cons, List.not_mem_nil, false_implies, implies_true,
      and_true]
    exact ⟨(reasonsOf_read hfailures).1, (reasonsOf_read hunknowns).1⟩
  · simp only [reasonKinds, List.forall_mem_cons, List.not_mem_nil, false_implies, implies_true,
      and_true]
    exact ⟨(reasonsOf_read hfailures).2, (reasonsOf_read hunknowns).2⟩

theorem map_item_of_mapM {α : Type} {read : Json → Except CaptureError α} {item : α → Json}
    {Holds : α → Prop} (hread : ∀ {j a}, read j = .ok a → item a = j ∧ Holds a)
    {items : List Json} {as : List α} (h : items.mapM read = .ok as) :
    items = as.map item ∧ ∀ a ∈ as, Holds a := by
  rw [mapM_eq_ok] at h
  induction h with
  | nil => exact ⟨rfl, fun _ ha => absurd ha List.not_mem_nil⟩
  | cons hhead _ ih =>
      obtain ⟨rfl, hholds⟩ := hread hhead
      exact ⟨congrArg _ ih.1, List.forall_mem_cons.mpr ⟨hholds, ih.2⟩⟩

theorem readMember_read {item : Json} {member : MemberSource} (h : readMember item = .ok member) :
    member.item = item ∧ member.Read := by
  obtain ⟨value, hvalue, h⟩ := bind_eq_ok.mp h
  obtain ⟨items, hitems, h⟩ := bind_eq_ok.mp h
  obtain ⟨assessments, hread, h⟩ := bind_eq_ok.mp h
  cases h
  rw [listOf_eq_ok] at hitems
  subst hitems
  obtain ⟨rfl, heach⟩ := map_item_of_mapM readAssessment_read hread
  exact ⟨rfl, hvalue, heach⟩

theorem memberships_of_mapM {month : Json} {products : List String}
    {memberships : List (String × MembershipSource)}
    (h : products.mapM (readMembership month) = .ok memberships) :
    memberships.map Prod.fst = products ∧ ∀ membership ∈ memberships,
      subscript month membership.1 = .ok membership.2.item ∧
        subscript membership.2.item "decisions" = .ok (.arr membership.2.decisions) := by
  rw [mapM_eq_ok] at h
  induction h with
  | nil => exact ⟨rfl, fun _ hm => absurd hm List.not_mem_nil⟩
  | cons hhead _ ih =>
      obtain ⟨item, hitem, hhead⟩ := bind_eq_ok.mp hhead
      obtain ⟨value, hvalue, hhead⟩ := bind_eq_ok.mp hhead
      obtain ⟨decisions, hdecisions, hhead⟩ := bind_eq_ok.mp hhead
      cases hhead
      rw [listOf_eq_ok] at hdecisions
      subst hdecisions
      exact ⟨congrArg _ ih.1, List.forall_mem_cons.mpr ⟨⟨hitem, hvalue⟩, ih.2⟩⟩

theorem readMonth_read {month : Json} {s : MonthSource} (h : readMonth month = .ok s) :
    s.month = month ∧ s.Read := by
  obtain ⟨value, hvalue, h⟩ := bind_eq_ok.mp h
  obtain ⟨kind, hkind, h⟩ := bind_eq_ok.mp h
  obtain ⟨evaluation, hevaluation, h⟩ := bind_eq_ok.mp h
  obtain ⟨portfolios, hportfolios, h⟩ := bind_eq_ok.mp h
  obtain ⟨items, hitems, h⟩ := bind_eq_ok.mp h
  obtain ⟨members, hmembers, h⟩ := bind_eq_ok.mp h
  obtain ⟨memberships, hmemberships, h⟩ := bind_eq_ok.mp h
  cases h
  rw [textOf_eq_ok] at hkind
  rw [listOf_eq_ok] at hitems
  subst hkind hitems
  obtain ⟨rfl, heach⟩ := map_item_of_mapM readMember_read hmembers
  have hread : (kind ≠ "EVALUATED_ONLY" → memberships.map Prod.fst = membershipProducts) ∧
      ∀ membership ∈ memberships, subscript month membership.1 = .ok membership.2.item ∧
        subscript membership.2.item "decisions" = .ok (.arr membership.2.decisions) := by
    unfold readMemberships at hmemberships
    split at hmemberships
    · rename_i honly
      cases hmemberships
      exact ⟨fun hne => absurd honly hne, fun _ hm => absurd hm List.not_mem_nil⟩
    · obtain ⟨hproducts, hall⟩ := memberships_of_mapM hmemberships
      exact ⟨fun _ => hproducts, hall⟩
  exact ⟨rfl, hvalue, hevaluation, hportfolios, heach, hread.1, hread.2⟩

end Sources

section Expected

/-- A row as it should be: its id, the value of each field, and what a null means in it. -/
structure RowSource where
  rowId : String
  value : String → Except CaptureError Json
  absence : String → Availability × List String

/-- A month of a report: its index, its pin and what it holds. -/
structure MonthPlace where
  index : Nat
  pin : MonthPin
  source : MonthSource

/-- The months of a report in their places. -/
def monthPlaces (pins : List MonthPin) (sources : List MonthSource) : List MonthPlace :=
  (pins.zip sources).zipIdx.map fun place => ⟨place.2, place.1.1, place.1.2⟩

variable (lib : SourceLibrary) (m : MonthPlace)

/-- The values that the rows of a month share, and the others. -/
def monthValue (other : String → Except CaptureError Json) (field : String) :
    Except CaptureError Json :=
  if field = "month" then .ok (.str m.pin.month)
  else if field = "evidence_kind" then .ok (.str m.source.kind)
  else other field

/-- The values that the rows of a portfolio share, and the others. -/
def memberValue (member : MemberSource) (other : String → Except CaptureError Json)
    (field : String) : Except CaptureError Json :=
  if field = "portfolio_id" then subscript member.item field else monthValue m other field

def expectedSummary : RowSource where
  rowId := monthId m.index
  value := monthValue m (subscript m.source.evaluation)
  absence _ := valueUnavailable

def expectedMethods : RowSource where
  rowId := monthId m.index
  value := monthValue m fun field => readAt m.source.evaluation ["resolved_policy", field]
  absence _ := valueUnavailable

def memberId (position : Nat) : String := monthId m.index ++ ":p" ++ toString position

def expectedMember (member : MemberSource × Nat) : RowSource where
  rowId := memberId m member.2
  value := memberValue m member.1 (subscript member.1.item)
  absence _ := valueUnavailable

def assessmentId (member : MemberSource × Nat) (position : Nat) : String :=
  memberId m member.2 ++ ":a" ++ toString position

def expectedAssessment (member : MemberSource × Nat) (assessment : AssessmentSource × Nat) :
    RowSource where
  rowId := assessmentId m member assessment.2
  value := memberValue m member.1 (subscript assessment.1.item)
  absence field :=
    if field ∈ unusedFields lib assessment.1.rule then fieldNotApplicable else valueUnavailable

/-- The text of a kind of reasons. -/
def kindText (kind : String) : String := if kind = "failure_reasons" then "FAILURE" else "UNKNOWN"

/-- The values of the row of a reason. -/
def reasonValue (assessment : AssessmentSource) (kind : String) (reason : Json) (field : String) :
    Except CaptureError Json :=
  if field = "kind" then .ok (.str (kindText kind))
  else if field = "reason_code" then .ok reason
  else subscript assessment.item field

def expectedReason (member : MemberSource × Nat) (assessment : AssessmentSource × Nat)
    (kind : String) (reason : Json × Nat) : RowSource where
  rowId := assessmentId m member assessment.2 ++ ":" ++ kind ++ ":" ++ toString reason.2
  value := memberValue m member.1 (reasonValue assessment.1 kind reason.1)
  absence _ := valueUnavailable

/-- The reasons of an assessment: those that failed it, then those that leave it unknown. -/
def expectedReasons (member : MemberSource × Nat) (assessment : AssessmentSource × Nat) :
    List RowSource :=
  reasonKinds.flatMap fun kind =>
    (assessment.1.reasons kind).zipIdx.map (expectedReason m member assessment kind)

/-- The reasons of a month. -/
def monthReasons : List RowSource :=
  m.source.members.zipIdx.flatMap fun member =>
    member.1.assessments.zipIdx.flatMap (expectedReasons m member)

/-- The row of a month without any reason. -/
def expectedNoReasons : RowSource where
  rowId := monthId m.index ++ ":not_applicable"
  value := monthValue m fun _ => .ok .null
  absence _ := noReasons

def expectedDecision (product : String) (membership : Json) (decision : Json × Nat) :
    RowSource where
  rowId := monthId m.index ++ ":" ++ product ++ ":d" ++ toString decision.2
  value field :=
    if field = "month" then .ok (.str m.pin.month)
    else if field ∈ membershipMetadata then subscript membership field
    else subscript decision.1 field
  absence _ := valueUnavailable

/-- The row of a month that was only evaluated. -/
def expectedUnavailable : RowSource where
  rowId := monthId m.index ++ ":unavailable"
  value := monthValue m fun _ => .ok .null
  absence _ := valueUnavailable

/-- The decisions of a membership. -/
def expectedDecisions (membership : String × MembershipSource) : List RowSource :=
  membership.2.decisions.zipIdx.map (expectedDecision m membership.1 membership.2.item)

/-- The decisions of both memberships of a month. -/
def expectedHistory : List RowSource :=
  if m.source.kind = "EVALUATED_ONLY" then [expectedUnavailable m]
  else m.source.memberships.flatMap (expectedDecisions m)

/-- A product that is retained with a month: where it is, the field of its revision, and the key
of its digest. -/
structure RetainedProduct where
  path : List String
  revision : String
  digestKey : String

def retainedProducts (published : Bool) : List RetainedProduct :=
  if published then
    [ ⟨["receipt", "approval", "proposal"], "evaluation_revision", "receipt"⟩,
      ⟨["membership"], "membership_revision", "membership"⟩,
      ⟨["parent_membership"], "membership_revision", "parent_membership"⟩,
      ⟨["universe"], "attestation_version", "universe"⟩,
      ⟨["receipt"], "publication_sequence", "receipt"⟩ ]
  else [⟨["proposal"], "evaluation_revision", "proposal"⟩]

/-- The values of the row of a retained product. -/
def productValue (month : Json) (product : RetainedProduct) (field : String) :
    Except CaptureError Json :=
  if field = "product" then readAt month (product.path ++ ["product_name"])
  else if field = "revision" then readAt month (product.path ++ [product.revision])
  else if field = "content_hash" then readAt month (product.path ++ [field])
  else readAt month ["response_digests", product.digestKey]

def expectedProduct (product : RetainedProduct × Nat) : RowSource where
  rowId := monthId m.index ++ ":s" ++ toString product.2
  value := monthValue m (productValue m.source.month product.1)
  absence _ := valueUnavailable

def expectedDisclosure (disclosure : Json × Nat) : RowSource where
  rowId := "d" ++ toString disclosure.2
  value := subscript disclosure.1
  absence _ := valueUnavailable

/-- The rows of a month in each table. -/
def expectedRowsOf : EligibilityTableId → List RowSource
  | .summary => [expectedSummary m]
  | .members => m.source.members.zipIdx.map (expectedMember m)
  | .assessments => m.source.members.zipIdx.flatMap fun member =>
      member.1.assessments.zipIdx.map (expectedAssessment lib m member)
  | .reasons => if monthReasons m = [] then [expectedNoReasons m] else monthReasons m
  | .history => expectedHistory m
  | .methods => [expectedMethods m]
  | .lineage => (retainedProducts m.source.published).zipIdx.map (expectedProduct m)
  | .disclosures => []

/-- The rows of a report in each table. -/
def expectedRows (family : EligibilityFamily) (months : List MonthPlace)
    (table : EligibilityTableId) : List RowSource :=
  months.flatMap (fun m => expectedRowsOf lib m table) ++
    if table = .disclosures then
      (eligibilityDisclosures ++ (addedFacts family).disclosures).zipIdx.map expectedDisclosure
    else []

/-- The values of a row are scalars. -/
def presentable (table : EligibilityTableId) (source : RowSource) : Bool :=
  (tableFields table).all fun field => (source.value field).toOption.any isScalar

end Expected

section Shown

variable (data : Json)

/-- A cell shows the value of a field of its row: its pointer leads to that value, a scalar, and
its text is that of the scalar. -/
def Shows (source : RowSource) (field : String) (entry : String × CompositeCell) : Prop :=
  entry.1 = field ∧ ∃ v, source.value field = .ok v ∧
    resolveSourcePointer data entry.2.sourcePointer = .ok v ∧ isScalar v = true ∧
    entry.2.canonicalValue = canonicalText v ∧
    (entry.2.availability, entry.2.reasonCodes) =
      if v = .null then source.absence field else (.available, [])

/-- A row of a table is the expected one. -/
def Shown (table : EligibilityTableId) (source : RowSource) (row : CompositeRow) : Prop :=
  row.rowId = source.rowId ∧ List.Forall₂ (Shows data source) (tableFields table) row.cells

end Shown

section Pointers

variable {data v w : Json} {pointer name : String}

/-- The pointer leads to the value. -/
def Resolves (data : Json) (pointer : String) (v : Json) : Prop :=
  resolveSourcePointer data pointer = .ok v

/-- A name that a pointer repeats as it is. -/
def Plain (name : String) : Prop := escapeKey name = name

instance : DecidablePred Plain := fun name => inferInstanceAs (Decidable (escapeKey name = name))

theorem pointerParts_below (h : Plain name) :
    pointerParts (below pointer name) = pointerParts pointer ++ [name.toList] := by
  have hparts := pointerParts_append pointer (.key name)
  rwa [segment, h] at hparts

theorem pointerParts_itemBelow (n : Nat) :
    pointerParts (itemBelow pointer n) = pointerParts pointer ++ [(toString n).toList] :=
  pointerParts_append pointer (.index n)

theorem resolves_root : Resolves data "" data := rfl

theorem Resolves.below (h : Resolves data pointer v) (hname : Plain name)
    (hv : subscript v name = .ok w) : Resolves data (below pointer name) w := by
  obtain ⟨fields, rfl, hlookup⟩ := subscript_eq_ok.mp hv
  have hkey : unescapeKey name.toList = name := by
    have hescaped := unescapeKey_escapeKey name
    rwa [hname] at hescaped
  have hstep : resolvePart (.obj fields) name.toList = .ok w := by
    simp only [resolvePart, hkey, hlookup]
  unfold Resolves resolveSourcePointer at *
  rw [pointerParts_below hname, List.foldlM_append]
  refine bind_eq_ok.mpr ⟨_, h, ?_⟩
  rw [List.foldlM_cons]
  exact bind_eq_ok.mpr ⟨w, hstep, rfl⟩

theorem Resolves.item {items : List Json} {n : Nat} (h : Resolves data pointer (.arr items))
    (hn : items[n]? = some w) : Resolves data (itemBelow pointer n) w := by
  unfold Resolves resolveSourcePointer at *
  rw [pointerParts_itemBelow, List.foldlM_append]
  refine bind_eq_ok.mpr ⟨_, h, ?_⟩
  rw [List.foldlM_cons]
  exact bind_eq_ok.mpr ⟨w, resolvePart_index hn, rfl⟩

/-- A value that is read along names is what the pointer through them leads to. -/
theorem Resolves.path (path : List String) (h : Resolves data pointer v)
    (hpath : ∀ name ∈ path, Plain name) (hv : readAt v path = .ok w) :
    Resolves data (path.foldl Eligibility.below pointer) w := by
  induction path generalizing pointer v with
  | nil =>
      cases hv
      exact h
  | cons name path ih =>
      rw [List.forall_mem_cons] at hpath
      obtain ⟨next, hnext, hrest⟩ := readAt_cons.mp hv
      rw [List.foldl_cons]
      exact ih (h.below hpath.1 hnext) hpath.2 hrest

theorem Resolves.eq (hv : Resolves data pointer v) (hw : Resolves data pointer w) : v = w :=
  Except.ok.inj (hv.symm.trans hw)

/-- A name that is repeated as it is and is no position of a list. -/
def IsKey (name : String) : Prop := Plain name ∧ indexOf name = none

instance : DecidablePred IsKey := fun name =>
  inferInstanceAs (Decidable (escapeKey name = name ∧ indexOf name = none))

theorem isKey_of_mem_tableFields (table : EligibilityTableId) :
    ∀ field ∈ tableFields table, IsKey field := by
  cases table <;> simp [tableFields, IsKey, Plain, escapeKey, replaceChar, indexOf]

/-- Below a value, a pointer leads to a field of the value. -/
theorem Resolves.of_below (h : Resolves data pointer v) (hname : IsKey name)
    (hw : Resolves data (Eligibility.below pointer name) w) : subscript v name = .ok w := by
  unfold Resolves resolveSourcePointer at h hw
  rw [pointerParts_below hname.1, List.foldlM_append] at hw
  obtain ⟨v', hv', hstep⟩ := bind_eq_ok.mp hw
  cases h.symm.trans hv'
  rw [List.foldlM_cons] at hstep
  obtain ⟨w', hstep, hdone⟩ := bind_eq_ok.mp hstep
  cases hdone
  have hkey : unescapeKey name.toList = name := by
    have hescaped := unescapeKey_escapeKey name
    rwa [hname.1] at hescaped
  unfold resolvePart at hstep
  simp only [hkey, hname.2] at hstep
  cases v with
  | obj fields =>
      dsimp only at hstep
      apply subscript_eq_ok.mpr
      refine ⟨fields, rfl, ?_⟩
      cases hlookup : Json.lookup fields name with
      | none =>
          rw [hlookup] at hstep
          cases hstep
      | some found =>
          rw [hlookup] at hstep
          cases hstep
          rfl
  | _ => cases hstep

/-- Below a place, a pointer leads somewhere only if the place is there. -/
theorem Resolves.parent (hname : Plain name)
    (hw : Resolves data (Eligibility.below pointer name) w) : ∃ v, Resolves data pointer v := by
  unfold Resolves resolveSourcePointer at hw ⊢
  rw [pointerParts_below hname, List.foldlM_append] at hw
  obtain ⟨v, hv, -⟩ := bind_eq_ok.mp hw
  exact ⟨v, hv⟩

/-- Below a value, a pointer through names leads to what is read along them. -/
theorem Resolves.of_path (path : List String) (h : Resolves data pointer v)
    (hpath : ∀ name ∈ path, IsKey name)
    (hw : Resolves data (path.foldl Eligibility.below pointer) w) : readAt v path = .ok w := by
  induction path generalizing pointer v with
  | nil => exact congrArg Except.ok (h.eq hw)
  | cons name path ih =>
      rw [List.forall_mem_cons] at hpath
      rw [List.foldl_cons] at hw
      have hthere : ∃ next, Resolves data (Eligibility.below pointer name) next := by
        have hplain := fun other hother => (hpath.2 other hother).1
        clear ih hpath h
        induction path using List.reverseRecOn generalizing w with
        | nil => exact ⟨w, hw⟩
        | append_singleton path last ih =>
            rw [List.foldl_append] at hw
            obtain ⟨u, hu⟩ := Resolves.parent (hplain last (by simp)) hw
            exact ih hu fun other hother => hplain other (List.mem_append_left _ hother)
      obtain ⟨next, hnext⟩ := hthere
      exact readAt_cons.mpr ⟨next, h.of_below hpath.1 hnext, ih hnext hpath.2 hw⟩

theorem lastPart_below (hslash : '/' ∉ name.toList) :
    lastPart (below pointer name) = (pointer, name) := by
  have hall : ∀ c ∈ name.toList.reverse, (c != '/') = true := by
    intro c hc
    rw [bne_iff_ne]
    rintro rfl
    exact hslash (List.mem_reverse.mp hc)
  have hchars : (below pointer name).toList.reverse =
      name.toList.reverse ++ '/' :: pointer.toList.reverse := by
    simp [below]
  unfold lastPart
  simp only [hchars, List.takeWhile_append_of_pos hall, List.dropWhile_append_of_pos hall]
  simp

/-- A pointer into the source months that does not pass through assessments. -/
structure Outside (pointer : String) : Prop where
  source : (pointerParts pointer).head? = some "source_months".toList
  noAssessments : "assessments".toList ∉ pointerParts pointer

theorem Outside.below (h : Outside pointer) (hname : Plain name) (hne : name ≠ "assessments") :
    Outside (below pointer name) := by
  constructor
  · rw [pointerParts_below hname, List.head?_append, h.source]
    rfl
  · rw [pointerParts_below hname, List.mem_append, List.mem_singleton]
    rintro (hmem | heq)
    · exact h.noAssessments hmem
    · exact hne (String.toList_inj.mp heq.symm)

theorem Outside.item (h : Outside pointer) (n : Nat) : Outside (itemBelow pointer n) := by
  constructor
  · rw [pointerParts_itemBelow, List.head?_append, h.source]
    rfl
  · rw [pointerParts_itemBelow, List.mem_append, List.mem_singleton]
    rintro (hmem | heq)
    · exact h.noAssessments hmem
    · have hdigits : (toString n).toList = Nat.toDigits 10 n := by simp [toString]
      have hmem : 'a' ∈ Nat.toDigits 10 n := by
        rw [← hdigits, ← heq]
        decide
      cases Json.digit_of_mem hmem

theorem mem_pointerParts_of_within (h : "/assessments/".toList <:+: pointer.toList) :
    "assessments".toList ∈ pointerParts pointer := by
  obtain ⟨front, back, heq⟩ := h
  have hchars : pointer.toList = front ++ '/' :: ("assessments".toList ++ '/' :: back) := by
    rw [← heq]
    simp
  have hsplit : pointer.toList.splitOn '/' =
      front.splitOn '/' ++ ("assessments".toList.splitOn '/' ++ back.splitOn '/') := by
    rw [hchars]
    unfold List.splitOn
    rw [List.splitOnP_append_cons _ _ (by simp), List.splitOnP_append_cons _ _ (by simp)]
  have hfront : front.splitOn '/' ≠ [] := List.splitOnP_ne_nil _ _
  rw [pointerParts, hsplit, List.tail_append_of_ne_nil hfront]
  apply List.mem_append_right
  apply List.mem_append_left
  decide

variable {lib : SourceLibrary}

theorem nullSemantics_outside (h : Outside pointer) :
    nullSemantics lib data pointer = .ok valueUnavailable := by
  unfold nullSemantics
  split
  · rename_i heq
    have hhead := h.source
    rw [heq] at hhead
    exact absurd hhead (by decide +kernel)
  · split
    · rename_i hinfix
      exact absurd (mem_pointerParts_of_within hinfix) h.noAssessments
    · rfl

theorem nullSemantics_within (root rest : String) (h : '/' ∉ name.toList)
    (hpointer : below pointer name = root ++ "/assessments/" ++ rest) :
    nullSemantics lib data (below pointer name) = (do
      let assessment ← resolveSourcePointer data pointer
      let rule ← subscript assessment "rule"
      return if name ∈ unusedFields lib rule then fieldNotApplicable else valueUnavailable) := by
  have hinfix : "/assessments/".toList <:+: (below pointer name).toList := by
    refine ⟨root.toList, rest.toList, ?_⟩
    rw [hpointer]
    simp
  have hne : below pointer name ≠ "/report_facts/no_reasons/value" := by
    intro heq
    rw [heq] at hinfix
    exact absurd hinfix (by decide +kernel)
  unfold nullSemantics
  rw [if_neg hne, if_pos hinfix, lastPart_below h]

/-- A null of an assessment is a field that its rule does not use, or an unavailable value. -/
theorem nullSemantics_assessment {root : String} {n : Nat} {assessment rule : Json}
    (h : Resolves data (itemBelow (below root "assessments") n) assessment)
    (hrule : subscript assessment "rule" = .ok rule) (hname : Plain name) :
    nullSemantics lib data (below (itemBelow (below root "assessments") n) name) =
      .ok (if name ∈ unusedFields lib rule then fieldNotApplicable else valueUnavailable) := by
  have hslash : '/' ∉ name.toList := by
    have hescaped := slash_not_mem_escapeKey name
    rwa [hname] at hescaped
  rw [nullSemantics_within root (toString n ++ "/" ++ name) hslash
    (by simp [below, itemBelow, String.append_assoc]), h]
  show (do
    let rule ← subscript assessment "rule"
    return if name ∈ unusedFields lib rule then fieldNotApplicable else valueUnavailable) = _
  rw [hrule]
  rfl

end Pointers

end LotusReport.Composite.Eligibility
