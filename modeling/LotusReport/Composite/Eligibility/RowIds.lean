import LotusReport.Composite.Eligibility.Emission

/-!
# The ids of the rows

The id of a row names its place, part by part between colons.
-/

namespace LotusReport.Composite.Eligibility

open Encoding Fallible

section Parts

/-- The parts of an id, between its colons. -/
def idParts (id : String) : List (List Char) := id.toList.splitOn ':'

theorem splitOn_of_not_mem {part : List Char} (h : ':' ∉ part) : part.splitOn ':' = [part] := by
  unfold List.splitOn
  apply List.splitOnP_eq_singleton
  intro c hc
  rw [beq_eq_false_iff_ne]
  rintro rfl
  exact h hc

theorem idParts_colon {id text : String} (h : ':' ∉ text.toList) :
    idParts (id ++ ":" ++ text) = idParts id ++ [text.toList] := by
  have hchars : (id ++ ":" ++ text).toList = id.toList ++ ':' :: text.toList := by simp
  have hpart := splitOn_of_not_mem h
  rw [idParts, hchars]
  unfold List.splitOn at hpart ⊢
  rw [List.splitOnP_append_cons _ _ (by simp), hpart]
  rfl

theorem idParts_tag {id text : String} (tag : String) (htag : ':' ∉ tag.toList)
    (htext : ':' ∉ text.toList) :
    idParts (id ++ (":" ++ tag) ++ text) = idParts id ++ [tag.toList ++ text.toList] := by
  have hjoined : id ++ (":" ++ tag) ++ text = id ++ ":" ++ (tag ++ text) := by
    simp only [String.append_assoc]
  rw [hjoined, idParts_colon, String.toList_append]
  rw [String.toList_append, List.mem_append]
  exact fun hmem => hmem.elim htag htext

theorem colon_not_mem_position (n : Nat) : ':' ∉ (toString n).toList := by
  have hdigits : (toString n).toList = Nat.toDigits 10 n := by simp [toString]
  rw [hdigits]
  intro hmem
  cases Json.digit_of_mem hmem

theorem position_injective {n k : Nat} (h : (toString n).toList = (toString k).toList) : n = k :=
  Json.digits_inj (by simpa using h)

theorem idParts_start {tag : String} (htag : ':' ∉ tag.toList) (n : Nat) :
    idParts (tag ++ toString n) = [tag.toList ++ (toString n).toList] := by
  rw [idParts, String.toList_append]
  apply splitOn_of_not_mem
  rw [List.mem_append]
  exact fun hmem => hmem.elim htag (colon_not_mem_position n)

theorem idParts_monthId (index : Nat) :
    idParts (monthId index) = ["m".toList ++ (toString index).toList] :=
  idParts_start (by decide) index

end Parts

section Distinct

variable {α : Type} {lib : SourceLibrary} {m : MonthPlace}

/-- The ids of rows. -/
def idsOf (sources : List RowSource) : List String := sources.map fun source => source.rowId

/-- Rows whose ids state the position of their item, in one part, differ from item to item. -/
theorem nodup_zipIdx {items : List α} {rows : α × Nat → List RowSource} (part : Nat)
    (tag : List Char) (heach : ∀ a ∈ items.zipIdx, (idsOf (rows a)).Nodup)
    (hpart : ∀ a ∈ items.zipIdx, ∀ source ∈ rows a,
      (idParts source.rowId)[part]? = some (tag ++ (toString a.2).toList)) :
    (idsOf (items.zipIdx.flatMap rows)).Nodup := by
  unfold idsOf
  rw [List.map_flatMap, List.nodup_flatMap]
  refine ⟨heach, ?_⟩
  have hpositions : items.zipIdx.Pairwise fun a b => a.2 ≠ b.2 := by
    rw [← List.pairwise_map, List.zipIdx_map_snd]
    exact List.nodup_range'
  refine hpositions.imp_of_mem fun {a b} ha hb hne => ?_
  intro id hid hid'
  obtain ⟨source, hsource, rfl⟩ := List.mem_map.mp hid
  obtain ⟨other, hother, heq⟩ := List.mem_map.mp hid'
  have hsame := (hpart a ha source hsource).symm.trans (heq ▸ hpart b hb other hother)
  exact hne (position_injective (List.append_cancel_left (Option.some.inj hsame)))

theorem nodup_zipIdx_map {items : List α} {row : α × Nat → RowSource} (part : Nat)
    (tag : List Char) (hpart : ∀ a ∈ items.zipIdx,
      (idParts (row a).rowId)[part]? = some (tag ++ (toString a.2).toList)) :
    (idsOf (items.zipIdx.map row)).Nodup := by
  rw [List.map_eq_flatMap]
  apply nodup_zipIdx part tag
  · exact fun a _ => List.nodup_singleton _
  · intro a ha source hsource
    rw [List.mem_singleton.mp hsource]
    exact hpart a ha

theorem idParts_memberId (position : Nat) :
    idParts (memberId m position) =
      idParts (monthId m.index) ++ ["p".toList ++ (toString position).toList] :=
  idParts_tag "p" (by decide) (colon_not_mem_position position)

theorem idParts_assessmentId (member : MemberSource × Nat) (position : Nat) :
    idParts (assessmentId m member position) =
      idParts (memberId m member.2) ++ ["a".toList ++ (toString position).toList] :=
  idParts_tag "a" (by decide) (colon_not_mem_position position)

theorem idParts_reason (member : MemberSource × Nat) (assessment : AssessmentSource × Nat)
    {kind : String} (hkind : kind ∈ reasonKinds) (reason : Json × Nat) :
    idParts (expectedReason m member assessment kind reason).rowId =
      idParts (assessmentId m member assessment.2) ++ [kind.toList] ++
        [(toString reason.2).toList] := by
  have hcolon : ∀ kind ∈ reasonKinds, ':' ∉ kind.toList := by decide +kernel
  rw [expectedReason, idParts_colon (colon_not_mem_position reason.2),
    idParts_colon (hcolon kind hkind)]

theorem idParts_decision {product : String} (hproduct : product ∈ membershipProducts)
    (membership : Json) (decision : Json × Nat) :
    idParts (expectedDecision m product membership decision).rowId =
      idParts (monthId m.index) ++ [product.toList] ++
        ["d".toList ++ (toString decision.2).toList] := by
  have hcolon : ∀ product ∈ membershipProducts, ':' ∉ product.toList := by decide +kernel
  rw [← idParts_colon (hcolon product hproduct)]
  exact idParts_tag "d" (by decide) (colon_not_mem_position decision.2)

theorem idParts_product (product : RetainedProduct × Nat) :
    idParts (expectedProduct m product).rowId =
      idParts (monthId m.index) ++ ["s".toList ++ (toString product.2).toList] :=
  idParts_tag "s" (by decide) (colon_not_mem_position product.2)

theorem nodup_expectedReasons (member : MemberSource × Nat)
    (assessment : AssessmentSource × Nat) :
    (idsOf (expectedReasons m member assessment)).Nodup := by
  unfold idsOf expectedReasons
  rw [List.map_flatMap, List.nodup_flatMap]
  constructor
  · intro kind hkind
    apply nodup_zipIdx_map 4 []
    intro reason _
    rw [idParts_reason member assessment hkind, idParts_assessmentId, idParts_memberId,
      idParts_monthId]
    rfl
  · have hkinds : reasonKinds.Pairwise (· ≠ ·) := by decide
    refine hkinds.imp_of_mem fun {kind other} hkind hother hne => ?_
    intro id hid hid'
    obtain ⟨_, hsource, rfl⟩ := List.mem_map.mp hid
    obtain ⟨_, hsource', heq⟩ := List.mem_map.mp hid'
    obtain ⟨reason, -, rfl⟩ := List.mem_map.mp hsource
    obtain ⟨reason', -, rfl⟩ := List.mem_map.mp hsource'
    have hparts := congrArg idParts heq
    rw [idParts_reason member assessment hkind, idParts_reason member assessment hother,
      List.append_assoc, List.append_assoc, List.append_cancel_left_eq] at hparts
    exact hne (String.toList_inj.mp (List.head_eq_of_cons_eq hparts)).symm

theorem nodup_monthReasons : (idsOf (monthReasons m)).Nodup := by
  apply nodup_zipIdx 1 "p".toList
  · intro member _
    apply nodup_zipIdx 2 "a".toList
    · exact fun assessment _ => nodup_expectedReasons member assessment
    · intro assessment _ source hsource
      obtain ⟨kind, hkind, hsource⟩ := List.mem_flatMap.mp hsource
      obtain ⟨reason, -, rfl⟩ := List.mem_map.mp hsource
      rw [idParts_reason member assessment hkind, idParts_assessmentId, idParts_memberId,
        idParts_monthId]
      rfl
  · intro member _ source hsource
    obtain ⟨assessment, -, hsource⟩ := List.mem_flatMap.mp hsource
    obtain ⟨kind, hkind, hsource⟩ := List.mem_flatMap.mp hsource
    obtain ⟨reason, -, rfl⟩ := List.mem_map.mp hsource
    rw [idParts_reason member assessment hkind, idParts_assessmentId, idParts_memberId,
      idParts_monthId]
    rfl

/-- The rows of the decisions of both memberships have ids of their own. -/
theorem nodup_expectedHistory (h : m.source.Read) : (idsOf (expectedHistory m)).Nodup := by
  unfold expectedHistory
  split
  · exact List.nodup_singleton _
  · rename_i honly
    have hproducts := h.products honly
    have hmem : ∀ membership ∈ m.source.memberships, membership.1 ∈ membershipProducts :=
      fun membership hmembership => hproducts ▸ List.mem_map_of_mem hmembership
    unfold idsOf
    rw [List.map_flatMap, List.nodup_flatMap]
    constructor
    · intro membership hmembership
      apply nodup_zipIdx_map 2 "d".toList
      intro decision _
      rw [idParts_decision (hmem membership hmembership), idParts_monthId]
      rfl
    · have hdistinct : (m.source.memberships.map Prod.fst).Pairwise (· ≠ ·) := by
        rw [hproducts]
        decide
      rw [List.pairwise_map] at hdistinct
      refine hdistinct.imp_of_mem fun {membership other} hmembership hother hne => ?_
      intro id hid hid'
      obtain ⟨_, hsource, rfl⟩ := List.mem_map.mp hid
      obtain ⟨_, hsource', heq⟩ := List.mem_map.mp hid'
      obtain ⟨decision, -, rfl⟩ := List.mem_map.mp hsource
      obtain ⟨decision', -, rfl⟩ := List.mem_map.mp hsource'
      have hparts := congrArg idParts heq
      rw [idParts_decision (hmem _ hmembership), idParts_decision (hmem _ hother),
        List.append_assoc, List.append_assoc, List.append_cancel_left_eq] at hparts
      exact hne (String.toList_inj.mp (List.head_eq_of_cons_eq hparts)).symm

theorem nodup_expectedRowsOf (h : m.source.Read) (table : EligibilityTableId) :
    (idsOf (expectedRowsOf lib m table)).Nodup := by
  cases table with
  | summary => exact List.nodup_singleton _
  | methods => exact List.nodup_singleton _
  | disclosures => exact List.nodup_nil
  | members =>
      apply nodup_zipIdx_map 1 "p".toList
      intro member _
      show (idParts (memberId m member.2))[1]? = _
      rw [idParts_memberId, idParts_monthId]
      rfl
  | assessments =>
      apply nodup_zipIdx 1 "p".toList
      · intro member _
        apply nodup_zipIdx_map 2 "a".toList
        intro assessment _
        show (idParts (assessmentId m member assessment.2))[2]? = _
        rw [idParts_assessmentId, idParts_memberId, idParts_monthId]
        rfl
      · intro member _ source hsource
        obtain ⟨assessment, -, rfl⟩ := List.mem_map.mp hsource
        show (idParts (assessmentId m member assessment.2))[1]? = _
        rw [idParts_assessmentId, idParts_memberId, idParts_monthId]
        rfl
  | reasons =>
      show (idsOf (if monthReasons m = [] then [expectedNoReasons m] else monthReasons m)).Nodup
      split
      · exact List.nodup_singleton _
      · exact nodup_monthReasons
  | history => exact nodup_expectedHistory h
  | lineage =>
      apply nodup_zipIdx_map 1 "s".toList
      intro product _
      rw [idParts_product, idParts_monthId]
      rfl

theorem idParts_ending {ending : String} (h : ':' ∉ ending.toList) :
    idParts (monthId m.index ++ (":" ++ ending)) =
      idParts (monthId m.index) ++ [ending.toList] := by
  rw [← String.append_assoc, idParts_colon h]

/-- The ids of the rows of a month begin with the place of the month. -/
theorem idParts_expectedRowsOf (h : m.source.Read) (table : EligibilityTableId) :
    ∀ source ∈ expectedRowsOf lib m table,
      (idParts source.rowId)[0]? = some ("m".toList ++ (toString m.index).toList) := by
  intro source hsource
  cases table with
  | summary =>
      rw [List.mem_singleton.mp hsource]
      show (idParts (monthId m.index))[0]? = _
      rw [idParts_monthId]
      rfl
  | methods =>
      rw [List.mem_singleton.mp hsource]
      show (idParts (monthId m.index))[0]? = _
      rw [idParts_monthId]
      rfl
  | disclosures => cases hsource
  | members =>
      obtain ⟨member, -, rfl⟩ := List.mem_map.mp hsource
      show (idParts (memberId m member.2))[0]? = _
      rw [idParts_memberId, idParts_monthId]
      rfl
  | assessments =>
      obtain ⟨member, -, hsource⟩ := List.mem_flatMap.mp hsource
      obtain ⟨assessment, -, rfl⟩ := List.mem_map.mp hsource
      show (idParts (assessmentId m member assessment.2))[0]? = _
      rw [idParts_assessmentId, idParts_memberId, idParts_monthId]
      rfl
  | reasons =>
      have hmem : source ∈ if monthReasons m = [] then [expectedNoReasons m] else monthReasons m :=
        hsource
      split at hmem
      · rw [List.mem_singleton.mp hmem]
        show (idParts (monthId m.index ++ (":" ++ "not_applicable")))[0]? = _
        rw [idParts_ending (by decide), idParts_monthId]
        rfl
      · obtain ⟨member, -, hmem⟩ := List.mem_flatMap.mp hmem
        obtain ⟨assessment, -, hmem⟩ := List.mem_flatMap.mp hmem
        obtain ⟨kind, hkind, hmem⟩ := List.mem_flatMap.mp hmem
        obtain ⟨reason, -, rfl⟩ := List.mem_map.mp hmem
        rw [idParts_reason member assessment hkind, idParts_assessmentId, idParts_memberId,
          idParts_monthId]
        rfl
  | history =>
      have hmem : source ∈ expectedHistory m := hsource
      unfold expectedHistory at hmem
      split at hmem
      · rw [List.mem_singleton.mp hmem]
        show (idParts (monthId m.index ++ (":" ++ "unavailable")))[0]? = _
        rw [idParts_ending (by decide), idParts_monthId]
        rfl
      · rename_i honly
        obtain ⟨membership, hmembership, hmem⟩ := List.mem_flatMap.mp hmem
        obtain ⟨decision, -, rfl⟩ := List.mem_map.mp hmem
        have hproduct : membership.1 ∈ membershipProducts :=
          h.products honly ▸ List.mem_map_of_mem hmembership
        rw [idParts_decision hproduct, idParts_monthId]
        rfl
  | lineage =>
      obtain ⟨product, -, rfl⟩ := List.mem_map.mp hsource
      rw [idParts_product, idParts_monthId]
      rfl

theorem nodup_expectedRows {family : EligibilityFamily} {pins : List MonthPin}
    {sources : List MonthSource} (hread : ∀ s ∈ sources, s.Read) (table : EligibilityTableId) :
    (idsOf (expectedRows lib family (monthPlaces pins sources) table)).Nodup := by
  have hplace : ∀ place ∈ (pins.zip sources).zipIdx, place.1.2.Read := fun place hplace =>
    hread _ (List.of_mem_zip (List.fst_mem_of_mem_zipIdx hplace)).2
  have heach : ∀ place ∈ (pins.zip sources).zipIdx,
      (idsOf (expectedRowsOf lib ⟨place.2, place.1.1, place.1.2⟩ table)).Nodup :=
    fun place hmem => nodup_expectedRowsOf (hplace place hmem) table
  have hpart : ∀ place ∈ (pins.zip sources).zipIdx,
      ∀ source ∈ expectedRowsOf lib ⟨place.2, place.1.1, place.1.2⟩ table,
        (idParts source.rowId)[0]? = some ("m".toList ++ (toString place.2).toList) :=
    fun place hmem => idParts_expectedRowsOf (hplace place hmem) table
  have hmonths : (idsOf ((monthPlaces pins sources).flatMap fun m =>
      expectedRowsOf lib m table)).Nodup := by
    rw [monthPlaces, List.flatMap_map]
    exact nodup_zipIdx 0 "m".toList heach hpart
  unfold expectedRows
  split
  · rename_i hdisclosures
    subst hdisclosures
    have hnone : ((monthPlaces pins sources).flatMap fun m =>
        expectedRowsOf lib m .disclosures) = [] := List.flatMap_eq_nil_iff.mpr fun _ _ => rfl
    rw [hnone, List.nil_append]
    apply nodup_zipIdx_map 0 "d".toList
    intro item _
    show (idParts ("d" ++ toString item.2))[0]? = _
    rw [idParts_start (by decide)]
    rfl
  · rw [List.append_nil]
    exact hmonths

end Distinct

end LotusReport.Composite.Eligibility
