import LotusReport.Composite.Capture
import LotusReport.Composite.Eligibility.History

/-!
# The two verdicts on a membership document

A source context joins supplied memberships to its selection, and the monthly
admission joins them to a published month. Both check the hash that a document
states and the intervals of its decisions. The first leaves out the hash at the
top of the document and compares the ends of each interval; the second leaves
out the hashes at every depth and compares the intervals with one another.
-/

namespace LotusReport.Composite.Eligibility

open Encoding Fallible

section Verdicts

/-- The checks of `_require_intervals` on one decision. -/
def requireInterval (decision : Json) : Except CaptureError Unit := do
  let first ← dateAt decision "effective_from"
  match ← subscript decision "effective_to" with
    | .null => .ok ()
    | value =>
        refuseIf (do return (← dateOf value).before first)
          "COMPOSITE_MEMBERSHIP_INTERVAL_INVALID"

/-- `_require_intervals`. -/
def requireIntervals (membership : Json) : Except CaptureError Unit := do
  (← itemsOf (← subscript membership "decisions")).forM requireInterval

variable (lib : SourceLibrary)

/-- The checks of `_require_membership_capture` and `_require_intervals` on the document alone. -/
def contextVerdict (raw : Json) : Except CaptureError Unit := do
  lib.validate eligibilityMembership raw
  lib.requireHash false raw
  requireIntervals raw

/-- A membership document: a value that a program can hold, in the shape of one. -/
structure MembershipDocument where
  raw : Json
  wellFormed : raw.wellFormed = true
  shape : lib.validate eligibilityMembership raw = .ok ()

variable {lib}

/-- Both paths accept or refuse the document, its hash and its intervals alike. -/
structure OneVerdict (doc : MembershipDocument lib) : Prop where
  document : (eligibilityVerdict lib doc.raw).isOk = (contextVerdict lib doc.raw).isOk
  hash : (lib.requireHash true doc.raw).isOk = (lib.requireHash false doc.raw).isOk
  intervals : (requireHistory lib doc.raw).isOk = (requireIntervals doc.raw).isOk

end Verdicts

section Hashes

mutual

/-- Some part of the value states a hash. -/
def statesHash : Json → Bool
  | .arr items => statesHashItems items
  | .obj fields => statesHashFields fields
  | _ => false

def statesHashItems : List Json → Bool
  | [] => false
  | j :: items => statesHash j || statesHashItems items

def statesHashFields : Fields → Bool
  | [] => false
  | (name, j) :: fields => name == "content_hash" || statesHash j || statesHashFields fields

end

/-- Some part below the top of a document states a hash. -/
def hasNestedHash : Json → Bool
  | .obj fields => fields.any fun f => f.1 != "content_hash" && statesHash f.2
  | _ => false

/-- The content of a document that its hash is about. -/
def hashedContent (recursive : Bool) : Json → Json
  | .obj fields =>
      if recursive then withoutHashes (.obj fields)
      else .obj (fields.filter fun f => f.1 != "content_hash")
  | value => value

theorem statesHashItems_eq_false {items : List Json} :
    statesHashItems items = false ↔ ∀ j ∈ items, statesHash j = false := by
  induction items with
  | nil => simp [statesHashItems]
  | cons j items ih => rw [statesHashItems, Bool.or_eq_false_iff, ih, List.forall_mem_cons]

theorem statesHashFields_eq_false {fields : Fields} :
    statesHashFields fields = false ↔
      ∀ f ∈ fields, f.1 ≠ "content_hash" ∧ statesHash f.2 = false := by
  induction fields with
  | nil => simp [statesHashFields]
  | cons f fields ih =>
      obtain ⟨name, j⟩ := f
      rw [statesHashFields, Bool.or_eq_false_iff, Bool.or_eq_false_iff, ih, List.forall_mem_cons,
        beq_eq_false_iff_ne]

theorem hasNestedHash_eq_false {fields : Fields} :
    hasNestedHash (.obj fields) = false ↔
      ∀ f ∈ fields.filter fun f => f.1 != "content_hash", statesHash f.2 = false := by
  rw [hasNestedHash, List.any_eq_false]
  constructor
  · intro h f hf
    obtain ⟨hf, hname⟩ := List.mem_filter.mp hf
    have hnone := h f hf
    rw [hname, Bool.true_and, Bool.not_eq_true] at hnone
    exact hnone
  · intro h f hf hstates
    obtain ⟨hname, hstates⟩ := Bool.and_eq_true_iff.mp hstates
    rw [h f (List.mem_filter.mpr ⟨hf, hname⟩)] at hstates
    cases hstates

theorem withoutHashesFields_eq (fields : Fields) :
    withoutHashesFields fields =
      (fields.filter fun f => f.1 != "content_hash").map fun f => (f.1, withoutHashes f.2) := by
  induction fields with
  | nil => rfl
  | cons f fields ih =>
      obtain ⟨name, j⟩ := f
      rw [withoutHashesFields]
      by_cases hname : name = "content_hash"
      · rw [if_pos hname, List.filter_cons_of_neg (by simpa using hname), ih]
      · rw [if_neg hname, List.filter_cons_of_pos (by simpa using hname), List.map_cons, ih]

theorem withoutHashesItems_eq (items : List Json) :
    withoutHashesItems items = items.map withoutHashes := by
  induction items with
  | nil => rfl
  | cons j items ih => rw [withoutHashesItems, List.map_cons, ih]

theorem withoutHashes_of_none (j : Json) : statesHash j = false → withoutHashes j = j := by
  induction j using Json.ind with
  | hnull | hbool _ | hint _ | hfloat _ | hstr _ =>
      intro _
      rfl
  | harr items ih =>
      intro h
      rw [statesHash, statesHashItems_eq_false] at h
      rw [withoutHashes, withoutHashesItems_eq, Json.arr.injEq]
      exact (List.map_congr_left fun j hj => ih j hj (h j hj)).trans (List.map_id _)
  | hobj fields ih =>
      intro h
      rw [statesHash, statesHashFields_eq_false] at h
      have hkeep : (fields.filter fun f => f.1 != "content_hash") = fields := by
        apply List.filter_eq_self.mpr
        intro f hf
        simpa using (h f hf).1
      rw [withoutHashes, withoutHashesFields_eq, Json.obj.injEq, hkeep]
      have hsame : ∀ f ∈ fields, (f.1, withoutHashes f.2) = f := by
        intro f hf
        rw [ih f hf (h f hf).2]
      exact (List.map_congr_left hsame).trans (List.map_id _)

/-- A value from which hashes are left out agrees with the value only if it had none. -/
theorem statesHash_of_agrees (j : Json) : j.wellFormed = true →
    (withoutHashes j).agrees j = true → statesHash j = false := by
  induction j using Json.ind with
  | hnull | hbool _ | hint _ | hfloat _ | hstr _ =>
      intro _ _
      rfl
  | harr items ih =>
      intro hwf h
      rw [Json.wellFormed_arr] at hwf
      rw [statesHash]
      rw [withoutHashes, Json.agrees] at h
      induction items with
      | nil => rfl
      | cons j items ihItems =>
          rw [withoutHashesItems, Json.agreesItems, Bool.and_eq_true] at h
          rw [List.forall_mem_cons] at ih hwf
          rw [statesHashItems, Bool.or_eq_false_iff]
          exact ⟨ih.1 hwf.1 h.1, ihItems ih.2 hwf.2 h.2⟩
  | hobj fields ih =>
      intro hwf h
      rw [Json.wellFormed_obj] at hwf
      rw [statesHash, statesHashFields_eq_false]
      rw [withoutHashes, Json.agrees, Bool.and_eq_true, beq_iff_eq, Json.agreesFields_iff,
        withoutHashesFields_eq, List.length_map] at h
      have hall := List.filter_eq_self.mp (List.filter_sublist.eq_of_length h.1)
      intro f hf
      have hname : f.1 ≠ "content_hash" := by simpa using hall f hf
      obtain ⟨b, hb, hagrees⟩ := h.2 (f.1, withoutHashes f.2)
        (List.mem_map_of_mem (List.mem_filter.mpr ⟨hf, hall f hf⟩))
      have hsame : Json.lookup fields f.1 = some f.2 :=
        (lookup_eq_some_iff hwf.1).mpr hf
      cases hb.symm.trans hsame
      exact ⟨hname, ih f hf (hwf.2 f hf) hagrees⟩

theorem wellFormed_withoutHashes (j : Json) : j.wellFormed = true →
    (withoutHashes j).wellFormed = true := by
  induction j using Json.ind with
  | hnull | hbool _ | hint _ | hfloat _ | hstr _ => exact id
  | harr items ih =>
      rw [withoutHashes, withoutHashesItems_eq]
      simp only [Json.wellFormed_arr, List.forall_mem_map]
      intro h j hj
      exact ih j hj (h j hj)
  | hobj fields ih =>
      rw [withoutHashes, withoutHashesFields_eq]
      simp only [Json.wellFormed_obj, List.forall_mem_map]
      rintro ⟨hdistinct, hfields⟩
      constructor
      · have hnames := (List.filter_sublist (p := fun f => f.1 != "content_hash")
          (l := fields)).map Prod.fst
        rw [Distinct, List.map_map]
        exact hdistinct.sublist hnames
      · intro f hf
        exact ih f (List.mem_of_mem_filter hf) (hfields f (List.mem_of_mem_filter hf))

variable {lib : SourceLibrary} {fields : Fields}

theorem wellFormed_hashedContent (recursive : Bool) (h : (Json.obj fields).wellFormed = true) :
    (hashedContent recursive (.obj fields)).wellFormed = true := by
  cases recursive with
  | true => exact wellFormed_withoutHashes _ h
  | false =>
      rw [Json.wellFormed_obj] at h
      apply Json.wellFormed_obj.mpr
      constructor
      · exact h.1.sublist (List.filter_sublist.map Prod.fst)
      · intro f hf
        exact h.2 f (List.mem_of_mem_filter hf)

variable (lib) in
/-- The document states the hash of a content, which has no number that is not finite. -/
def StatesHashOf (raw content : Json) : Prop :=
  content.hasNonFinite = false ∧
    subscript raw "content_hash" = .ok (.str ("sha256:" ++ lib.runtime.digest content))

theorem sourceHash_obj (recursive : Bool) :
    lib.sourceHash recursive (.obj fields) = lib.contentHash (hashedContent recursive (.obj fields)) := by
  cases recursive <;> rfl

/-- `require_hash` accepts exactly the documents that state the hash of their content. -/
theorem requireHash_eq_ok {recursive : Bool} : lib.requireHash recursive (.obj fields) = .ok () ↔
    StatesHashOf lib (.obj fields) (hashedContent recursive (.obj fields)) := by
  rw [SourceLibrary.requireHash, refuseIf_eq_ok, sourceHash_obj, getItem]
  simp only [bind_eq_ok, pure, Except.pure, Except.ok.injEq, Bool.not_eq_false',
    SourceLibrary.contentHash, StatesHashOf, subscript_eq_ok]
  constructor
  · rintro ⟨stated, rfl, hash, hhash, heq⟩
    split at hhash
    · cases hhash
    · rename_i hfinite
      cases hhash
      refine ⟨Bool.not_eq_true _ ▸ hfinite, fields, rfl, ?_⟩
      have hstated := lib.eq_text.mp heq
      cases hlookup : Json.lookup fields "content_hash" with
      | none =>
          rw [hlookup] at hstated
          cases hstated
      | some value =>
          rw [hlookup] at hstated
          exact congrArg some hstated
  · rintro ⟨hfinite, _, heq, hlookup⟩
    cases heq
    refine ⟨_, rfl, _, if_neg (by rw [hfinite]; decide), ?_⟩
    rw [hlookup]
    exact lib.eq_text.mpr rfl

theorem hashedContent_eq (h : hasNestedHash (.obj fields) = false) :
    hashedContent true (.obj fields) = hashedContent false (.obj fields) := by
  rw [hasNestedHash_eq_false] at h
  simp only [hashedContent, Bool.false_eq_true, if_false, if_true, withoutHashes,
    withoutHashesFields_eq, Json.obj.injEq]
  have hsame : ∀ f ∈ fields.filter fun f => f.1 != "content_hash",
      (f.1, withoutHashes f.2) = f := by
    intro f hf
    rw [withoutHashes_of_none f.2 (h f hf)]
  exact (List.map_congr_left hsame).trans (List.map_id _)

theorem hasNestedHash_of_both (hsha : Function.Injective lib.runtime.sha256)
    (hwf : (Json.obj fields).wellFormed = true)
    (htrue : StatesHashOf lib (.obj fields) (hashedContent true (.obj fields)))
    (hfalse : StatesHashOf lib (.obj fields) (hashedContent false (.obj fields))) :
    hasNestedHash (.obj fields) = false := by
  have hdigest : lib.runtime.digest (hashedContent true (.obj fields)) =
      lib.runtime.digest (hashedContent false (.obj fields)) := by
    have heq := htrue.2.symm.trans hfalse.2
    rw [Except.ok.injEq, Json.str.injEq] at heq
    exact String.append_right_inj _ |>.mp heq
  have hagrees := (Json.canonicalJson_eq_iff (wellFormed_hashedContent true hwf)
    (wellFormed_hashedContent false hwf)).mp (hsha hdigest)
  simp only [hashedContent, Bool.false_eq_true, if_false, if_true, withoutHashes,
    withoutHashesFields_eq, Json.agrees, Bool.and_eq_true, Json.agreesFields_iff,
    List.forall_mem_map] at hagrees
  rw [Json.wellFormed_obj] at hwf
  rw [hasNestedHash_eq_false]
  intro f hf
  obtain ⟨b, hb, hsame⟩ := hagrees.2 f hf
  have hdistinct : Distinct (fields.filter fun f => f.1 != "content_hash") :=
    hwf.1.sublist (List.filter_sublist.map Prod.fst)
  cases hb.symm.trans ((lookup_eq_some_iff hdistinct).mpr hf)
  exact statesHash_of_agrees f.2 (hwf.2 f (List.mem_of_mem_filter hf)) hsame

end Hashes

section Intervals

variable {lib : SourceLibrary}

theorem decisions_of_shape {raw : Json} (h : lib.validate eligibilityMembership raw = .ok ()) :
    ∃ decisions, subscript raw "decisions" = .ok (.arr decisions) ∧
      ∀ decision ∈ decisions, ∃ portfolio, subscript decision "portfolio_id" = .ok (.str portfolio) := by
  rw [lib.validate_eq_ok] at h
  obtain ⟨value, hvalue, hlist⟩ := subscript_of_accepts h
    (show ("decisions", true, Schema.list 1 none membershipDecision) ∈ _ by simp [field])
  cases value with
  | arr decisions =>
      refine ⟨decisions, hvalue, ?_⟩
      intro decision hdecision
      simp only [Schema.accepts, Bool.and_eq_true, List.all_eq_true] at hlist
      obtain ⟨portfolio, hportfolio, htext⟩ := subscript_of_accepts (hlist.2 decision hdecision)
        (show ("portfolio_id", true, identifier) ∈ _ by simp [field])
      obtain ⟨text, rfl⟩ := Schema.accepts_text htext
      exact ⟨text, hportfolio⟩
  | _ => simp [Schema.accepts] at hlist

/-- The source context accepts the decisions whose intervals are upright. -/
theorem requireInterval_eq_ok {decision portfolio : Json}
    (hportfolio : subscript decision "portfolio_id" = .ok portfolio) :
    requireInterval decision = .ok () ↔ ∃ i, historyInterval decision = .ok i ∧ i.Upright := by
  have hends : ∀ first value, dateAt decision "effective_from" = .ok first →
      ((match value with
        | .null => .ok ()
        | value => refuseIf (do return (← dateOf value).before first)
            "COMPOSITE_MEMBERSHIP_INTERVAL_INVALID" : Except CaptureError Unit) = .ok () ↔
        ∃ last, endOf value = .ok last ∧ last.before first = false) := by
    intro first value hfirst
    obtain ⟨text, -, hdate⟩ := bind_eq_ok.mp hfirst
    cases value with
    | null =>
        apply iff_of_true rfl
        exact ⟨lastDate, rfl, not_lastDate_before (valid_of_dateOf hdate)⟩
    | _ =>
        simp only [refuseIf_eq_ok, bind_eq_ok, pure, Except.pure, Except.ok.injEq, endOf]
  rw [requireInterval]
  simp only [bind_eq_ok]
  constructor
  · rintro ⟨first, hfirst, value, hvalue, h⟩
    obtain ⟨last, hlast, hupright⟩ := (hends first value hfirst).mp h
    refine ⟨⟨portfolio, first, last⟩, ?_, hupright⟩
    exact historyInterval_eq_ok.mpr ⟨hfirst, ⟨value, hvalue, hlast⟩, hportfolio⟩
  · rintro ⟨i, hi, hupright⟩
    obtain ⟨hfirst, ⟨value, hvalue, hlast⟩, -⟩ := historyInterval_eq_ok.mp hi
    refine ⟨i.first, hfirst, value, hvalue, ?_⟩
    exact (hends i.first value hfirst).mpr ⟨i.last, hlast, hupright⟩

/-- The intervals of a membership are read, and none ends before it begins. -/
def ReadsUpright (raw : Json) (intervals : List HistoryInterval) : Prop :=
  ∃ decisions, subscript raw "decisions" = .ok (.arr decisions) ∧
    decisions.mapM historyInterval = .ok intervals ∧ ∀ i ∈ intervals, i.Upright

theorem requireIntervals_eq_ok {raw : Json} (h : lib.validate eligibilityMembership raw = .ok ()) :
    requireIntervals raw = .ok () ↔ ∃ intervals, ReadsUpright raw intervals := by
  obtain ⟨decisions, hdecisions, hportfolios⟩ := decisions_of_shape h
  have hloop : decisions.forM requireInterval = .ok () ↔
      ∃ intervals, decisions.mapM historyInterval = .ok intervals ∧ ∀ i ∈ intervals, i.Upright := by
    rw [forM_eq_ok]
    constructor
    · intro hall
      have hread : ∀ decision ∈ decisions, ∃ i, historyInterval decision = .ok i := by
        intro decision hdecision
        obtain ⟨portfolio, hportfolio⟩ := hportfolios decision hdecision
        obtain ⟨i, hi, -⟩ := (requireInterval_eq_ok hportfolio).mp (hall decision hdecision)
        exact ⟨i, hi⟩
      obtain ⟨intervals, hintervals⟩ := exists_mapM_eq historyInterval hread
      refine ⟨intervals, hintervals, ?_⟩
      intro i hi
      obtain ⟨decision, hdecision, hi⟩ := exists_of_mem_mapM hintervals hi
      obtain ⟨portfolio, hportfolio⟩ := hportfolios decision hdecision
      obtain ⟨j, hj, hupright⟩ := (requireInterval_eq_ok hportfolio).mp (hall decision hdecision)
      cases hi.symm.trans hj
      exact hupright
    · rintro ⟨intervals, hintervals, hupright⟩ decision hdecision
      obtain ⟨portfolio, hportfolio⟩ := hportfolios decision hdecision
      obtain ⟨i, hi, hconvert⟩ := converts_of_mapM hintervals hdecision
      exact (requireInterval_eq_ok hportfolio).mpr ⟨i, hconvert, hupright i hi⟩
  rw [requireIntervals, hdecisions]
  exact hloop.trans ⟨fun ⟨intervals, hread⟩ => ⟨intervals, decisions, hdecisions, hread⟩,
    fun ⟨intervals, decisions', hdecisions', hread⟩ => by
      cases hdecisions.symm.trans hdecisions'
      exact ⟨intervals, hread⟩⟩

/-- The monthly admission accepts them when no two of one portfolio meet, besides. -/
theorem requireHistory_eq_ok {raw : Json} (h : lib.validate eligibilityMembership raw = .ok ()) :
    requireHistory lib raw = .ok () ↔
      ∃ intervals, ReadsUpright raw intervals ∧ intervals.Pairwise (ApartFor lib) := by
  obtain ⟨decisions, hdecisions, -⟩ := decisions_of_shape h
  rw [requireHistory, hdecisions]
  constructor
  · intro hhistory
    obtain ⟨intervals, hintervals, hupright, hpair⟩ := requireHistoryIntervals_eq_ok.mp hhistory
    exact ⟨intervals, ⟨decisions, hdecisions, hintervals, hupright⟩, hpair⟩
  · rintro ⟨intervals, ⟨decisions', hdecisions', hintervals, hupright⟩, hpair⟩
    cases hdecisions.symm.trans hdecisions'
    exact requireHistoryIntervals_eq_ok.mpr ⟨intervals, hintervals, hupright, hpair⟩

end Intervals

section Agreement

variable {lib : SourceLibrary}

/-- No part below the top of the document states a hash, or the hash that the document states is
that of neither content. -/
def HashReadOnce (lib : SourceLibrary) (raw : Json) : Prop :=
  hasNestedHash raw = false ∨
    ¬StatesHashOf lib raw (hashedContent true raw) ∧ ¬StatesHashOf lib raw (hashedContent false raw)

/-- No two intervals of one portfolio meet, unless one is not read or ends before it begins. -/
def Unshared (lib : SourceLibrary) (raw : Json) : Prop :=
  ∀ intervals, ReadsUpright raw intervals → intervals.Pairwise (ApartFor lib)

theorem isOk_eq_iff {x y : Except CaptureError Unit} :
    x.isOk = y.isOk ↔ (x = .ok () ↔ y = .ok ()) := by
  cases x <;> cases y <;> simp [Except.isOk, Except.toBool]

theorem hash_agrees_iff (hsha : Function.Injective lib.runtime.sha256) (doc : MembershipDocument lib) :
    (lib.requireHash true doc.raw).isOk = (lib.requireHash false doc.raw).isOk ↔
      HashReadOnce lib doc.raw := by
  obtain ⟨raw, hwf, hshape⟩ := doc
  obtain ⟨fields, rfl, -⟩ := Schema.accepts_object ((lib.validate_eq_ok).mp hshape)
  rw [isOk_eq_iff, requireHash_eq_ok, requireHash_eq_ok, HashReadOnce]
  dsimp only
  constructor
  · intro hiff
    by_cases htrue : StatesHashOf lib (.obj fields) (hashedContent true (.obj fields))
    · left
      exact hasNestedHash_of_both hsha hwf htrue (hiff.mp htrue)
    · right
      exact ⟨htrue, fun hfalse => htrue (hiff.mpr hfalse)⟩
  · rintro (hnone | ⟨htrue, hfalse⟩)
    · rw [hashedContent_eq hnone]
    · exact iff_of_false htrue hfalse

theorem intervals_agree_iff (doc : MembershipDocument lib) :
    (requireHistory lib doc.raw).isOk = (requireIntervals doc.raw).isOk ↔ Unshared lib doc.raw := by
  rw [isOk_eq_iff, requireHistory_eq_ok doc.shape, requireIntervals_eq_ok doc.shape, Unshared]
  constructor
  · intro hiff intervals hread
    obtain ⟨intervals', ⟨decisions', hdecisions', hread', -⟩, hpair⟩ := hiff.mpr ⟨intervals, hread⟩
    obtain ⟨decisions, hdecisions, hread, -⟩ := hread
    cases hdecisions.symm.trans hdecisions'
    cases hread.symm.trans hread'
    exact hpair
  · intro hunshared
    constructor
    · rintro ⟨intervals, hread, -⟩
      exact ⟨intervals, hread⟩
    · rintro ⟨intervals, hread⟩
      exact ⟨intervals, hread, hunshared intervals hread⟩

/-- The two paths give a membership document one verdict exactly when no part of it states a
hash that only one of them leaves out, and no two of its intervals share a day of one portfolio. -/
theorem oneVerdict_iff (hsha : Function.Injective lib.runtime.sha256)
    (doc : MembershipDocument lib) :
    OneVerdict doc ↔ HashReadOnce lib doc.raw ∧ Unshared lib doc.raw := by
  rw [← hash_agrees_iff hsha doc, ← intervals_agree_iff doc]
  constructor
  · intro h
    exact ⟨h.hash, h.intervals⟩
  · rintro ⟨hhash, hintervals⟩
    refine ⟨?_, hhash, hintervals⟩
    rw [isOk_eq_iff] at hhash hintervals ⊢
    simp only [eligibilityVerdict, contextVerdict, bind_eq_ok, doc.shape]
    constructor
    · rintro ⟨_, hhash', _, -, hintervals'⟩
      exact ⟨(), trivial, (), hhash.mp hhash', hintervals.mp hintervals'⟩
    · rintro ⟨_, -, _, hhash', hintervals'⟩
      exact ⟨(), hhash.mpr hhash', (), trivial, hintervals.mpr hintervals'⟩

end Agreement

section Sample

/-- The decision to include a portfolio between two dates. -/
def sampleDecision (first last : String) : Json := .obj
  [ ("portfolio_id", .str "p"), ("effective_from", .str first), ("effective_to", .str last),
    ("status", .str "INCLUDED"), ("reason_code", .null), ("discretionary", .bool true),
    ("approval_ref", .null), ("source_snapshot_id", .str "s") ]

/-- A membership with two decisions, without its hash. -/
def sampleMembership (decisions : List Json) : Fields :=
  [ ("product_name", .str "CompositeMembership"), ("product_version", .str "v1"),
    ("tenant_id", .str "t"), ("composite_id", .str "c"), ("definition_version", .str "d"),
    ("membership_revision", .str "m"), ("policy_version", .str "y"),
    ("source_cut_id", .str "cut"), ("decisions", .arr decisions),
    ("decided_at", .str "2026-02-02"), ("decided_by", .str "u"), ("correlation_id", .str "x"),
    ("supersedes_membership_revision", .null), ("affected_from", .null), ("affected_to", .null) ]

/-- A platform whose digest exchanges the text of one content with a digest. -/
def exchangingLibrary (content : Json) : SourceLibrary where
  runtime := ⟨Equiv.swap (Json.canonicalJson content) (String.ofList (List.replicate 64 'a')),
    fun _ => true⟩
  coercions := Coercions.standard
  floatValue := fun _ => .nan
  isDecimal := fun _ => false
  datetime := fun _ => none
  parseInt := fun _ => none
  yearMonth := fun _ => ""
  base64 := fun _ => none
  sha256Bytes := fun _ => ""
  conforms := fun _ _ _ => false

theorem exchangingLibrary_injective (content : Json) :
    Function.Injective (exchangingLibrary content).runtime.sha256 :=
  Equiv.injective _

/-- The membership with its hash. -/
def hashedMembership (decisions : List Json) : Json :=
  .obj (sampleMembership decisions ++ [("content_hash", .str (repeatedDigest 'a'))])

/-- January and February. -/
def successiveDecisions : List Json :=
  [sampleDecision "2026-01-01" "2026-01-31", sampleDecision "2026-02-01" "2026-02-28"]

/-- January, and from its last day to the end of February. -/
def overlappingDecisions : List Json :=
  [sampleDecision "2026-01-01" "2026-01-31", sampleDecision "2026-01-31" "2026-02-28"]

def successiveLibrary : SourceLibrary :=
  exchangingLibrary (.obj (sampleMembership successiveDecisions))

def overlappingLibrary : SourceLibrary :=
  exchangingLibrary (.obj (sampleMembership overlappingDecisions))

def successiveDocument : MembershipDocument successiveLibrary where
  raw := hashedMembership successiveDecisions
  wellFormed := by decide +kernel
  shape := (SourceLibrary.validate_eq_ok _).mpr (by decide +kernel)

def overlappingDocument : MembershipDocument overlappingLibrary where
  raw := hashedMembership overlappingDecisions
  wellFormed := by decide +kernel
  shape := (SourceLibrary.validate_eq_ok _).mpr (by decide +kernel)

theorem not_stated_sampleMembership (decisions : List Json) :
    "content_hash" ∉ (sampleMembership decisions).map Prod.fst := by
  have hnames : (sampleMembership decisions).map Prod.fst =
    (sampleMembership []).map Prod.fst := rfl
  rw [hnames]
  decide +kernel

theorem hashedContent_hashedMembership (decisions : List Json) :
    hashedContent false (hashedMembership decisions) = .obj (sampleMembership decisions) := by
  have hall : (sampleMembership decisions).filter (fun f => f.1 != "content_hash") =
      sampleMembership decisions := by
    rw [List.filter_eq_self]
    intro f hf
    rw [bne_iff_ne]
    intro hname
    exact not_stated_sampleMembership decisions (hname ▸ List.mem_map_of_mem hf)
  change Json.obj (List.filter _ (sampleMembership decisions ++ [_])) = _
  rw [List.filter_append, hall]
  simp

theorem requireHash_hashedMembership {decisions : List Json}
    (h : (Json.obj (sampleMembership decisions)).hasNonFinite = false) :
    (exchangingLibrary (.obj (sampleMembership decisions))).requireHash false
      (hashedMembership decisions) = .ok () := by
  apply requireHash_eq_ok.mpr
  rw [← hashedMembership, hashedContent_hashedMembership]
  refine ⟨h, ?_⟩
  rw [Runtime.digest, exchangingLibrary]
  dsimp only
  rw [Equiv.swap_apply_left]
  simp [subscript_eq_ok, hashedMembership, sampleMembership, repeatedDigest]

theorem contextVerdict_isOk {lib : SourceLibrary} {doc : MembershipDocument lib}
    (hhash : lib.requireHash false doc.raw = .ok ())
    (hintervals : (requireIntervals doc.raw).isOk = true) :
    (contextVerdict lib doc.raw).isOk = true := by
  rw [contextVerdict, doc.shape, hhash]
  exact hintervals

theorem eligibilityVerdict_refused {lib : SourceLibrary} {raw : Json}
    (h : (requireHistory lib raw).isOk = false) : (eligibilityVerdict lib raw).isOk = false := by
  rw [eligibilityVerdict]
  cases lib.requireHash true raw with
  | error e => rfl
  | ok _ =>
      cases lib.validate eligibilityMembership raw with
      | error e => rfl
      | ok _ => exact h

/-- Both paths accept the decisions on successive months. -/
theorem oneVerdict_successive : OneVerdict successiveDocument ∧
    (contextVerdict successiveLibrary successiveDocument.raw).isOk = true := by
  constructor
  · apply (oneVerdict_iff (exchangingLibrary_injective _) successiveDocument).mpr
    constructor
    · left
      decide +kernel
    · exact (intervals_agree_iff successiveDocument).mp (by decide +kernel)
  · exact contextVerdict_isOk (requireHash_hashedMembership (by decide +kernel)) (by decide +kernel)

/-- The source context accepts overlapping decisions, which the monthly admission refuses. -/
theorem not_oneVerdict_overlapping : ¬OneVerdict overlappingDocument ∧
    (contextVerdict overlappingLibrary overlappingDocument.raw).isOk = true ∧
    (eligibilityVerdict overlappingLibrary overlappingDocument.raw).isOk = false := by
  have hcontext : (contextVerdict overlappingLibrary overlappingDocument.raw).isOk = true :=
    contextVerdict_isOk (requireHash_hashedMembership (by decide +kernel)) (by decide +kernel)
  have heligibility :
      (eligibilityVerdict overlappingLibrary overlappingDocument.raw).isOk = false :=
    eligibilityVerdict_refused (by decide +kernel)
  refine ⟨?_, hcontext, heligibility⟩
  intro h
  have hsame := h.document
  rw [hcontext, heligibility] at hsame
  cases hsame

end Sample

end LotusReport.Composite.Eligibility
