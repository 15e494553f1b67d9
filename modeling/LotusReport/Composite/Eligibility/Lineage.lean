import LotusReport.Composite.Eligibility.Corrections
import LotusReport.Lineage.Chain

/-!
# Correction lineages are chains

The walks over the receipts of a corrected month check one link at a time.
Over a whole walk these checks leave one chain: from the proposal of the
month to a single original publication, with distinct revisions, decreasing
publication sequences and agreement on the month, the policy and the
population.
-/

namespace LotusReport.Composite.Eligibility

open Encoding Fallible

/-- A monthly evaluation, with its receipt where it has one. -/
structure Evaluation where
  proposal : Json
  receipt : Option Json
  retained : ∀ r ∈ receipt, readAt r ["approval", "proposal"] = .ok proposal

section Statements

variable (lib : SourceLibrary)

/-- `evaluation_revision`. -/
def Evaluation.revision (e : Evaluation) : Except CaptureError Json :=
  subscript e.proposal "evaluation_revision"

/-- The proposal and the receipt of an evaluation have a version. -/
def Evaluation.HasVersion (e : Evaluation) (version : String) : Prop :=
  subscript e.proposal "product_version" = .ok (.str version) ∧
    ∀ r ∈ e.receipt, subscript r "product_version" = .ok (.str version)

/-- A field of the claim of a correction. -/
def claimed (proposal : Json) (name : String) : Except CaptureError Json :=
  readAt proposal ["amendment", name]

/-- The bindings, the publication and the scope of a correction are those of the receipt before
it. -/
structure Linked (original proposal receipt : Json) : Prop where
  approval : lib.same (claimed proposal "predecessor_approval_binding")
    (do approvalBinding (← subscript receipt "approval")) = .ok true
  authority : lib.same (claimed proposal "expected_authority_binding")
    (claimed proposal "predecessor_approval_binding") = .ok true
  receiptHash : lib.same (claimed proposal "predecessor_receipt_binding")
    (receiptBinding receipt) = .ok true
  originalApproval : lib.same (claimed proposal "original_approval_binding")
    (do approvalBinding (← subscript original "approval")) = .ok true
  membership : lib.same (claimed proposal "projection_parent_membership_binding")
    (subscript receipt "membership_binding") = .ok true
  sequence : lib.same (claimed proposal "expected_current_publication_sequence")
    (subscript receipt "publication_sequence") = .ok true
  month : lib.same (readAt proposal ["evaluation", "month"])
    (readAt receipt ["approval", "proposal", "evaluation", "month"]) = .ok true
  policy : lib.same (readAt proposal ["policy_approval"])
    (readAt receipt ["approval", "proposal", "policy_approval"]) = .ok true
  population : lib.same (readAt proposal ["universe", "expected_portfolio_ids"])
    (readAt receipt ["approval", "proposal", "universe", "expected_portfolio_ids"]) = .ok true
  notBefore : ∃ proposedAt approvedAt,
    (do lib.datetimeOf (← subscript proposal "proposed_at")) = .ok proposedAt ∧
    (do lib.datetimeOf (← readAt receipt ["approval", "approved_at"])) = .ok approvedAt ∧
    proposedAt.aware = approvedAt.aware ∧ approvedAt.microseconds ≤ proposedAt.microseconds

/-- A correction names the receipt of another evaluation as its predecessor. -/
def Names (correction : String) (a b : Evaluation) : Prop :=
  subscript a.proposal "product_version" = .ok (.str correction) ∧
    ∃ r ∈ b.receipt,
      lib.same (claimed a.proposal "predecessor_receipt_binding") (receiptBinding r) = .ok true

/-- The first receipt was published after the second. -/
def PublishedAfter (a b : Json) : Prop :=
  (do lib.greater (← subscript a "publication_sequence") (← subscript b "publication_sequence")) =
    .ok true

/-- Two evaluations agree on what they read at a place. -/
def AgreeAt (path : List String) (a b : Evaluation) : Prop :=
  lib.same (readAt a.proposal path) (readAt b.proposal path) = .ok true

/-- The receipt of the evaluation that a month is about. -/
def headReceipt (month : Json) : Except CaptureError (Option Json) := do
  if lib.eq (← subscript month "evidence_kind") (.str "PUBLISHED") then
    (subscript month "receipt").map some
  else return none

/-- The evaluations of a corrected month, from the one it is about to its original. -/
structure LineageOf (month : Json) (evaluations : List Evaluation) : Prop where
  head : ∃ e ∈ evaluations.head?, proposalForMonth lib month = .ok e.proposal ∧
    headReceipt lib month = .ok e.receipt
  receipts : ∃ receipts, (do itemsOf (← subscript month "lineage_receipts")) = .ok receipts ∧
    evaluations.tail.map (·.receipt) = receipts.map some

/-- Evaluations that form one chain of corrections down to a single original. -/
structure CorrectionLineage (correction root : String) (evaluations : List Evaluation) :
    Prop where
  /-- Every evaluation but the last is a correction, and there is one; the last is the original. -/
  original : ∃ corrections original receipt, evaluations = corrections ++ [original] ∧
    corrections ≠ [] ∧ (∀ e ∈ corrections, e.HasVersion correction) ∧ original.HasVersion root ∧
    original.receipt = some receipt ∧
    evaluations.IsChain fun a b => ∃ r ∈ b.receipt, Linked lib receipt a.proposal r
  names_iff : ∀ i j, ∀ hi : i < evaluations.length, ∀ hj : j < evaluations.length,
    Names lib correction evaluations[i] evaluations[j] ↔ j = i + 1
  acyclic : ∀ e ∈ evaluations,
    ¬Relation.TransGen (Lineage.Within (Names lib correction) evaluations) e e
  reaches : ∀ e ∈ evaluations, ∀ original ∈ evaluations.getLast?,
    Relation.ReflTransGen (Lineage.Within (Names lib correction) evaluations) e original
  revisions : (evaluations.map Evaluation.revision).Nodup ∧
    ∀ e ∈ evaluations, ∃ revision, e.revision = .ok revision
  month : evaluations.Pairwise (AgreeAt lib ["evaluation", "month"])
  policy : evaluations.Pairwise (AgreeAt lib ["policy_approval"])
  population : evaluations.Pairwise (AgreeAt lib ["universe", "expected_portfolio_ids"])
  sequence : evaluations.Pairwise fun a b =>
    ∀ ra ∈ a.receipt, ∀ rb ∈ b.receipt, PublishedAfter lib ra rb

end Statements

section Link

variable {lib : SourceLibrary}

theorem refuse_eq_ok {condition : Except CaptureError Bool} {code : String} {u : Unit} :
    refuse condition code = .ok u ↔ condition = .ok false := refuseIf_eq_ok

theorem require_eq_ok {condition : Except CaptureError Bool} {u : Unit} :
    require condition = .ok u ↔ condition = .ok true := by
  unfold require
  rw [refuseIf_eq_ok, negated_eq_ok]
  rfl

theorem claimed_eq {proposal claim : Json} (h : subscript proposal "amendment" = .ok claim)
    (name : String) : claimed proposal name = subscript claim name := by
  unfold claimed
  rw [readAt_of_subscript h, readAt_singleton]

/-- A window check compares the months of a correction and its predecessor. -/
theorem requireWindow_month {proposal claim prior : Json} {u : Unit}
    (h : requireWindow lib proposal claim prior = .ok u) :
    lib.same (readAt proposal ["evaluation", "month"]) (readAt prior ["evaluation", "month"]) =
      .ok true := by
  simp only [requireWindow, bind_eq_ok, refuse_eq_ok, firstTrue_eq_false,
    List.forall_mem_cons, SourceLibrary.differ_eq_false] at h
  obtain ⟨month, hmonth, text, htext, -, -, -, hprior, -⟩ := h
  cases month with
  | str month =>
      rw [hmonth, (lib.same_text).mp hprior]
      exact (lib.same_text).mpr rfl
  | _ => cases htext

theorem clockConflict_eq_false {proposal receipt : Json}
    (h : clockConflict lib proposal receipt = .ok false) : ∃ proposedAt approvedAt,
      (do lib.datetimeOf (← subscript proposal "proposed_at")) = .ok proposedAt ∧
      (do lib.datetimeOf (← readAt receipt ["approval", "approved_at"])) = .ok approvedAt ∧
      proposedAt.aware = approvedAt.aware ∧
      approvedAt.microseconds ≤ proposedAt.microseconds := by
  simp only [clockConflict, bind_eq_ok] at h
  obtain ⟨stated, hstated, proposedAt, hproposed, recorded, hrecorded, approvedAt, happroved,
    hbefore⟩ := h
  refine ⟨proposedAt, approvedAt, ?_, ?_, ?_⟩
  · exact bind_eq_ok.mpr ⟨stated, hstated, hproposed⟩
  · exact bind_eq_ok.mpr ⟨recorded, hrecorded, happroved⟩
  · unfold PyDatetime.before at hbefore
    split at hbefore
    · rename_i haware
      exact ⟨haware, by simpa using hbefore⟩
    · cases hbefore

theorem requireLink_linked {proposal receipt original : Json} {version : String} {u : Unit}
    (h : requireLink lib proposal receipt original version = .ok u) :
    Linked lib original proposal receipt := by
  simp only [requireLink, bind_eq_ok, refuse_eq_ok] at h
  obtain ⟨_, -, claim, hclaim, prior, hprior, _, hauthority, _, -, _, hwindow, _, -, _, hcascade,
    _, -, _, hsource, hclock⟩ := h
  simp only [authorityConflict, firstTrue_eq_false, List.forall_mem_cons,
    SourceLibrary.differ_eq_false, ← claimed_eq hclaim] at hauthority
  simp only [cascadeConflict, firstTrue_eq_false, List.forall_mem_cons,
    SourceLibrary.differ_eq_false, ← claimed_eq hclaim] at hcascade
  simp only [requireSourceCorrection, bind_eq_ok, refuse_eq_ok,
    SourceLibrary.differ_eq_false] at hsource
  obtain ⟨_, hpolicy, _, hpopulation, -⟩ := hsource
  have hread : ∀ path, readAt receipt ("approval" :: "proposal" :: path) = readAt prior path :=
    fun path => readAt_append_of_ok hprior
  constructor
  · exact hauthority.1
  · exact hauthority.2.1
  · exact hauthority.2.2.1
  · exact hauthority.2.2.2.1
  · exact hcascade.1
  · exact hcascade.2.1
  · rw [hread]
    exact requireWindow_month hwindow
  · rw [hread, readAt_singleton, readAt_singleton]
    exact hpolicy
  · rw [hread]
    exact hpopulation
  · exact clockConflict_eq_false hclock

end Link

section Walk

variable (lib : SourceLibrary) (correction root : String)

/-- The receipt was published after the publication that its correction expected. -/
def Supersedes (receipt proposal : Json) : Prop :=
  (do lib.greater (← subscript receipt "publication_sequence")
        (← claimed proposal "expected_current_publication_sequence")) = .ok true

/-- A receipt has the version of its proposal, and supersedes another publication where that is
the version of corrections. -/
def Versioned (e : Evaluation) : Prop :=
  ∀ r ∈ e.receipt, ∃ version, e.HasVersion version ∧
    (version = correction → Supersedes lib r e.proposal)

/-- One step of a walk: a correction, linked to the receipt of the next evaluation. -/
def CorrectionStep (original : Json) (a b : Evaluation) : Prop :=
  subscript a.proposal "product_version" = .ok (.str correction) ∧
    ∃ r ∈ b.receipt, Linked lib original a.proposal r

variable {lib correction root} {original : Json} {a b : Evaluation}

theorem Evaluation.HasVersion.unique {e : Evaluation} {version : String}
    (h : e.HasVersion version)
    (hproposal : subscript e.proposal "product_version" = .ok (.str correction)) :
    version = correction := by
  have hsame := h.1.symm.trans hproposal
  simpa using hsame

theorem Versioned.hasVersion (h : Versioned lib correction a)
    (hstep : CorrectionStep lib correction original a b) :
    a.HasVersion correction ∧ ∀ r ∈ a.receipt, Supersedes lib r a.proposal := by
  have hreceipt : ∀ r ∈ a.receipt, a.HasVersion correction ∧ Supersedes lib r a.proposal := by
    intro r hr
    obtain ⟨version, hversion, hsupersedes⟩ := h r hr
    cases hversion.unique hstep.1
    exact ⟨hversion, hsupersedes rfl⟩
  constructor
  · refine ⟨hstep.1, fun r hr => ?_⟩
    exact (hreceipt r hr).1.2 r hr
  · exact fun r hr => (hreceipt r hr).2

theorem receiptBinding_revision {receipt binding : Json} (h : receiptBinding receipt = .ok binding) :
    ∃ fields revision, binding = .obj fields ∧ Json.lookup fields "revision" = some revision ∧
      readAt receipt ["approval", "proposal", "evaluation_revision"] = .ok revision := by
  simp only [receiptBinding, bind_eq_ok] at h
  obtain ⟨version, -, revision, hrevision, digest, -, hbinding⟩ := h
  cases hbinding
  exact ⟨_, revision, rfl, rfl, hrevision⟩

theorem Evaluation.revision_eq {e : Evaluation} {receipt : Json} (h : receipt ∈ e.receipt) :
    readAt receipt ["approval", "proposal", "evaluation_revision"] = e.revision := by
  have hread := e.retained receipt h
  exact (readAt_append_of_ok hread).trans readAt_singleton

theorem Names.revision {e : Evaluation} {text : String} (hab : Names lib correction a b)
    (hac : Names lib correction a e) (htext : b.revision = .ok (.str text)) :
    e.revision = b.revision := by
  obtain ⟨-, rb, hrb, hsameb⟩ := hab
  obtain ⟨-, re, hre, hsamee⟩ := hac
  obtain ⟨claim, bindingb, hclaim, hbindingb, heqb⟩ := (lib.same_eq_true).mp hsameb
  obtain ⟨claim', bindinge, hclaim', hbindinge, heqe⟩ := (lib.same_eq_true).mp hsamee
  cases hclaim.symm.trans hclaim'
  obtain ⟨fieldsb, revb, rfl, hlookupb, hreadb⟩ := receiptBinding_revision hbindingb
  obtain ⟨fieldse, reve, rfl, hlookupe, hreade⟩ := receiptBinding_revision hbindinge
  obtain ⟨xs, v, rfl, hv, hvb⟩ := pyEq_lookup heqb hlookupb
  obtain ⟨xs', v', hxs, hv', hve⟩ := pyEq_lookup heqe hlookupe
  cases hxs
  cases hv.symm.trans hv'
  have hrevb : revb = .str text := by
    have hread := hreadb.symm.trans ((Evaluation.revision_eq hrb).trans htext)
    exact Except.ok.inj hread
  subst hrevb
  cases pyEq_str_right.mp hvb
  cases pyEq_str_left.mp hve
  rw [← Evaluation.revision_eq hre, hreade, htext]

theorem CorrectionStep.namesOnly {text : String} (h : CorrectionStep lib correction original a b)
    (htext : b.revision = .ok (.str text)) :
    Lineage.NamesOnly (Names lib correction) Evaluation.revision a b := by
  obtain ⟨hversion, r, hr, hlinked⟩ := h
  have hnames : Names lib correction a b := ⟨hversion, r, hr, hlinked.receiptHash⟩
  exact ⟨hnames, fun c hac => hnames.revision hac htext⟩

theorem CorrectionStep.agreeAt (h : CorrectionStep lib correction original a b) :
    AgreeAt lib ["evaluation", "month"] a b ∧ AgreeAt lib ["policy_approval"] a b ∧
      AgreeAt lib ["universe", "expected_portfolio_ids"] a b := by
  obtain ⟨-, r, hr, hlinked⟩ := h
  have hread : ∀ path, readAt r ("approval" :: "proposal" :: path) = readAt b.proposal path :=
    fun path => readAt_append_of_ok (b.retained r hr)
  unfold AgreeAt
  rw [← hread, ← hread, ← hread]
  exact ⟨hlinked.month, hlinked.policy, hlinked.population⟩

/-- A receipt that supersedes what its correction expected was published after the
predecessor. -/
theorem Supersedes.publishedAfter {receipt proposal prior : Json}
    (h : Supersedes lib receipt proposal) (hlinked : Linked lib original proposal prior) :
    PublishedAfter lib receipt prior := by
  simp only [Supersedes, bind_eq_ok] at h
  obtain ⟨sequence, hsequence, expected, hexpected, hgreater⟩ := h
  obtain ⟨x, y, hx, hy, hxy⟩ := (lib.same_eq_true).mp hlinked.sequence
  cases hexpected.symm.trans hx
  simp only [PublishedAfter, bind_eq_ok]
  exact ⟨sequence, hsequence, y, hy, lib.greater_of_eq hgreater hxy⟩

theorem PublishedAfter.trans {x y z : Json} (hxy : PublishedAfter lib x y)
    (hyz : PublishedAfter lib y z) : PublishedAfter lib x z := by
  simp only [PublishedAfter, bind_eq_ok] at *
  obtain ⟨sx, hsx, sy, hsy, hgreater⟩ := hxy
  obtain ⟨sy', hsy', sz, hsz, hgreater'⟩ := hyz
  cases hsy.symm.trans hsy'
  exact ⟨sx, hsx, sz, hsz, lib.greater_trans hgreater hgreater'⟩

/-- The second evaluation has a receipt, and each receipt of the first came after it. -/
def PublishedBehind (lib : SourceLibrary) (a b : Evaluation) : Prop :=
  ∃ rb ∈ b.receipt, ∀ ra ∈ a.receipt, PublishedAfter lib ra rb

instance agreeAt_trans {path : List String} :
    Trans (AgreeAt lib path) (AgreeAt lib path) (AgreeAt lib path) :=
  ⟨fun hab hbc => lib.same_trans hab hbc⟩

instance publishedBehind_trans :
    Trans (PublishedBehind lib) (PublishedBehind lib) (PublishedBehind lib) := by
  constructor
  rintro a b c ⟨rb, hrb, hab⟩ ⟨rc, hrc, hbc⟩
  exact ⟨rc, hrc, fun ra hra => (hab ra hra).trans (hbc rb hrb)⟩

variable {head : Evaluation} {rest : List Evaluation}

/-- The evaluations of a walk name one another in order, down to an original. -/
theorem chain_of_walk {last : Evaluation} (hroot : correction ≠ root)
    (htexts : ∀ e ∈ rest, ∃ text, e.revision = .ok (.str text))
    (hdistinct : ((head :: rest).map Evaluation.revision).Nodup)
    (hsteps : (head :: rest).IsChain (CorrectionStep lib correction original))
    (hlast : last ∈ (head :: rest).getLast?) (hversion : last.HasVersion root) :
    Lineage.Chain (Names lib correction) Evaluation.revision (head :: rest) where
  linked := by
    rw [List.isChain_iff_getElem] at hsteps ⊢
    intro i hi
    obtain ⟨text, htext⟩ := htexts _ (List.getElem_mem (Nat.lt_of_succ_lt_succ hi))
    exact (hsteps i hi).namesOnly htext
  distinct := hdistinct
  root := by
    intro e he b hnames
    cases Option.mem_unique he hlast
    exact hroot (hversion.unique hnames.1).symm

theorem CorrectionLineage.of_walk {last : Evaluation} (hroot : correction ≠ root)
    (hversioned : ∀ e ∈ head :: rest, Versioned lib correction e)
    (hrevision : ∃ revision, head.revision = .ok revision)
    (htexts : ∀ e ∈ rest, ∃ text, e.revision = .ok (.str text))
    (hdistinct : ((head :: rest).map Evaluation.revision).Nodup)
    (hsteps : (head :: rest).IsChain (CorrectionStep lib correction original))
    (hlast : last ∈ rest.getLast?) (hversion : last.HasVersion root)
    (hreceipt : last.receipt = some original) :
    CorrectionLineage lib correction root (head :: rest) := by
  obtain ⟨front, rfl⟩ : ∃ front, rest = front ++ [last] :=
    ⟨_, (List.dropLast_append_getLast? last hlast).symm⟩
  have hend : last ∈ (head :: (front ++ [last])).getLast? := by
    rw [← List.cons_append, List.getLast?_concat]
    rfl
  have hchain := chain_of_walk hroot htexts hdistinct hsteps hend hversion
  have hgetElem := List.isChain_iff_getElem.mp hsteps
  -- each evaluation before the last starts a step
  have hcorrections : ∀ e ∈ head :: front, e.HasVersion correction := by
    intro e he
    obtain ⟨b, hstep⟩ := Lineage.exists_next hsteps he
    exact (Versioned.hasVersion (hversioned e (List.mem_append_left [last] he)) hstep).1
  have hbehind : (head :: (front ++ [last])).IsChain (PublishedBehind lib) := by
    rw [List.isChain_iff_getElem]
    intro i hi
    have hstep := hgetElem i hi
    obtain ⟨-, r, hr, hlinked⟩ := hstep
    refine ⟨r, hr, fun ra hra => ?_⟩
    have hsupersedes :=
      (Versioned.hasVersion (hversioned _ (List.getElem_mem _)) (hgetElem i hi)).2 ra hra
    exact hsupersedes.publishedAfter hlinked
  constructor
  · refine ⟨head :: front, last, original, rfl, List.cons_ne_nil _ _, hcorrections, hversion,
      hreceipt, ?_⟩
    exact hsteps.imp fun a b hstep => hstep.2
  · exact fun i j hi hj => hchain.names_iff hi hj
  · exact fun e he => hchain.acyclic he
  · exact fun e he original horiginal => hchain.reaches_root he horiginal
  · refine ⟨hdistinct, ?_⟩
    rintro e (_ | ⟨_, he⟩)
    · exact hrevision
    · obtain ⟨text, htext⟩ := htexts e he
      exact ⟨_, htext⟩
  · exact (hsteps.imp fun a b hstep => hstep.agreeAt.1).pairwise
  · exact (hsteps.imp fun a b hstep => hstep.agreeAt.2.1).pairwise
  · exact (hsteps.imp fun a b hstep => hstep.agreeAt.2.2).pairwise
  · refine hbehind.pairwise.imp ?_
    rintro a b ⟨r, hr, hafter⟩ ra hra rb hrb
    cases Option.mem_unique hr hrb
    exact hafter ra hra

/-- The evaluations that a list of receipts retains, none of them with a revision already
seen. -/
structure Retained (lib : SourceLibrary) (correction : String) (seen receipts : List Json)
    (rest : List Evaluation) : Prop where
  receipts : rest.map (·.receipt) = receipts.map some
  versioned : ∀ e ∈ rest, Versioned lib correction e
  texts : ∀ e ∈ rest, ∃ text, e.revision = .ok (.str text)
  fresh : ∀ e ∈ rest, ∀ j ∈ seen, e.revision ≠ .ok j
  distinct : (rest.map Evaluation.revision).Nodup

theorem Retained.nil {seen : List Json} : Retained lib correction seen [] [] where
  receipts := rfl
  versioned := by simp
  texts := by simp
  fresh := by simp
  distinct := List.nodup_nil

theorem Retained.cons {seen receipts : List Json} {receipt revision : Json} {e : Evaluation}
    {text : String} (h : Retained lib correction (revision :: seen) receipts rest)
    (hreceipt : e.receipt = some receipt) (hversioned : Versioned lib correction e)
    (htext : e.revision = .ok (.str text))
    (hread : readAt receipt ["approval", "proposal", "evaluation_revision"] = .ok revision)
    (hseen : lib.isIn revision seen = false) :
    Retained lib correction seen (receipt :: receipts) (e :: rest) := by
  have hrevision : e.revision = .ok revision := (Evaluation.revision_eq hreceipt).symm.trans hread
  cases htext.symm.trans hrevision
  constructor
  · rw [List.map_cons, List.map_cons, h.receipts, hreceipt]
  · exact List.forall_mem_cons.mpr ⟨hversioned, h.versioned⟩
  · exact List.forall_mem_cons.mpr ⟨⟨text, htext⟩, h.texts⟩
  · rw [List.forall_mem_cons]
    constructor
    · intro j hj hsame
      cases hsame.symm.trans htext
      have hin : lib.isIn (.str text) seen = true :=
        List.any_eq_true.mpr ⟨_, hj, pyEq_str_left.mpr rfl⟩
      rw [hseen] at hin
      cases hin
    · exact fun e' he' j hj => h.fresh e' he' j (List.mem_cons_of_mem _ hj)
  · rw [List.map_cons, List.nodup_cons]
    refine ⟨?_, h.distinct⟩
    intro hmem
    obtain ⟨e', he', hsame⟩ := List.mem_map.mp hmem
    exact h.fresh e' he' _ List.mem_cons_self (hsame.trans htext)

theorem Retained.correctionLineage {receipts : List Json} {revision : Json}
    (h : Retained lib correction [revision] receipts rest) (hroot : correction ≠ root)
    (hrevision : head.revision = .ok revision) (hversioned : Versioned lib correction head)
    (hsteps : (head :: rest).IsChain (CorrectionStep lib correction original))
    (hlast : original ∈ receipts.getLast?)
    (hversion : subscript original "product_version" = .ok (.str root)) :
    CorrectionLineage lib correction root (head :: rest) := by
  have hreceipts : (rest.map (·.receipt)).getLast? = some (some original) := by
    rw [h.receipts, List.getLast?_map, hlast]
    rfl
  rw [List.getLast?_map, Option.map_eq_some_iff] at hreceipts
  obtain ⟨last, hrest, hreceipt⟩ := hreceipts
  have hmem : last ∈ rest := List.mem_of_getLast? hrest
  have hlastVersion : last.HasVersion root := by
    obtain ⟨version, hlastVersion, -⟩ := h.versioned last hmem original hreceipt
    have hsame := (hlastVersion.2 original hreceipt).symm.trans hversion
    simp only [Except.ok.injEq, Json.str.injEq] at hsame
    rw [← hsame]
    exact hlastVersion
  refine CorrectionLineage.of_walk hroot ?_ ⟨revision, hrevision⟩ h.texts ?_ hsteps hrest
    hlastVersion hreceipt
  · exact List.forall_mem_cons.mpr ⟨hversioned, h.versioned⟩
  · rw [List.map_cons, List.nodup_cons]
    refine ⟨?_, h.distinct⟩
    intro hmem
    obtain ⟨e, he, hsame⟩ := List.mem_map.mp hmem
    exact h.fresh e he revision List.mem_cons_self (hsame.trans hrevision)

theorem Evaluation.eq_of_receipt {receipt : Json} (ha : receipt ∈ a.receipt)
    (hb : receipt ∈ b.receipt) : a = b := by
  obtain ⟨pa, ra, hra⟩ := a
  obtain ⟨pb, rb, hrb⟩ := b
  cases ha
  cases hb
  cases (hra receipt rfl).symm.trans (hrb receipt rfl)
  rfl

theorem exists_head {month proposal : Json} (h : proposalForMonth lib month = .ok proposal) :
    ∃ head : Evaluation, head.proposal = proposal ∧ headReceipt lib month = .ok head.receipt ∧
      ∀ r ∈ head.receipt, subscript month "receipt" = .ok r ∧
        subscript month "evidence_kind" = .ok (.str "PUBLISHED") := by
  simp only [proposalForMonth, bind_eq_ok] at h
  obtain ⟨kind, hkind, h⟩ := h
  cases hpublished : lib.eq kind (.str "PUBLISHED") with
  | true =>
      rw [if_pos hpublished] at h
      obtain ⟨receipt, hreceipt, hretained⟩ := readAt_cons.mp h
      refine ⟨⟨proposal, some receipt, ?_⟩, rfl, ?_, ?_⟩
      · rintro r ⟨⟩
        exact hretained
      · simp only [headReceipt, bind_eq_ok]
        refine ⟨kind, hkind, ?_⟩
        rw [if_pos hpublished, hreceipt]
        rfl
      · rintro r ⟨⟩
        rw [pyEq_str_right.mp hpublished] at hkind
        exact ⟨hreceipt, hkind⟩
  | false =>
      refine ⟨⟨proposal, none, by simp⟩, rfl, ?_, by simp⟩
      simp only [headReceipt, bind_eq_ok]
      refine ⟨kind, hkind, ?_⟩
      rw [hpublished]
      rfl

end Walk

section Amendments

variable {lib : SourceLibrary} {selection : EligibilitySelection}

theorem accepted_version {isOpen : Bool} {fields : List (String × Bool × Schema)} {j : Json}
    {version : String}
    (h : Schema.accepts lib.coercions lib.isDecimal (.object isOpen fields) j = true)
    (hfield : field "product_version" (.literal [version]) ∈ fields) :
    subscript j "product_version" = .ok (.str version) := by
  obtain ⟨value, hread, haccepts⟩ := subscript_of_accepts h hfield
  obtain ⟨text, htext, rfl⟩ := Schema.accepts_literal haccepts
  rw [hread, List.mem_singleton.mp htext]

theorem accepted_receipt {receiptShape approvalShape proposalShape : List (String × Bool × Schema)}
    {version : String} {receipt : Json}
    (hreceipt : ∀ f ∈ receiptFields version (.object true approvalShape), f ∈ receiptShape)
    (happroval : ∀ f ∈ approvalFields version (.object true proposalShape), f ∈ approvalShape)
    (hproposal : ∀ f ∈ proposalFields version, f ∈ proposalShape)
    (h : Schema.accepts lib.coercions lib.isDecimal (.object true receiptShape) receipt = true) :
    ∃ e : Evaluation, ∃ text n, e.receipt = some receipt ∧ e.HasVersion version ∧
      e.revision = .ok (.str text) ∧ subscript receipt "publication_sequence" = .ok (.int n) ∧
      Schema.accepts lib.coercions lib.isDecimal (.object true proposalShape) e.proposal =
        true := by
  obtain ⟨approval, happrovalRead, happrovalShape⟩ :=
    subscript_of_accepts h (hreceipt (field "approval" (.object true approvalShape)) (by simp [receiptFields]))
  obtain ⟨proposal, hproposalRead, hproposalShape⟩ :=
    subscript_of_accepts happrovalShape
      (happroval (field "proposal" (.object true proposalShape)) (by simp [approvalFields]))
  obtain ⟨sequence, hsequence, hsequenceShape⟩ :=
    subscript_of_accepts h
      (hreceipt (field "publication_sequence" (.int (some 1) none)) (by simp [receiptFields]))
  obtain ⟨n, rfl⟩ := Schema.accepts_int hsequenceShape
  obtain ⟨revision, hrevision, hrevisionShape⟩ :=
    subscript_of_accepts hproposalShape
      (hproposal (field "evaluation_revision" identifier) (by simp [proposalFields]))
  obtain ⟨text, rfl⟩ := Schema.accepts_text hrevisionShape
  have hretained : readAt receipt ["approval", "proposal"] = .ok proposal := by
    rw [readAt_of_subscript happrovalRead, readAt_singleton]
    exact hproposalRead
  refine ⟨⟨proposal, some receipt, ?_⟩, text, n, rfl, ⟨?_, ?_⟩, hrevision, hsequence,
    hproposalShape⟩
  · rintro r ⟨⟩
    exact hretained
  · exact accepted_version hproposalShape (hproposal _ (by simp [proposalFields]))
  · rintro r ⟨⟩
    exact accepted_version h (hreceipt _ (by simp [receiptFields]))

theorem amendment_sequence {proposal : Json}
    (h : Schema.accepts lib.coercions lib.isDecimal amendmentProposal proposal = true) :
    ∃ m, claimed proposal "expected_current_publication_sequence" = .ok (.int m) := by
  obtain ⟨claim, hclaim, hshape⟩ :=
    subscript_of_accepts h (List.mem_append_right _ (List.mem_cons_self ..))
  obtain ⟨sequence, hsequence, hsequenceShape⟩ := 
    subscript_of_accepts hshape (List.mem_of_getElem? (i := 6) rfl)
  obtain ⟨m, rfl⟩ := Schema.accepts_int hsequenceShape
  exact ⟨m, (claimed_eq hclaim _).trans hsequence⟩

theorem requireReceipt_retained {receipt : Json} {u : Unit}
    (h : requireReceipt lib selection receipt = .ok u) :
    ∃ e : Evaluation, ∃ text, e.receipt = some receipt ∧ e.revision = .ok (.str text) ∧
      Versioned lib "v2" e := by
  simp only [requireReceipt, bind_eq_ok, lib.validate_eq_ok] at h
  obtain ⟨version, -, _, hshape, approval, happroval, proposal, hproposal, definition, -, _, -, _, -,
    _, -, _, -, _, -, _, -, _, -, _, -, _, -, _, -, _, -, _, -, _, -, _, -, _, -, _, -, hsuperseded⟩ := h
  cases hv2 : lib.eq version (.str "v2") with
  | false =>
      rw [hv2] at hshape
      obtain ⟨e, text, n, hreceipt, hversion, hrevision, -, -⟩ :=
        accepted_receipt (fun f hf => hf) (fun f hf => hf) (fun f hf => hf) hshape
      refine ⟨e, text, hreceipt, hrevision, fun r hr => ⟨"v1", hversion, ?_⟩⟩
      exact fun heq => absurd heq (by decide)
  | true =>
      rw [hv2] at hshape
      obtain ⟨e, text, n, hreceipt, hversion, hrevision, hsequence, hproposalShape⟩ :=
        accepted_receipt (fun f hf => List.mem_append_left _ hf) (fun f hf => hf)
          (fun f hf => List.mem_append_left _ hf) hshape
      rw [hv2, if_pos rfl] at hsuperseded
      simp only [bind_eq_ok, refuse_eq_ok] at hsuperseded
      obtain ⟨_, -, sequence, hread, expected, hexpected, hatMost⟩ := hsuperseded
      obtain ⟨m, hm⟩ := amendment_sequence hproposalShape
      have hsame : e.proposal = proposal := by
        have hretained := e.retained receipt hreceipt
        rw [readAt_of_subscript happroval, readAt_singleton, hproposal] at hretained
        exact (Except.ok.inj hretained).symm
      cases hsequence.symm.trans hread
      rw [hsame] at hm
      cases hm.symm.trans hexpected
      refine ⟨e, text, hreceipt, hrevision, fun r hr => ⟨"v2", hversion, fun _ => ?_⟩⟩
      cases Option.mem_unique hr hreceipt
      rw [hsame]
      simp only [Supersedes, bind_eq_ok]
      exact ⟨_, hread, _, hm, lib.greater_of_not_atMost hatMost⟩

/-- What the first loop over the receipts of an amended month establishes. -/
theorem requireRetained_retained {pairs : List (ReceiptPin × Json)} :
    ∀ {seen : List Json} {u : Unit}, requireRetained lib selection seen pairs = .ok u →
      ∃ rest, Retained lib "v2" seen (pairs.map (·.2)) rest := by
  induction pairs with
  | nil => exact fun _ => ⟨[], Retained.nil⟩
  | cons pair pairs ih =>
      intro seen u h
      obtain ⟨expected, receipt⟩ := pair
      simp only [requireRetained, bind_eq_ok, refuse_eq_ok, Except.ok.injEq] at h
      obtain ⟨_, hreceipt, approval, happroval, revision, hrevision, _, hseen, _, -, h⟩ := h
      obtain ⟨e, text, hretained, htext, hversioned⟩ := requireReceipt_retained hreceipt
      obtain ⟨rest, hrest⟩ := ih h
      refine ⟨e :: rest, hrest.cons hretained hversioned htext ?_ hseen⟩
      rw [readAt_of_subscript happroval]
      exact hrevision

theorem requireLink_amendment {proposal receipt original : Json} {u : Unit}
    (h : requireLink lib proposal receipt original "v2" = .ok u) :
    subscript proposal "product_version" = .ok (.str "v2") := by
  simp only [requireLink, bind_eq_ok] at h
  obtain ⟨_, hvalid, -⟩ := h
  have haccepts := (lib.validate_eq_ok).mp hvalid
  exact accepted_version haccepts (List.mem_append_left _ (by simp [proposalFields]))

/-- What the second loop over the receipts of an amended month establishes. -/
theorem requireLinks_steps {original : Json} {receipts : List Json} :
    ∀ {head : Evaluation} {rest : List Evaluation} {last : Json},
      rest.map (·.receipt) = receipts.map some →
      requireLinks lib original head.proposal receipts = .ok last →
        (head :: rest).IsChain (CorrectionStep lib "v2" original) := by
  induction receipts with
  | nil =>
      intro head rest last hrest h
      rw [List.map_nil, List.map_eq_nil_iff] at hrest
      rw [hrest]
      exact List.isChain_singleton head
  | cons receipt receipts ih =>
      intro head rest last hrest h
      rw [List.map_cons, List.map_eq_cons_iff] at hrest
      obtain ⟨e, rest, rfl, hreceipt, hrest⟩ := hrest
      simp only [requireLinks, bind_eq_ok] at h
      obtain ⟨_, hlink, prior, hprior, h⟩ := h
      cases hprior.symm.trans (e.retained receipt hreceipt)
      rw [List.isChain_cons_cons]
      constructor
      · exact ⟨requireLink_amendment hlink, receipt, hreceipt, requireLink_linked hlink⟩
      · exact ih hrest h

theorem lastOf_eq_ok {items : List Json} {item : Json} :
    lastOf items = .ok item ↔ items.getLast? = some item := by
  unfold lastOf
  cases items.getLast? <;> simp

theorem requireAmendedPublication_versioned {head : Evaluation} {month proposal : Json}
    {receipts : List Json} {r : Json} {u : Unit}
    (h : requireAmendedPublication lib selection month proposal receipts = .ok u)
    (hread : subscript month "receipt" = .ok r) (hr : r ∈ head.receipt) :
    Versioned lib "v2" head := by
  simp only [requireAmendedPublication, bind_eq_ok] at h
  obtain ⟨receipt, hreceipt, _, hvalid, -⟩ := h
  cases hread.symm.trans hreceipt
  obtain ⟨e, text, hretained, -, hversioned⟩ := requireReceipt_retained hvalid
  rw [Evaluation.eq_of_receipt hr hretained]
  exact hversioned

theorem requireAmendmentMonth_lineage {pin : MonthPin} {month : Json}
    (h : requireAmendmentMonth lib selection pin month = .ok ()) :
    ∃ evaluations, LineageOf lib month evaluations ∧
      CorrectionLineage lib "v2" "v1" evaluations := by
  simp only [requireAmendmentMonth, bind_eq_ok, refuse_eq_ok, lib.differ_eq_false,
    lastOf_eq_ok] at h
  obtain ⟨proposal, hproposal, stored, hstored, receipts, hreceipts, pins, -, _, hlength, revision,
    hrevision, _, hretained, original, hlast, _, hroot, last, hlinks, _, -, kind, hkind,
    hpublished⟩ := h
  obtain ⟨head, rfl, hheadReceipt, hhead⟩ := exists_head hproposal
  have hlength : pins.length = receipts.length := by
    have hne : (receipts.length != pins.length) = false := Except.ok.inj hlength
    exact (by simpa using hne : receipts.length = pins.length).symm
  obtain ⟨rest, hrest⟩ := requireRetained_retained hretained
  rw [List.map_snd_zip hlength.ge] at hrest
  refine ⟨head :: rest, ⟨⟨head, rfl, hproposal, hheadReceipt⟩, receipts, ?_, hrest.receipts⟩, ?_⟩
  · exact bind_eq_ok.mpr ⟨stored, hstored, hreceipts⟩
  · apply hrest.correctionLineage (by decide) hrevision ?_
      (requireLinks_steps hrest.receipts hlinks) hlast ((lib.same_text).mp hroot)
    intro r hr
    obtain ⟨hread, hkind'⟩ := hhead r hr
    cases hkind.symm.trans hkind'
    rw [if_pos (lib.eq_text.mpr rfl)] at hpublished
    exact requireAmendedPublication_versioned hpublished hread hr r hr

end Amendments

section Historical

variable {lib : SourceLibrary} {selection : EligibilitySelection}

theorem requireRetainedReceipt_retained {receipt : Json} {u : Unit}
    (h : requireRetainedReceipt lib selection receipt = .ok u) :
    ∃ e : Evaluation, e.receipt = some receipt ∧ Versioned lib "v4" e := by
  simp only [requireRetainedReceipt, bind_eq_ok, require_eq_ok, allTrue_eq_true,
    List.forall_mem_cons] at h
  obtain ⟨_, -, approval, happroval, proposal, hproposal, version, hversion, _, hversions, _, -,
    _, -, _, -, _, -, _, -, _, -, _, -, _, -, _, -, _, -, _, -, _, -, _, -, _, -, prior, -,
    text, htext, h⟩ := h
  obtain ⟨_, -, _, -, _, -, _, -, _, -, _, -, _, -, _, -, hsuperseded⟩ := h
  have hretained : readAt receipt ["approval", "proposal"] = .ok proposal := by
    rw [readAt_of_subscript happroval, readAt_singleton]
    exact hproposal
  cases version with
  | str version =>
      have happrovalVersion := (lib.same_text_left).mp hversions.1
      have hproposalVersion := hversions.2.1
      rw [happrovalVersion, lib.same_text_left] at hproposalVersion
      refine ⟨⟨proposal, some receipt, ?_⟩, rfl, ?_⟩
      · rintro r ⟨⟩
        exact hretained
      · rintro r ⟨⟩
        refine ⟨version, ⟨hproposalVersion, ?_⟩, ?_⟩
        · rintro r ⟨⟩
          exact hversion
        · rintro rfl
          rw [if_pos (lib.eq_text.mpr rfl)] at hsuperseded
          simp only [bind_eq_ok, require_eq_ok] at hsuperseded
          obtain ⟨_, -, sequence, hsequence, expected, hexpected, hgreater⟩ := hsuperseded
          simp only [Supersedes, bind_eq_ok]
          exact ⟨sequence, hsequence, expected, hexpected, hgreater⟩
  | _ => cases htext

theorem pinConflict_revision {expected : ReceiptPin} {receipt approval revision : Json}
    (h : pinConflict lib expected receipt approval revision = .ok false) :
    revision = .str expected.evaluationRevision := by
  simp only [pinConflict, lib.differAll_eq_false, List.forall₂_cons] at h
  exact Except.ok.inj ((lib.same_text).mp h.2.1)

/-- What the loop over the receipts of a corrected historical month establishes. -/
theorem requireHistoricalLinks_retained {original : Json} {pairs : List (ReceiptPin × Json)} :
    ∀ {seen : List Json} {head : Evaluation} {last : Json},
      requireHistoricalLinks lib selection original seen head.proposal pairs = .ok last →
        ∃ rest, Retained lib "v4" seen (pairs.map (·.2)) rest ∧
          (head :: rest).IsChain (CorrectionStep lib "v4" original) := by
  induction pairs with
  | nil => exact fun _ => ⟨[], Retained.nil, List.isChain_singleton _⟩
  | cons pair pairs ih =>
      intro seen head last h
      obtain ⟨expected, receipt⟩ := pair
      simp only [requireHistoricalLinks, bind_eq_ok, require_eq_ok, Except.ok.injEq] at h
      obtain ⟨_, hreceipt, approval, happroval, revision, hrevision, _, hseen, _, hpin, _, hversion,
        _, hlink, prior, hprior, h⟩ := h
      obtain ⟨e, hretained, hversioned⟩ := requireRetainedReceipt_retained hreceipt
      cases hprior.symm.trans (e.retained receipt hretained)
      obtain ⟨rest, hrest, hsteps⟩ := ih h
      have hread : readAt receipt ["approval", "proposal", "evaluation_revision"] =
          .ok revision := by
        rw [readAt_of_subscript happroval]
        exact hrevision
      have htext : e.revision = .ok (.str expected.evaluationRevision) := by
        rw [← Evaluation.revision_eq hretained, hread,
          pinConflict_revision (negated_eq_ok.mp hpin)]
      refine ⟨e :: rest, ?_, ?_⟩
      · refine hrest.cons hretained hversioned htext hread ?_
        simpa using hseen
      · rw [List.isChain_cons_cons]
        constructor
        · exact ⟨(lib.same_text).mp hversion, receipt, hretained, requireLink_linked hlink⟩
        · exact hsteps

theorem requireSourceMonths_kind {pin : MonthPin} {month : Json} {version : String} {u : Unit}
    (h : requireSourceMonths lib { selection with months := [pin] } [month] version = .ok u)
    (hkind : subscript month "evidence_kind" = .ok (.str "PUBLISHED")) :
    isPublished pin.evidence = true := by
  simp only [requireSourceMonths, bind_eq_ok] at h
  obtain ⟨_, -, h⟩ := h
  have hmonth := forM_eq_ok.mp h (pin, month) (by simp)
  simp only [requireSourceMonth, bind_eq_ok] at hmonth
  obtain ⟨_, hstated, -⟩ := hmonth
  rw [refuseIf_eq_ok, lib.differ_eq_false] at hstated
  have hget := (lib.same_text_left).mp hstated
  obtain ⟨fields, rfl, hlookup⟩ := subscript_eq_ok.mp hkind
  rw [getItem, hlookup] at hget
  have hsame : "PUBLISHED" = evidenceKind pin.evidence := by simpa using hget
  unfold evidenceKind at hsame
  split at hsame
  · assumption
  · exact absurd hsame (by decide)

theorem requireMonth_lineage {pin : MonthPin} {month : Json} (hpin : pin.sourceVersion = .v4)
    (h : requireMonth lib selection pin month = .ok ()) :
    ∃ evaluations, LineageOf lib month evaluations ∧
      CorrectionLineage lib "v4" "v3" evaluations := by
  simp only [requireMonth, bind_eq_ok] at h
  obtain ⟨_, hsource, proposal, hproposal, stored, hstored, receipts, hreceipts, _, hlineage,
    hpublished⟩ := h
  have hcorrected : pin.sourceVersion ≠ .v3 := by
    rw [hpin]
    decide
  rw [requireRetainedLineage, if_neg hcorrected] at hlineage
  simp only [requireHistoricalLineage, bind_eq_ok, require_eq_ok, lastOf_eq_ok] at hlineage
  obtain ⟨pins, -, _, hlength, original, hlast, _, hroot, revision, hrevision, last, hlinks, -⟩ :=
    hlineage
  have hlength : receipts.length = pins.length := by
    have hbeq : (receipts.length == pins.length) = true := Except.ok.inj hlength
    simpa using hbeq
  obtain ⟨head, rfl, hheadReceipt, hhead⟩ := exists_head hproposal
  obtain ⟨rest, hrest, hsteps⟩ := requireHistoricalLinks_retained hlinks
  rw [List.map_snd_zip hlength.le] at hrest
  refine ⟨head :: rest, ⟨⟨head, rfl, hproposal, hheadReceipt⟩, receipts, ?_, hrest.receipts⟩, ?_⟩
  · exact bind_eq_ok.mpr ⟨stored, hstored, hreceipts⟩
  · apply hrest.correctionLineage (by decide) hrevision ?_ hsteps hlast ((lib.same_text).mp hroot)
    intro r hr
    obtain ⟨hread, hkind⟩ := hhead r hr
    rw [if_pos (requireSourceMonths_kind hsource hkind)] at hpublished
    simp only [bind_eq_ok] at hpublished
    obtain ⟨receipt, hreceipt, hvalid⟩ := hpublished
    cases hread.symm.trans hreceipt
    obtain ⟨e, hretained, hversioned⟩ := requireRetainedReceipt_retained hvalid
    rw [Evaluation.eq_of_receipt hr hretained] at *
    exact hversioned r hretained

end Historical

/-- Every month that the admission of amendments or of historical corrections accepts has a
lineage that is one chain of corrections down to a single original publication. -/
theorem accepted_correction_lineage (lib : SourceLibrary) (selection : EligibilitySelection)
    (months : List Json) :
    (requireAmendmentMonths lib selection months = .ok () →
      selection.months.length = months.length ∧
      ∀ pair ∈ selection.months.zip months, ∃ evaluations,
        LineageOf lib pair.2 evaluations ∧ CorrectionLineage lib "v2" "v1" evaluations) ∧
    (requireMonths lib selection months = .ok () →
      selection.months.length = months.length ∧
      ∀ pair ∈ selection.months.zip months, pair.1.sourceVersion = .v4 → ∃ evaluations,
        LineageOf lib pair.2 evaluations ∧ CorrectionLineage lib "v4" "v3" evaluations) := by
  constructor
  · intro h
    simp only [requireAmendmentMonths, bind_eq_ok] at h
    obtain ⟨_, hsource, hmonths⟩ := h
    simp only [requireSourceMonths, bind_eq_ok] at hsource
    obtain ⟨_, hlength, -⟩ := hsource
    constructor
    · have hne : (months.length != selection.months.length) = false :=
        Except.ok.inj (refuseIf_eq_ok.mp hlength)
      exact (by simpa using hne : months.length = selection.months.length).symm
    · intro pair hpair
      exact requireAmendmentMonth_lineage (forM_eq_ok.mp hmonths pair hpair)
  · intro h
    simp only [requireMonths, bind_eq_ok, require_eq_ok] at h
    obtain ⟨_, hlength, hmonths⟩ := h
    constructor
    · have hbeq : (selection.months.length == months.length) = true := Except.ok.inj hlength
      simpa using hbeq
    · intro pair hpair hversion
      exact requireMonth_lineage hversion (forM_eq_ok.mp hmonths pair hpair)

section Sample

/-- The digest of every document of the example. -/
def sampleHash : String := "sha256:aaaaaaaaaaaaaaaaaaaaaaaaaaaaaaaaaaaaaaaaaaaaaaaaaaaaaaaaaaaaaaaa"

/-- A platform on which the documents of the example have one digest and one time. -/
def sampleLibrary : SourceLibrary where
  runtime := ⟨fun _ => "aaaaaaaaaaaaaaaaaaaaaaaaaaaaaaaaaaaaaaaaaaaaaaaaaaaaaaaaaaaaaaaa", fun _ => true⟩
  coercions := Coercions.standard
  floatValue := fun _ => .nan
  isDecimal := fun text => text == "0.1"
  datetime := fun text => if text = "2026-02-02T00:00:00+00:00" then some ⟨0, true⟩ else none
  parseInt := fun text => (digitsToNat? text.toList).map Int.ofNat
  yearMonth := fun d => padded 4 d.1.year ++ "-" ++ padded 2 d.1.month
  base64 := fun _ => none
  sha256Bytes := fun _ => ""
  conforms := fun _ _ _ => false

/-- Fields of text. -/
def texts (fields : List (String × String)) : Fields :=
  fields.map fun f => (f.1, .str f.2)

def sampleScope : Fields :=
  texts [("tenant_id", "t"), ("composite_id", "c"), ("definition_version", "d")]

def samplePolicy : Json := .obj (texts
  [ ("product_name", "CompositeMonthlyEligibilityPolicy"),
    ("product_version", "v1"),
    ("profile_kind", "SYNTHETIC_MONTHLY_ABS_NET_CASH_READINESS"),
    ("official_activation", "UNAVAILABLE"),
    ("month", "2026-01"),
    ("flow_threshold", "0.1"),
    ("cash_threshold", "0.1"),
    ("membership_frequency", "CALENDAR_MONTH"),
    ("flow_measure", "ABS_NET"),
    ("flow_denominator", "PRIOR_MONTH_END_NET_ASSETS"),
    ("flow_breach_operator", "GREATER_THAN_OR_EQUAL"),
    ("cash_denominator", "MONTH_END_NET_ASSETS"),
    ("cash_numerator", "SETTLED_UNENCUMBERED_CASH_ONLY"),
    ("cash_breach_operator", "GREATER_THAN"),
    ("ratio_unit", "DECIMAL_FRACTION"),
    ("flow_date_basis", "SOURCE_BUSINESS_DATE_UTC"),
    ("holiday_treatment", "NO_DATE_SHIFT"),
    ("currency_treatment", "SOURCE_NORMALIZED_SINGLE_CURRENCY"),
    ("observation_window", "WHOLE_TARGET_MONTH"),
    ("evaluation_timing", "AFTER_MONTH_END"),
    ("source_cut_timing", "AFTER_MONTH_END"),
    ("missing_data", "REQUIRED_UNKNOWN"),
    ("reentry", "REEVALUATE_ALL_NEXT_MONTH_RULES"),
    ("content_hash", sampleHash) ] ++
  [("scope", .obj sampleScope), ("layers", .arr [.obj []])])

def samplePolicyApproval : Json := .obj (texts
  [ ("product_name", "CompositeMonthlyPolicyApproval"), ("product_version", "v1"),
    ("evidence_kind", "SYNTHETIC_UNSIGNED"), ("official_activation", "UNAVAILABLE"),
    ("content_hash", sampleHash) ] ++
  [ ("proposal", .obj (texts [("product_version", "v1"), ("content_hash", sampleHash)] ++
      [("policy", samplePolicy)])) ])

/-- A rule that could not be decided. -/
def sampleAssessment (rule : String) : Json := .obj
  [ ("rule", .str rule), ("outcome", .str "UNKNOWN"), ("failure_reasons", .arr []),
    ("unknown_reasons", .arr [.str "MISSING"]), ("numerator", .null), ("denominator", .null),
    ("ratio", .null), ("gross_inflow", .null), ("gross_outflow", .null),
    ("admitted_flow_count", .null) ]

def sampleEvaluation (sourceRevision : String) : Json := .obj (sampleScope ++ texts
  [ ("product_name", "CompositeMonthlyEligibilityEvaluation"),
    ("product_version", "v1"),
    ("evidence_class", "SOURCE_UNVERIFIED"),
    ("official_activation", "UNAVAILABLE"),
    ("population_verification", "UNVERIFIED"),
    ("month", "2026-01"),
    ("source_cut_id", "cut"),
    ("source_revision", sourceRevision),
    ("evaluated_at", "2026-02-02T00:00:00+00:00"),
    ("input_content_hash", sampleHash),
    ("universe_content_hash", sampleHash),
    ("declared_universe_coverage", "COMPLETE"),
    ("content_hash", sampleHash) ] ++
  [ ("resolved_policy", samplePolicy),
    ("expected_count", .int 1), ("observed_count", .int 0), ("included_count", .int 0),
    ("excluded_count", .int 0), ("pending_review_count", .int 1),
    ("portfolios", .arr [.obj
      [ ("portfolio_id", .str "p"), ("observations_present", .bool false),
        ("status", .str "PENDING_REVIEW"),
        ("assessments", .arr (["SIGNIFICANT_FLOW", "CASH", "READINESS"].map sampleAssessment)) ]]) ])

def sampleObservations (sourceRevision : String) : Json := .obj (sampleScope ++ texts
  [ ("product_name", "CompositeMonthlyEligibilityObservations"),
    ("product_version", "v1"),
    ("evidence_class", "SOURCE_UNVERIFIED"),
    ("month", "2026-01"),
    ("source_cut_id", "cut"),
    ("source_revision", sourceRevision),
    ("reporting_currency", "USD"),
    ("source_generated_at", "2026-02-02T00:00:00+00:00") ] ++
  [("expected_portfolio_ids", .arr [.str "p"]), ("portfolios", .arr [])])

def sampleUniverse (membership sourceRevision : String) : Json := .obj (sampleScope ++ texts
  [ ("product_name", "CompositeUniverseAttestation"),
    ("product_version", "v1"),
    ("membership_revision", membership),
    ("membership_content_hash", sampleHash),
    ("attestation_version", "a"),
    ("coverage_from", "2026-01-01"),
    ("coverage_to", "2026-01-31"),
    ("policy_version", "y"),
    ("source_cut_id", "cut"),
    ("posture", "COMPLETE"),
    ("attested_at", "2026-02-02T00:00:00+00:00"),
    ("attested_by", "u"),
    ("correlation_id", "x"),
    ("content_hash", sampleHash) ] ++
  [ ("source_products", .arr [.obj (texts
      [ ("product_name", "CompositeMonthlyEligibilityObservations"), ("contract_version", "v1"),
        ("authority_scope", "POLICY_INPUT"), ("source_cut_id", "cut"),
        ("source_watermark", sourceRevision), ("content_hash", sampleHash) ])]),
    ("expected_portfolio_ids", .arr [.str "p"]),
    ("expected_portfolio_count", .int 1), ("observed_portfolio_count", .int 0),
    ("missing_portfolio_ids", .arr [.str "p"]), ("unexpected_portfolio_ids", .arr []),
    ("coverage_gap_portfolio_ids", .arr []), ("reason_code", .null) ])

/-- A proposal of a revision: its observations have the source revision of the same name. -/
def sampleProposal (version revision target parent : String) (more : Fields) : Json :=
  .obj (texts
    [ ("product_name", "CompositeMonthlyEvaluationProposal"),
      ("product_version", version),
      ("evaluation_revision", revision),
      ("target_membership_revision", target),
      ("parent_membership_revision", parent),
      ("parent_membership_content_hash", sampleHash),
      ("proposed_by", "u"),
      ("proposed_at", "2026-02-02T00:00:00+00:00"),
      ("correlation_id", "x"),
      ("publication_evidence_version", "v1"),
      ("content_hash", sampleHash) ] ++
    [ ("policy_approval", samplePolicyApproval),
      ("universe", sampleUniverse parent revision),
      ("observations", sampleObservations revision),
      ("evaluation", sampleEvaluation revision),
      ("source_assembly_evidence", .obj [("assembly", .str "s")]) ] ++ more)

def sampleBindingOf (name version revision : String) : Json := .obj (texts
  [ ("product_name", name), ("product_version", version), ("revision", revision),
    ("digest", sampleHash) ])

/-- The receipt of an original. -/
def sampleReceipt : Json := .obj
  [ ("product_name", .str "CompositeMonthlyEligibilityPublicationReceipt"),
    ("product_version", .str "v1"),
    ("definition", .obj (sampleScope ++ texts
      [ ("product_name", "CompositeDefinition"), ("product_version", "v1"),
        ("reporting_currency", "USD"), ("content_hash", sampleHash) ])),
    ("approval", .obj (texts
        [ ("product_name", "CompositeMonthlyEvaluationApproval"), ("product_version", "v1"),
          ("evidence_kind", "SYNTHETIC_UNSIGNED"), ("official_activation", "UNAVAILABLE"),
          ("approved_by", "w"), ("approved_at", "2026-02-02T00:00:00+00:00"),
          ("claims_digest", sampleHash), ("membership_content_hash", sampleHash),
          ("published_universe_content_hash", sampleHash), ("content_hash", sampleHash) ] ++
        [("proposal", sampleProposal "v1" "e1" "m1" "m0" [])])),
    ("membership_binding", sampleBindingOf "CompositeMembership" "v1" "m1"),
    ("universe_binding", sampleBindingOf "CompositeUniverseAttestation" "v1" "e1"),
    ("source_cut_id", .str "cut"),
    ("publication_sequence", .int 1),
    ("completeness", .str "UNVERIFIED"),
    ("content_hash", .str sampleHash) ]

/-- The claim of a correction of the original. -/
def sampleAmendment : Json :=
  let approval := sampleBindingOf "CompositeMonthlyEvaluationApproval" "v1" "e1"
  .obj
    [ ("correction_kind", .str "SOURCE_CORRECTION"),
      ("predecessor_approval_binding", approval),
      ("predecessor_receipt_binding",
        sampleBindingOf "CompositeMonthlyEligibilityPublicationReceipt" "v1" "e1"),
      ("original_approval_binding", approval),
      ("expected_authority_binding", approval),
      ("projection_parent_membership_binding", sampleBindingOf "CompositeMembership" "v1" "m1"),
      ("expected_current_publication_sequence", .int 1),
      ("affected_from", .str "2026-01-01"),
      ("affected_to", .str "2026-01-31"),
      ("reason_code", .str "LATE"),
      ("reason", .str "late"),
      ("evidence_bindings", .arr [sampleBindingOf "Note" "v1" "n1"]) ]

/-- A month that was evaluated again and retains the receipt of its original. -/
def sampleMonth : Json := .obj
  [ ("evidence_kind", .str "EVALUATED_ONLY"),
    ("proposal", sampleProposal "v2" "e2" "m2" "m1" [("amendment", sampleAmendment)]),
    ("response_digests", .obj [("proposal", .str sampleHash)]),
    ("lineage_receipts", .arr [sampleReceipt]) ]

def sampleMonthPin : MonthPin where
  sourceVersion := .v2
  month := "2026-01"
  evaluationRevision := "e2"
  proposalContentHash := sampleHash
  parentMembershipRevision := "m1"
  parentMembershipContentHash := sampleHash
  sourceCutId := "cut"
  evidence := .evaluatedOnly sampleHash
  lineageReceipts := some [⟨.v1, "e1", sampleHash, sampleHash, sampleHash⟩]
  parentPublicationResponseDigest := none

def sampleMonthSelection : EligibilitySelection where
  family := .amendment
  tenantId := "t"
  compositeId := "c"
  definitionVersion := "d"
  reportingCurrency := "USD"
  periodStart := ⟨⟨2026, 1, 1⟩, by decide⟩
  periodEnd := ⟨⟨2026, 1, 31⟩, by decide⟩
  months := [sampleMonthPin]

theorem requireAmendmentMonths_sample :
    requireAmendmentMonths sampleLibrary sampleMonthSelection [sampleMonth] = .ok () := by
  obtain ⟨u, hu⟩ := isOk_eq_true.mp (show (requireAmendmentMonths sampleLibrary
    sampleMonthSelection [sampleMonth]).isOk = true by decide +kernel)
  exact hu

theorem accepted_correction_lineage_sample : ∃ evaluations,
    LineageOf sampleLibrary sampleMonth evaluations ∧
      CorrectionLineage sampleLibrary "v2" "v1" evaluations := by
  have h := (accepted_correction_lineage sampleLibrary sampleMonthSelection [sampleMonth]).1
    requireAmendmentMonths_sample
  exact h.2 (sampleMonthPin, sampleMonth) List.mem_cons_self

end Sample

end LotusReport.Composite.Eligibility
