import LotusReport.Encoding.Runtime
import LotusReport.Encoding.Validation
import LotusReport.Jobs.Schema

/-!
# The accepted document contract

The template pair and the contract axes under which a job is accepted. They
are resolved once, at acceptance, from the governed report families, or
inherited from the job that a replay recovers.
-/

namespace LotusReport.Jobs

open Encoding

/-- The deployed service: its platform, its runtime reporting contract and its validating
library. -/
structure Deployment extends Runtime where
  contractVersion : String
  coercions : Coercions

/-- The fields of `ReportFamilyDefinition` that acceptance reads. -/
structure ReportFamilyDefinition where
  reportFamilyId : String
  reportType : String
  templateId : String
  templateVersion : String
  reportDataContractVersion : String
  standardDisclosureRef : String
  inputSnapshotContractVersion : Option String := none

/-- `REPORT_FAMILY_DEFINITIONS`. -/
def reportFamilyDefinitions : List ReportFamilyDefinition :=
  [ { reportFamilyId := "portfolio_review"
      reportType := "portfolio_review"
      templateId := "portfolio-review"
      templateVersion := "v2"
      reportDataContractVersion := "portfolio_review.v1"
      standardDisclosureRef := "portfolio-review.standard-disclosures.v1" },
    { reportFamilyId := "proof_pack"
      reportType := "proof_pack"
      templateId := "proof-pack"
      templateVersion := "v1"
      reportDataContractVersion := "dpm_proof_pack_report_input.v1"
      standardDisclosureRef := "proof-pack.standard-disclosures.v1"
      inputSnapshotContractVersion := some "dpm_proof_pack_report_input.v1" },
    { reportFamilyId := "rebalance_wave"
      reportType := "rebalance_wave"
      templateId := "rebalance-wave"
      templateVersion := "v1"
      reportDataContractVersion := "dpm_wave_report_input.v1"
      standardDisclosureRef := "rebalance-wave.standard-disclosures.v1"
      inputSnapshotContractVersion := some "dpm_wave_report_input.v1" },
    { reportFamilyId := "outcome_review"
      reportType := "outcome_review"
      templateId := "outcome-review"
      templateVersion := "v1"
      reportDataContractVersion := "dpm_outcome_report_input.v1"
      standardDisclosureRef := "outcome-review.standard-disclosures.v1"
      inputSnapshotContractVersion := some "dpm_outcome_report_input.v1" },
    { reportFamilyId := "composite_review"
      reportType := "composite_review"
      templateId := "composite-review"
      templateVersion := "v1"
      reportDataContractVersion := "composite_review.v1"
      standardDisclosureRef := "composite-review.standard-disclosures.v1"
      inputSnapshotContractVersion := some "composite_review.v1" } ]

/-- `resolve_report_family`. -/
def resolveReportFamily (py : Runtime) (reportType : String) :
    Except LedgerError ReportFamilyDefinition :=
  match reportFamilyDefinitions.find? fun d => d.reportType == reportType with
  | some definition => .ok definition
  | none => .error (.lookupError
      ("REPORT_TEMPLATE_UNRESOLVED: no report family definition owns report type " ++
        reprText py reportType ++
        "; a job without a governed template cannot be accepted for PDF."))

/-- `document_output_format`. -/
def documentOutputFormat (outputFormats : List String) : Except LedgerError (Option String) :=
  if "pdf" ∈ outputFormats ∧ "xlsx" ∈ outputFormats then
    .error (.valueError "REPORT_MULTIPLE_DOCUMENT_FORMATS_NOT_SUPPORTED")
  else .ok (["pdf", "xlsx"].find? fun format => format ∈ outputFormats)

/-- A template id with its version. -/
abbrev TemplatePair := Option String × Option String

/-- `job_template_identity`. -/
def jobTemplateIdentity (py : Runtime) (reportType : String) (outputFormats : List String)
    (inherited : Option TemplatePair) : Except LedgerError TemplatePair :=
  match inherited with
  | some pair => .ok pair
  | none => do
      match ← documentOutputFormat outputFormats with
      | none => return (none, none)
      | some _ =>
          let definition ← resolveReportFamily py reportType
          return (some definition.templateId, some definition.templateVersion)

/-- `accepted_document_contract`. -/
def acceptedDocumentContract (d : Deployment) (reportType : String) (outputFormats : List String)
    (inheritedTemplate : Option TemplatePair) : Except LedgerError Fields := do
  let definition ← resolveReportFamily d.toRuntime reportType
  let (templateId, templateVersion) ←
    jobTemplateIdentity d.toRuntime reportType outputFormats inheritedTemplate
  return [
    ("accepted_contract_version", .str "adc.v1"),
    ("report_family_id", .str definition.reportFamilyId),
    ("report_type", .str definition.reportType),
    ("input_snapshot_contract_version",
      .str (definition.inputSnapshotContractVersion.getD d.contractVersion)),
    ("report_data_contract_version", .str definition.reportDataContractVersion),
    ("render_package_version", .str "render_package.v1"),
    ("template_id", .ofText? templateId),
    ("template_version", .ofText? templateVersion),
    ("locale", .str "en-SG"),
    ("brand_variant", .str "private_banking"),
    ("standard_disclosure_ref", .str definition.standardDisclosureRef)]

/-- The composite profiles in order of precedence, the last present one deciding. -/
def compositeProfiles : List (String × String) :=
  [ ("composite_source_products", "v2"),
    ("composite_linked_selection", "v3"),
    ("composite_eligibility_selection", "v4"),
    ("composite_pooled_selection", "v5"),
    ("composite_source_context", "v8"),
    ("composite_notice_selection", "v9") ]

/-- The version of a composite profile; eligibility selections carry their own. -/
def compositeProfileVersion (key version : String) (selection : Json) :
    Except LedgerError String :=
  if key = "composite_eligibility_selection" then
    match selection with
    | .obj fields =>
        match Json.lookup fields "selection_version" with
        | some (.str "v2") => .ok "v6"
        | some (.str "v3") => .ok "v7"
        | _ => .ok "v4"
    | _ => .error .typeError
  else .ok version

/-- `_apply_composite_contract`. -/
def applyCompositeContract (contract options : Fields) :
    Except LedgerError Fields :=
  compositeProfiles.foldlM
    (fun contract profile => do
      match Json.lookup options profile.1 with
      | none => return contract
      | some selection =>
          let version ← compositeProfileVersion profile.1 profile.2 selection
          let contract := Json.assign contract "report_data_contract_version"
            (.str ("composite_review." ++ version))
          let contract := Json.assign contract "input_snapshot_contract_version"
            (.str ("composite_review." ++ version))
          if (Json.lookup contract "template_id").getD .null ≠ .null then
            return Json.assign contract "template_version" (.str version)
          else return contract)
    contract

/-- `resolve_job_accepted_contract`. -/
def resolveJobAcceptedContract (d : Deployment) (reportType : String) (outputFormats : List String)
    (inheritedTemplate : Option TemplatePair) (inheritedContract : Option Fields)
    (options : Fields) : Except LedgerError Fields :=
  match inheritedContract with
  | some contract => .ok contract
  | none => do
      let contract ← acceptedDocumentContract d reportType outputFormats inheritedTemplate
      if reportType = "composite_review" ∧ !options.isEmpty then
        applyCompositeContract contract options
      else return contract

/-- A text of a contract axis. -/
def axisText (contract : Fields) (name : String) : Option String :=
  match Json.lookup contract name with
  | some (.str text) => some text
  | _ => none

/-- `template_for_accepted_contract`. -/
def templateForAcceptedContract (contract : Fields) (resolved : TemplatePair) :
    TemplatePair :=
  if (["v2", "v3", "v4", "v5", "v6", "v7", "v8", "v9"].map
      fun version => some ("composite_review." ++ version)).contains
        (axisText contract "report_data_contract_version") then
    (axisText contract "template_id", axisText contract "template_version")
  else resolved

end LotusReport.Jobs
