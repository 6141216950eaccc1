import PageAudit.Audit.Files
import PageAudit.Audit.Report
import PageAudit.CommandLine.Run
import PageAudit.Main
import PageAudit.Service.Answer
import PageAudit.Json.Written
import PageAudit.Proofs.Audit.Alarms
import PageAudit.Proofs.Audit.Calls
import PageAudit.Proofs.Audit.Deciding
import PageAudit.Proofs.Audit.FailFast
import PageAudit.Proofs.Audit.Hopeless
import PageAudit.Proofs.Audit.Oracle
import PageAudit.Proofs.Audit.Pathname
import PageAudit.Proofs.Audit.Reordered
import PageAudit.Proofs.Claim.Grammar
import PageAudit.Proofs.Claim.Pulls
import PageAudit.Proofs.CommandLine.Ending
import PageAudit.Proofs.CommandLine.Outcome
import PageAudit.Proofs.Service.Agreement
import PageAudit.Proofs.Service.Classification
import PageAudit.Proofs.Settings.File
import PageAudit.Proofs.Snapshot.Calls
import PageAudit.Proofs.Snapshot.Written
import PageAudit.Proofs.Text.Parts
import PageAudit.Proofs.Claim.Conversion
import PageAudit.Proofs.Snapshot.Reached
import PageAudit.Proofs.Service.Listing
