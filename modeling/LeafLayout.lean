import LeafLayout.Main
import LeafLayout.Proofs.Markup.NameAgreement
import LeafLayout.Proofs.Markup.Grammar
import LeafLayout.Proofs.Markup.Visit
import LeafLayout.Proofs.Markup.Segmentation
import LeafLayout.Proofs.Layout.Blocks
import LeafLayout.Proofs.Markup.Leftmost
import LeafLayout.Proofs.Layout.Content
import LeafLayout.Proofs.Markup.Gaps
import LeafLayout.Proofs.Markup.Refilling
import LeafLayout.Proofs.Layout.Structure
import LeafLayout.Proofs.Layout.Idempotence
import LeafLayout.Proofs.Layout.Splice
import LeafLayout.Proofs.Layout.Succession
import LeafLayout.Proofs.Disk.Outline
import LeafLayout.Proofs.Glob.Outline
import LeafLayout.Proofs.Text.Utf8
import LeafLayout.Proofs.Text.Words
import LeafLayout.Proofs.Text.Runs
import LeafLayout.Proofs.Text.Probes
import LeafLayout.Proofs.Disk.Amendment
import LeafLayout.Proofs.Disk.Pages
import LeafLayout.Proofs.Batch.Arrivals
import LeafLayout.Proofs.Batch.Course
import LeafLayout.Proofs.Batch.Order
import LeafLayout.Proofs.Batch.Repetition
import LeafLayout.Proofs.Batch.Accounting
import LeafLayout.Proofs.Batch.Rehearsal
import LeafLayout.Proofs.Layout.Verbatim
import LeafLayout.Proofs.Batch.Preservation
import LeafLayout.Proofs.Layout.Lines
import LeafLayout.Proofs.Layout.Seams
import LeafLayout.Proofs.Markup.Afresh
import LeafLayout.Proofs.Markup.Progress
import LeafLayout.Proofs.Markup.Cuts
import LeafLayout.Proofs.Layout.Copies
import LeafLayout.Proofs.Text.Captures
import LeafLayout.Proofs.Layout.Rewrapping
import LeafLayout.Proofs.Layout.Changes
import LeafLayout.Proofs.Batch.Outcomes
