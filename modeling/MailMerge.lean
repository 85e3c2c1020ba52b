import MailMerge.Extension
import MailMerge.Main
import MailMerge.Proofs.Markup.Stopping
import MailMerge.Proofs.Markup.Tiling
import MailMerge.Proofs.Outline.Conjunction
import MailMerge.Proofs.Outline.Dense
import MailMerge.Proofs.Outline.Forging
import MailMerge.Proofs.Outline.Refusing
import MailMerge.Proofs.Outline.Reporting
import MailMerge.Proofs.Outline.Restoring
import MailMerge.Proofs.Outline.Settling
import MailMerge.Proofs.Outline.Siblings
import MailMerge.Proofs.Outline.Stability
import MailMerge.Proofs.Outline.Tabulating
import MailMerge.Proofs.Outline.Undeferred
import MailMerge.Proofs.Outline.Unfolding
import MailMerge.Proofs.Outline.Unread
import MailMerge.Proofs.Render.Remainder
import MailMerge.Proofs.Render.Scanning
import MailMerge.Proofs.Render.Strictness
import MailMerge.Proofs.Source.Canonical
import MailMerge.Proofs.Source.Heading
import MailMerge.Proofs.Tree.Blaming
import MailMerge.Proofs.Tree.Pointing
import MailMerge.Proofs.Value.RoundTrip
