import CssSurvey.Main
import CssSurvey.Notice.Trail
import CssSurvey.Proofs.Sheet.Recovery
import CssSurvey.Proofs.Sheet.Statement
import CssSurvey.Proofs.Sheet.Document
import CssSurvey.Proofs.Sheet.Reprint
import CssSurvey.Proofs.Ruleset.Skeleton
import CssSurvey.Proofs.Sheet.Braces
import CssSurvey.Proofs.Sheet.Conservation
import CssSurvey.Proofs.Selector.Members
import CssSurvey.Proofs.AtRule.Header
import CssSurvey.Proofs.Sheet.LastAtRule
import CssSurvey.Proofs.FirstUse
import CssSurvey.Proofs.Gradient
import CssSurvey.Proofs.Notice.Warnings
import CssSurvey.Proofs.Sheet.Seams
import CssSurvey.Proofs.Sheet.Gradients
import CssSurvey.Proofs.Summary
import CssSurvey.Proofs.Summary.Blocks
import CssSurvey.Proofs.Summary.FirstUse
import CssSurvey.Proofs.Text.Layout
import CssSurvey.Proofs.Run
import CssSurvey.Proofs.Fragment.Blocks
import CssSurvey.Proofs.Ruleset.Settled
import CssSurvey.Proofs.Comment.Cut
import CssSurvey.Proofs.AtRule.Removal
import CssSurvey.Proofs.Ruleset.Parts
import CssSurvey.Proofs.Declaration.Validity
import CssSurvey.Proofs.Selector.Places
import CssSurvey.Proofs.Sheet.Selectors
import CssSurvey.Proofs.Text.Occurrence
import CssSurvey.Proofs.Gradient.Calls
import CssSurvey.Proofs.Gradient.Use
import CssSurvey.Proofs.Selector.Rendering
import CssSurvey.Proofs.Terminal
import CssSurvey.Proofs.StyleElement
import CssSurvey.Proofs.AtRule.Span
