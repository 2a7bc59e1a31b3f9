import PromScribe.Main
import PromScribe.Proofs.Refresh.Independence
import PromScribe.Proofs.Refresh.Outcome
import PromScribe.Proofs.Refresh.Snapshots
import PromScribe.Proofs.Rehearsal.Refreshes
import PromScribe.Proofs.Service.Deadline
import PromScribe.Proofs.Service.Snippet
import PromScribe.Proofs.Query.ReadBack
import PromScribe.Proofs.Question.RateQuestion
import PromScribe.Proofs.Settings.Overrides
import PromScribe.Proofs.Translation.Enrichment
import PromScribe.Proofs.Translation.Fitting
import PromScribe.Proofs.Translation.KnownMetric
import PromScribe.Proofs.Translation.NamedMetric
import PromScribe.Proofs.Translation.RangeText
import PromScribe.Proofs.Translation.RulePath
import PromScribe.Proofs.Translation.WrittenWindow
import PromScribe.Server.Program
import PromScribe.Settings.Document
import PromScribe.Proofs.Question.Acceptance
import PromScribe.Proofs.Query.LabelEntities
import PromScribe.Proofs.Text.Place
import PromScribe.Proofs.Question.Keyword
import PromScribe.Proofs.Catalog.Similar
import PromScribe.Proofs.Time.Canonical
import PromScribe.Proofs.Translation.Balanced
import PromScribe.Proofs.Settings.TextSetting
import PromScribe.Proofs.Service.Wire
import PromScribe.Proofs.Catalog.Discovery
import PromScribe.Proofs.Question.EntitySpan
import PromScribe.Proofs.Question.NormalForm
import PromScribe.Proofs.Catalog.Family
import PromScribe.Proofs.Collaborator.Retry
import PromScribe.Proofs.Service.Execution
import PromScribe.Proofs.Client.Backend
import PromScribe.Proofs.Translation.EarliestSpan
import PromScribe.Proofs.Question.Grouping
import PromScribe.Proofs.Settings.Loaded
import PromScribe.Proofs.Text.ByteOrder
import PromScribe.Proofs.Text.Substitution
import PromScribe.Proofs.Catalog.Knowledge
import PromScribe.Proofs.Query.Verdict
import PromScribe.Proofs.Query.Braces
import PromScribe.Proofs.Translation.Filling
import PromScribe.Proofs.Translation.Suggestions
import PromScribe.Proofs.Catalog.Template
import PromScribe.Proofs.Service.SentTimes
import PromScribe.Proofs.Query.Written
import PromScribe.Proofs.Series.Chart
