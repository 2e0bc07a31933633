import TopicAccess.Collector.Session
import TopicAccess.Json.Writer
import TopicAccess.Log.Session
import TopicAccess.Metrics.Exposition
import TopicAccess.Problem.Draft
import TopicAccess.Proofs.Acceptance
import TopicAccess.Proofs.Access
import TopicAccess.Proofs.Answers
import TopicAccess.Proofs.Attribution
import TopicAccess.Proofs.AuditTrail
import TopicAccess.Proofs.Canonical
import TopicAccess.Proofs.Correlation
import TopicAccess.Proofs.Coverage
import TopicAccess.Proofs.Division
import TopicAccess.Proofs.Encoding
import TopicAccess.Proofs.FirstMatch
import TopicAccess.Proofs.Grammar
import TopicAccess.Proofs.History
import TopicAccess.Proofs.InForce
import TopicAccess.Proofs.Insertion
import TopicAccess.Proofs.Isolation
import TopicAccess.Proofs.Layout
import TopicAccess.Proofs.LineEnds
import TopicAccess.Proofs.LogContext
import TopicAccess.Proofs.LogSession
import TopicAccess.Proofs.Measurement
import TopicAccess.Proofs.Neighbours
import TopicAccess.Proofs.Notices
import TopicAccess.Proofs.Reachable
import TopicAccess.Proofs.Records
import TopicAccess.Proofs.Rejection
import TopicAccess.Proofs.Reporting
import TopicAccess.Proofs.Routing
import TopicAccess.Proofs.SectionOrder
import TopicAccess.Proofs.Selection
import TopicAccess.Proofs.Snapshot
import TopicAccess.Proofs.Spelling
import TopicAccess.Proofs.Standing
import TopicAccess.Proofs.Undecodable
import TopicAccess.Proofs.WellFormed
import TopicAccess.Proofs.Wildcards
import TopicAccess.Service.Session
