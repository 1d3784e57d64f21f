import FlawQuery.CommandLine.Run
import FlawQuery.Detection
import FlawQuery.Files.Tree
import FlawQuery.Main
import FlawQuery.Proofs.Acceptance
import FlawQuery.Proofs.CompiledParts
import FlawQuery.Proofs.EdgePass
import FlawQuery.Proofs.LiteralText
import FlawQuery.Proofs.MapLaws
import FlawQuery.Proofs.NameScope
import FlawQuery.Proofs.PlaceholderGroups
import FlawQuery.Proofs.QueryGrammar
import FlawQuery.Proofs.MatchedVertices
import FlawQuery.Proofs.MissingTargets
import FlawQuery.Proofs.EdgeConstraints
import FlawQuery.Proofs.AbsenceTests
import FlawQuery.Proofs.FirstViolation
import FlawQuery.Proofs.DocumentBounds
import FlawQuery.Proofs.QueryReading
import FlawQuery.Proofs.EdgeLines
import FlawQuery.Proofs.CatalogueRuns
import FlawQuery.Proofs.PatternRequests
import FlawQuery.Proofs.Expectations
import FlawQuery.Proofs.DocumentRoundTrip
import FlawQuery.Proofs.NestedTemplate
import FlawQuery.Proofs.StatementMerging
import FlawQuery.Proofs.CollectionRuns
import FlawQuery.Proofs.DetectionCourse
import FlawQuery.Proofs.QueryDependence
import FlawQuery.Proofs.EdgeOrder
import FlawQuery.Proofs.FirstRefusal
