import TagAtlas.Access.Document
import TagAtlas.Access.Synthesis
import TagAtlas.Atlas.Basic
import TagAtlas.Command.Reply
import TagAtlas.Config.Load
import TagAtlas.Graph.Document
import TagAtlas.Graph.Dot
import TagAtlas.Main
import TagAtlas.Plan.Basic
import TagAtlas.Proofs.AccessConsistency
import TagAtlas.Proofs.AccessHistory
import TagAtlas.Proofs.GraphReachability
import TagAtlas.Proofs.RoleAncestors
import TagAtlas.Report.Basic
import TagAtlas.Survey.Project
import TagAtlas.Tag.Line
import TagAtlas.Proofs.RoleHierarchyUpdates
import TagAtlas.Proofs.AccessDecisionRule
import TagAtlas.Proofs.AccessCacheTransparency
import TagAtlas.Proofs.RoleHierarchySoundness
import TagAtlas.Proofs.JsonTokenReading
import TagAtlas.Proofs.JsonDocumentReading
import TagAtlas.Proofs.SummaryDocuments
import TagAtlas.Proofs.SurveyCache
import TagAtlas.Proofs.GraphLevels
import TagAtlas.Proofs.GraphCycles
import TagAtlas.Proofs.InstallLayers
import TagAtlas.Proofs.PlanOrder
import TagAtlas.Proofs.PlanCycles
import TagAtlas.Proofs.FirstOccurrences
import TagAtlas.Proofs.SurveyMergeSteps
import TagAtlas.Proofs.SurveyMerge
import TagAtlas.Proofs.AnnotationBatch
import TagAtlas.Proofs.AnnotationLoading
import TagAtlas.Proofs.AnnotationAccess
import TagAtlas.Proofs.RoleBatches
import TagAtlas.Proofs.AccessRefusals
import TagAtlas.Proofs.BatchRepetition
import TagAtlas.Proofs.GraphCounts
import TagAtlas.Proofs.PlanEnlargement
import TagAtlas.Proofs.GraphReplay
import TagAtlas.Proofs.JsonLayoutReading
import TagAtlas.Proofs.FloatFiniteness
import TagAtlas.Proofs.GraphDocuments
import TagAtlas.Proofs.JsonFiniteNumbers
import TagAtlas.Proofs.GraphDocumentRoundTrips
import TagAtlas.Proofs.GraphQueries
import TagAtlas.Proofs.StoreRecency
import TagAtlas.Proofs.StoreHistory
import TagAtlas.Proofs.TreeWalk
import TagAtlas.Proofs.ScanCandidates
import TagAtlas.Proofs.HeededTags
import TagAtlas.Proofs.SurveyCoverage
import TagAtlas.Proofs.InertTags
import TagAtlas.Proofs.AttributeLists
import TagAtlas.Proofs.TagGrammar
import TagAtlas.Proofs.WalkOrder
import TagAtlas.Proofs.StampTexts
import TagAtlas.Proofs.SurveyDocuments
import TagAtlas.Proofs.RoleAdmission
import TagAtlas.Proofs.AccessMonotonicity
import TagAtlas.Proofs.AttributeRows
import TagAtlas.Proofs.TagTexts
import TagAtlas.Proofs.GraphForemostPaths
import TagAtlas.Proofs.CommentGroups
import TagAtlas.Proofs.SourceComments
import TagAtlas.Proofs.ParsedTrees
import TagAtlas.Proofs.TagLines
import TagAtlas.Proofs.TextLines
import TagAtlas.Proofs.GrammarLayouts
import TagAtlas.Proofs.ChartClosure
import TagAtlas.Proofs.ChartRecognition
import TagAtlas.Proofs.AcceptedSources
import TagAtlas.Proofs.DocComments
import TagAtlas.Proofs.ReportOrder
import TagAtlas.Proofs.PlanContents
import TagAtlas.Proofs.AccessFaults
import TagAtlas.Proofs.FileCacheHistory
import TagAtlas.Proofs.FileCacheRetention
import TagAtlas.Proofs.Fingerprints
import TagAtlas.Proofs.PolicyIds
import TagAtlas.Proofs.LivePolicies
import TagAtlas.Proofs.DecisionLog
import TagAtlas.Proofs.CycleTurns
import TagAtlas.Proofs.DotTexts
import TagAtlas.Proofs.ModuleDirectives
