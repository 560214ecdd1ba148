import FunctionKit.Text.Blank
import FunctionKit.Text.Quoted
import FunctionKit.Binary64.DecimalText
import FunctionKit.Json.Printer
import FunctionKit.Json.Reader
import FunctionKit.ConfigRule.Evaluation
import FunctionKit.Logging.Settings
import FunctionKit.Logging.Record
import FunctionKit.Logging.Delivery
import FunctionKit.Logging.Inspection
import FunctionKit.Logging.Session
import FunctionKit.Proofs.Dictionaries
import FunctionKit.Proofs.Hierarchy
import FunctionKit.Proofs.Lineage
import FunctionKit.Proofs.Delivery
import FunctionKit.Proofs.Runs
import FunctionKit.Proofs.Audience
import FunctionKit.Proofs.Copying
import FunctionKit.Proofs.Transparency
import FunctionKit.Proofs.Routes
import FunctionKit.Proofs.AfterCopying
import FunctionKit.Proofs.Services
import FunctionKit.Proofs.Verdicts
import FunctionKit.Proofs.ByteOrder
import FunctionKit.Proofs.JsonTokens
import FunctionKit.Proofs.JsonDocuments
import FunctionKit.Proofs.JsonLines
import FunctionKit.Proofs.LogLines
import FunctionKit.Proofs.EmbeddedDocuments
import FunctionKit.Proofs.TypedRequests
import FunctionKit.Proofs.StringDocuments
import FunctionKit.Proofs.Handovers
import FunctionKit.Proofs.OpenStreams
import FunctionKit.Proofs.FaultyStreams
import FunctionKit.Proofs.FaultIsolation
import FunctionKit.Proofs.OwnService
import FunctionKit.Proofs.TraceEvents
import FunctionKit.Proofs.BoundKeys
import FunctionKit.Proofs.LastEdits
import FunctionKit.Proofs.SamplingRates
import FunctionKit.Proofs.EditedKeys
import FunctionKit.Proofs.EvaluationEffects
import FunctionKit.Proofs.RuleNames
import FunctionKit.Proofs.SharedKeys
import FunctionKit.Proofs.LevelReach
import FunctionKit.Proofs.BuiltLoggers
import FunctionKit.Proofs.KeyOperations
import FunctionKit.Proofs.InvocationKeys
import FunctionKit.Proofs.TargetNames
import FunctionKit.Proofs.LevelTexts
import FunctionKit.Proofs.SettingValues
import FunctionKit.Proofs.Adoption
