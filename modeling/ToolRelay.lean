import ToolRelay.Main
import ToolRelay.Proofs.Decoding
import ToolRelay.Proofs.Planning
import ToolRelay.Proofs.Description
import ToolRelay.Proofs.Dispatching
import ToolRelay.Proofs.Decimals
import ToolRelay.Proofs.Requests
import ToolRelay.Proofs.FileArguments
import ToolRelay.Proofs.Operations
import ToolRelay.Proofs.ParameterFile
import ToolRelay.Proofs.FormQuery
import ToolRelay.Proofs.Paths
import ToolRelay.Proofs.SearchAddress
import ToolRelay.Proofs.Answers
import ToolRelay.Proofs.CommandOptions
import ToolRelay.Proofs.Hits
import ToolRelay.Proofs.SchemaSpecs
import ToolRelay.Proofs.SchemaValidity
import ToolRelay.Proofs.AdvertisedTypes
import ToolRelay.Proofs.Fallbacks
import ToolRelay.Proofs.Invocations
import ToolRelay.Proofs.Calls
import ToolRelay.Proofs.Sessions
import ToolRelay.Proofs.SearchRequests
import ToolRelay.Proofs.CommandPlans
import ToolRelay.Proofs.Lines
import ToolRelay.Proofs.ResultCount
import ToolRelay.Proofs.Registrations
import ToolRelay.Proofs.SpelledArguments
import ToolRelay.Proofs.Truncation
import ToolRelay.Proofs.CommitLogs
import ToolRelay.Proofs.SearchAnswers
import ToolRelay.Proofs.Replies
import ToolRelay.Proofs.KeptHits
import ToolRelay.Proofs.EmptyFields
import ToolRelay.Proofs.ParameterSources
import ToolRelay.Proofs.Choices
import ToolRelay.Proofs.References
import ToolRelay.Proofs.BlankParameters
import ToolRelay.Proofs.Authorities
import ToolRelay.Proofs.BaseAddress
import ToolRelay.Proofs.Trimming
import ToolRelay.Proofs.ShellWords
import ToolRelay.Proofs.ProgramReports
import ToolRelay.Proofs.Configurations
import ToolRelay.Proofs.Columns
import ToolRelay.Proofs.Tables
import ToolRelay.Proofs.TimeoutVariable
import ToolRelay.Proofs.ControlSequences
import ToolRelay.Proofs.Clipping
import ToolRelay.Proofs.Headings
import ToolRelay.Proofs.Numerals
import ToolRelay.Proofs.Coercions
