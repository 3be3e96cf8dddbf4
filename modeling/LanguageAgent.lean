import LanguageAgent.Interleaving.Protocol
import LanguageAgent.Queue.Cancellation
import LanguageAgent.Queue.SingleEnd
import LanguageAgent.Queue.EventLog
import LanguageAgent.Queue.StreamedReply
import LanguageAgent.Webui.Lockout
import LanguageAgent.Webui.FailureExpiry
import LanguageAgent.Webui.Persistence
import LanguageAgent.Queue.Backlog
import LanguageAgent.Queue.StreamCursor
import LanguageAgent.Queue.InvalidOutput
import LanguageAgent.Queue.ReadBack
import LanguageAgent.Queue.TimeoutReports
import LanguageAgent.Gateway.ReplyText
import LanguageAgent.Agent.ReplyEnds
import LanguageAgent.Agent.ModeLabels
import LanguageAgent.Agent.Sessions
import LanguageAgent.Agent.FailedTurns
import LanguageAgent.Agent.DrainedStreams
import LanguageAgent.Queue.StreamStops
import LanguageAgent.Gateway.LlamaStream
import LanguageAgent.Webui.SseFrames
import LanguageAgent.Webui.FailsClosed
import LanguageAgent.Webui.ShownTokens
import LanguageAgent.Agent.ModeSchemas
import LanguageAgent.Gateway.HiddenReasoning
import LanguageAgent.Gateway.HeldBack
import LanguageAgent.Queue.WaitedJobs
import LanguageAgent.Webui.RoutePriority
import LanguageAgent.Accounts.SignIn
import LanguageAgent.Agent.SessionOrchestrator
import LanguageAgent.Agent.FrontEnds
import LanguageAgent.Queue.Serialization
import LanguageAgent.Gateway.AsyncStream
import LanguageAgent.Site.Logins
import LanguageAgent.Site.NewAccounts
import LanguageAgent.Webui.ChatRetries
import LanguageAgent.Site.Replies
import LanguageAgent.Gateway.Requests
