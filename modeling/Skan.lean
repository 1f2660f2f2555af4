import Skan.Corpus.ExternalCompilation
import Skan.Corpus.Lossless
import Skan.Corpus.NvdFeedStreaming
import Skan.Corpus.OsMigration
import Skan.Db.FailedLoads
import Skan.Detect.BestMatch
import Skan.Detect.JsonTexts
import Skan.Detect.ProbeOrder
import Skan.Detect.Progress
import Skan.Detect.QuotedFields
import Skan.Detect.TlsRecords
import Skan.Discovery.Coverage
import Skan.Discovery.Liveness
import Skan.Io.Deadlines
import Skan.Net.ChecksumStandard
import Skan.Net.CorrelationDispatch
import Skan.Net.CorrelationIndex
import Skan.Net.DiscoveryQuotes
import Skan.Net.OSProbeCorrelation
import Skan.Net.ProbeIdentities
import Skan.Net.QuotedDatagrams
import Skan.Net.UdpEvidence
import Skan.Orchestrator.Lifecycle
import Skan.Orchestrator.ReportBuilder
import Skan.Orchestrator.ScanOptions
import Skan.OsDetect.Counters
import Skan.OsDetect.Families
import Skan.OsDetect.Matcher
import Skan.Output.Grepable
import Skan.Output.JsonDocuments
import Skan.Output.TerminalText
import Skan.Output.Xml
import Skan.Packet.Span
import Skan.PortScan.Confirmation
import Skan.PortScan.Liveness
import Skan.PortScan.Nesting
import Skan.PortScan.Reporting
import Skan.PortScan.Traffic
import Skan.PortScan.UdpPorts
import Skan.PortScan.UdpVerdicts
import Skan.ScanEngine.AdaptiveCensus
import Skan.ScanEngine.Congestion
import Skan.Target.Spellings
