import SiteRouter.CommandLine.Run
import SiteRouter.Files.Tree
import SiteRouter.Main
import SiteRouter.Script.Save
import SiteRouter.Site.Encode
import SiteRouter.Proofs.Commands
import SiteRouter.Proofs.Arguments
import SiteRouter.Proofs.Subnets
import SiteRouter.Proofs.Validity
import SiteRouter.Proofs.Surveying
import SiteRouter.Proofs.FailoverPlan
import SiteRouter.Proofs.Bridging
import SiteRouter.Proofs.Compilation
import SiteRouter.Proofs.References
import SiteRouter.Proofs.Entries
import SiteRouter.Proofs.Closure
import SiteRouter.Proofs.Writing
import SiteRouter.Proofs.RoutedUplinks
import SiteRouter.Proofs.PlanFailures
import SiteRouter.Proofs.Menus
import SiteRouter.Proofs.UplinkSetup
import SiteRouter.Proofs.Reports
import SiteRouter.Proofs.AddressText
import SiteRouter.Proofs.Packets
import SiteRouter.Proofs.Steering
import SiteRouter.Proofs.Lines
import SiteRouter.Proofs.Outages
import SiteRouter.Proofs.Tagging
import SiteRouter.Proofs.FileTrees
import SiteRouter.Proofs.Invocations
import SiteRouter.Proofs.CompileRuns
import SiteRouter.Proofs.Pools
import SiteRouter.Proofs.Heartbeat
import SiteRouter.Proofs.Warnings
import SiteRouter.Proofs.Printing
import SiteRouter.Proofs.Refusals
import SiteRouter.Proofs.Truncation
import SiteRouter.Proofs.StrictMapping
import SiteRouter.Proofs.InterfaceNames
import SiteRouter.Proofs.Numbering
import SiteRouter.Proofs.Admission
import SiteRouter.Proofs.Pins
import SiteRouter.Proofs.Redaction
import SiteRouter.Proofs.Alignment
import SiteRouter.Proofs.Secrecy
import SiteRouter.Proofs.Ipv6Text
import SiteRouter.Proofs.Records
import SiteRouter.Proofs.SiteDocuments
import SiteRouter.Proofs.JsonText
import SiteRouter.Proofs.PoolWords
import SiteRouter.Proofs.Services
import SiteRouter.Proofs.ShownRoutes
import SiteRouter.Proofs.GenerationTime
