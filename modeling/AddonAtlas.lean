import AddonAtlas.Main
import AddonAtlas.Server.Concurrent
import AddonAtlas.Proofs.Session.Newest
import AddonAtlas.Proofs.Session.Lingering
import AddonAtlas.Proofs.Bytes
import AddonAtlas.Proofs.Declaration.Grammar
import AddonAtlas.Proofs.Declaration.Reading
import AddonAtlas.Proofs.Declaration.Selection
import AddonAtlas.Proofs.Launch
import AddonAtlas.Proofs.Scan.Reading
import AddonAtlas.Proofs.Scan.Report
import AddonAtlas.Proofs.Server.Opening
import AddonAtlas.Proofs.Index
import AddonAtlas.Proofs.Scan.Search
import AddonAtlas.Proofs.Server.Agreement
import AddonAtlas.Proofs.Session.WellFormed
import AddonAtlas.Proofs.Declaration.Renditions
import AddonAtlas.Proofs.Text.Replacement
import AddonAtlas.Proofs.Number.Numeral
import AddonAtlas.Proofs.Scan.Output
import AddonAtlas.Proofs.Scan.Place
import AddonAtlas.Proofs.Navigation.TextLines
import AddonAtlas.Proofs.Server.Excerpt
import AddonAtlas.Proofs.Server.Refused
import AddonAtlas.Proofs.Server.Refreshing
import AddonAtlas.Proofs.Scan.Raising
import AddonAtlas.Proofs.Server.Tools
import AddonAtlas.Proofs.Settings.Escaping
import AddonAtlas.Proofs.CommandLine.Exit
import AddonAtlas.Proofs.Declaration.Values
import AddonAtlas.Proofs.Declaration.Literal
import AddonAtlas.Proofs.Resource
import AddonAtlas.Proofs.Server.Browsing
import AddonAtlas.Proofs.Server.Grouping
import AddonAtlas.Proofs.Server.OwnItems
import AddonAtlas.Proofs.Server.Attribution
import AddonAtlas.Proofs.Session.Label
import AddonAtlas.Proofs.Scan.Truncation
import AddonAtlas.Proofs.Settings.Precedence
import AddonAtlas.Proofs.Scan.Record
import AddonAtlas.Proofs.Scan.Oversized
import AddonAtlas.Proofs.Navigation.Windows
import AddonAtlas.Proofs.CommandLine.IndexOnly
