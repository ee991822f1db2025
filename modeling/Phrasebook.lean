import Phrasebook.Catalog.Basic
import Phrasebook.Catalog.Flatten
import Phrasebook.Catalog.Lookup
import Phrasebook.Catalog.Path
import Phrasebook.Catalog.Text
import Phrasebook.Decimal.Binary64
import Phrasebook.Decimal.Shortest
import Phrasebook.Environment
import Phrasebook.Fetch.Catalog
import Phrasebook.Fetch.Error
import Phrasebook.Fetch.Network
import Phrasebook.Fetch.Status
import Phrasebook.FileTree
import Phrasebook.Json.Basic
import Phrasebook.Json.Fault
import Phrasebook.Json.Kind
import Phrasebook.Json.Numeral
import Phrasebook.Json.Printer
import Phrasebook.Json.Reader
import Phrasebook.Json.Text
import Phrasebook.KeyMap
import Phrasebook.Loader
import Phrasebook.Locale
import Phrasebook.Log
import Phrasebook.Main
import Phrasebook.Metrics
import Phrasebook.Preferences
import Phrasebook.Programs.CheckCatalogs
import Phrasebook.Programs.Outcome
import Phrasebook.Programs.ShowMessages
import Phrasebook.Proofs.Catalog.Clashes
import Phrasebook.Proofs.Catalog.Counting
import Phrasebook.Proofs.Catalog.Flattening
import Phrasebook.Proofs.Catalog.Format
import Phrasebook.Proofs.Catalog.Insertion
import Phrasebook.Proofs.Catalog.Leaves
import Phrasebook.Proofs.Catalog.Paths
import Phrasebook.Proofs.Catalog.RoundTrip
import Phrasebook.Proofs.Fetch.Redirects
import Phrasebook.Proofs.Json.Grammar
import Phrasebook.Proofs.Json.Numerals
import Phrasebook.Proofs.Json.Printing
import Phrasebook.Proofs.Json.Reading
import Phrasebook.Proofs.Json.Strings
import Phrasebook.Proofs.Locale.Origins
import Phrasebook.Proofs.Preferences.Resolution
import Phrasebook.Proofs.Preferences.Stores
import Phrasebook.Proofs.Programs.Basic
import Phrasebook.Proofs.Programs.CheckCatalogs
import Phrasebook.Proofs.Programs.ShowMessages
import Phrasebook.Proofs.Results
import Phrasebook.Proofs.Session.ActiveLocale
import Phrasebook.Proofs.Session.Counting
import Phrasebook.Proofs.Session.Course
import Phrasebook.Proofs.Session.FailedLoads
import Phrasebook.Proofs.Session.Issuing
import Phrasebook.Proofs.Session.Joined
import Phrasebook.Proofs.Session.LoadedSet
import Phrasebook.Proofs.Session.Overlap
import Phrasebook.Proofs.Session.Registration
import Phrasebook.Proofs.Session.Stages
import Phrasebook.Proofs.Text.Runs
import Phrasebook.Proofs.Text.Utf8
import Phrasebook.Proofs.Translator.LastCalls
import Phrasebook.Proofs.Updates
import Phrasebook.Proofs.Url.CatalogUrl
import Phrasebook.Proofs.Url.FileNames
import Phrasebook.Proofs.Url.Percent
import Phrasebook.Proofs.Url.Segments
import Phrasebook.Proofs.Validation.Coverage
import Phrasebook.Proofs.Validation.Exactness
import Phrasebook.Proofs.Validation.Misplacement
import Phrasebook.Proofs.Validation.Occurrences
import Phrasebook.Proofs.Validation.Overlaps
import Phrasebook.Session
import Phrasebook.Settings
import Phrasebook.Text.Alphanumeric
import Phrasebook.Text.Characters
import Phrasebook.Text.Printable
import Phrasebook.Text.Quoted
import Phrasebook.Text.Utf8
import Phrasebook.Translator
import Phrasebook.Url.Append
import Phrasebook.Url.Basic
import Phrasebook.Url.Domain
import Phrasebook.Url.Domain.Composites
import Phrasebook.Url.Domain.Composition
import Phrasebook.Url.Domain.Direction
import Phrasebook.Url.Domain.Folding
import Phrasebook.Url.Domain.Joining
import Phrasebook.Url.Domain.Letters
import Phrasebook.Url.Domain.Marks
import Phrasebook.Url.Domain.Punycode
import Phrasebook.Url.Host
import Phrasebook.Url.Ipv4
import Phrasebook.Url.Ipv6
import Phrasebook.Url.Parser
import Phrasebook.Url.Percent
import Phrasebook.Url.Resolve
import Phrasebook.Url.Segments
import Phrasebook.Validation.Link
import Phrasebook.Validation.Pattern
import Phrasebook.Validation.Placeholder
import Phrasebook.Validation.Report

/-!
# Phrasebook

Message catalogs for several locales: reading them, looking up and flattening their messages,
checking one against another, and a loader that fetches the catalog of a locale once, registers it
and activates it. The modules under `Phrasebook.Proofs` are the theory of the others and follow
their folders.
-/
