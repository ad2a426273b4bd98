import GridSource.Config.Layers
import GridSource.Json.Encoding
import GridSource.Logging.Setup
import GridSource.Main
import GridSource.Query.BuilderCall
import GridSource.Store.Session
import GridSource.Proofs.Config.Layers
import GridSource.Proofs.Config.Placeholders
import GridSource.Proofs.Filter.Polarity
import GridSource.Proofs.Filter.Visits
import GridSource.Proofs.Filter.Failure
import GridSource.Proofs.Filter.Meaning
import GridSource.Proofs.Url.Form
import GridSource.Proofs.Json.Scalars
import GridSource.Proofs.Json.RoundTrip
import GridSource.Proofs.Json.Documents
import GridSource.Proofs.Query.TreeValues
import GridSource.Proofs.Query.Parameters
import GridSource.Proofs.Query.RoundTrip
import GridSource.Proofs.Query.SearchBox
import GridSource.Proofs.Query.DroppedFilter
import GridSource.Proofs.Query.Fragments
import GridSource.Proofs.Cli.Compile
import GridSource.Proofs.Store.TotalCount
import GridSource.Proofs.Store.Requests
import GridSource.Proofs.Store.Classification
import GridSource.Proofs.Store.Failures
import GridSource.Proofs.Store.Records
import GridSource.Proofs.Store.RecordAddresses
import GridSource.Proofs.Store.Listings
import GridSource.Proofs.Store.KeyLookup
import GridSource.Proofs.Store.Options
import GridSource.Proofs.Store.Properties
import GridSource.Proofs.Store.Construction
import GridSource.Proofs.Cli.Markup
import GridSource.Proofs.Cli.Listing
import GridSource.Proofs.Store.BoundSettings
import GridSource.Proofs.Store.TypedSettings
import GridSource.Proofs.Query.Composition
import GridSource.Proofs.Logging.Reconfiguration
import GridSource.Proofs.Logging.LookupOrder
import GridSource.Proofs.Filter.Duality
import GridSource.Proofs.Filter.Spelling
import GridSource.Proofs.Filter.Warnings
import GridSource.Proofs.Query.AssemblyCalls
import GridSource.Proofs.Filter.WrittenForm
import GridSource.Proofs.Text.Delimited
import GridSource.Proofs.Query.ReadingBack
import GridSource.Proofs.Query.SortSpelling
import GridSource.Proofs.Query.TableWords
import GridSource.Proofs.Config.Verbatim
import GridSource.Proofs.Config.LeftPlaceholders
import GridSource.Proofs.Config.MergeLaws
import GridSource.Proofs.Store.Totals
import GridSource.Proofs.Query.OptionSpelling
