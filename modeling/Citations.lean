import Citations.Completion.Items
import Citations.Hover
import Citations.Main
import Citations.Search.Pattern
import Citations.Tracking.DirectoryWatch
import Citations.Proofs.Host
import Citations.Proofs.Store
import Citations.Proofs.Tracking.Operations
import Citations.Proofs.Tracking.Run
import Citations.Proofs.Tracking.Alignment
import Citations.Proofs.Tracking.History
import Citations.Proofs.Discovery.Found
import Citations.Proofs.Tracking.Freshness
import Citations.Proofs.Tracking.Absence
import Citations.Proofs.Tracking.Reconciliation
import Citations.Proofs.Tracking.Draining
import Citations.Proofs.Bibliography.Appending
import Citations.Proofs.Bibliography.Written
import Citations.Proofs.Bibliography.RoundTrip
import Citations.Proofs.Bibliography.Projection
import Citations.Proofs.Discovery.Accounting
import Citations.Proofs.Path.Parent
import Citations.Proofs.Tracking.Directories
import Citations.Proofs.Tracking.Subscriptions
import Citations.Proofs.Store.Registration
import Citations.Proofs.Store.Repetition
import Citations.Proofs.CrossRef.Locality
import Citations.Proofs.Bibliography.Agreement
import Citations.Proofs.Bibliography.Stripping
import Citations.Proofs.CrossRef.Blocks
import Citations.Proofs.CrossRef.Equations
import Citations.Proofs.CrossRef.Listings
import Citations.Proofs.CrossRef.Captions
import Citations.Proofs.CrossRef.Previews
import Citations.Proofs.Text.Words
import Citations.Proofs.Bibliography.Rendering
import Citations.Proofs.Bibliography.Places
import Citations.Proofs.Bibliography.Abbreviations
import Citations.Proofs.CrossRef.Labels
import Citations.Proofs.Bibliography.Failures
import Citations.Proofs.Bibliography.Entries
import Citations.Proofs.Bibliography.Documentation
import Citations.Proofs.Bibliography.Lines
import Citations.Proofs.Discovery.FrontMatter
import Citations.Proofs.Discovery.Inline
import Citations.Proofs.Discovery.Blanks
import Citations.Proofs.Bibliography.Omissions
import Citations.Proofs.Hover
import Citations.Proofs.Search.Ranking
import Citations.Proofs.Bibliography.Flattening
import Citations.Proofs.Bibliography.Matching
import Citations.Proofs.CrossRef.Extent
import Citations.Proofs.CrossRef.Lookback
import Citations.Proofs.Settings.Layers
import Citations.Proofs.Bibliography.Delimiters
import Citations.Proofs.Text.Backward
import Citations.Proofs.Text.Partition
