import Obligations.Config.Json
import Obligations.Explorer
import Obligations.Store.Json
import Obligations.Proofs.Calendar.ReadBack
import Obligations.Proofs.Config.ReadBack
import Obligations.Proofs.Explorer.Balance
import Obligations.Proofs.Explorer.Cumulative
import Obligations.Proofs.Explorer.Dimensions
import Obligations.Proofs.Explorer.FromRows
import Obligations.Proofs.Explorer.Gate
import Obligations.Proofs.Explorer.Limit
import Obligations.Proofs.Explorer.Listing
import Obligations.Proofs.Explorer.Overflow
import Obligations.Proofs.Explorer.Population
import Obligations.Proofs.Explorer.Protocol
import Obligations.Proofs.Explorer.RowOrder
import Obligations.Proofs.Explorer.Scope
import Obligations.Proofs.Explorer.Unrecognized
import Obligations.Proofs.Explorer.Unreported
import Obligations.Proofs.Filters.Builder
import Obligations.Proofs.Filters.Grammar
import Obligations.Proofs.Filters.Spelling
import Obligations.Proofs.Fiscal.FromWindows
import Obligations.Proofs.Fiscal.MonthEnds
import Obligations.Proofs.Fiscal.Quarters
import Obligations.Proofs.Fiscal.Standard
import Obligations.Proofs.Fiscal.Views
import Obligations.Proofs.Fiscal.Years
import Obligations.Proofs.Grouping.Awards
import Obligations.Proofs.Grouping.Groups
import Obligations.Proofs.Grouping.Labels
import Obligations.Proofs.Grouping.Narrowing
import Obligations.Proofs.Grouping.Partition
import Obligations.Proofs.Json.ReadBack
import Obligations.Proofs.Ranking.Canonical
