import PluginHost.Allocation.Policy
import PluginHost.Cache.Basic
import PluginHost.Cache.KeyObject
import PluginHost.Cache.Memo
import PluginHost.Cache.Script
import PluginHost.Cache.Session
import PluginHost.Cache.Slot
import PluginHost.Cache.Strategy
import PluginHost.CommandLine.Answer
import PluginHost.CommandLine.Request
import PluginHost.CommandLine.Words
import PluginHost.Contract.Binding
import PluginHost.Contract.Catalog
import PluginHost.Contract.Locator
import PluginHost.Contract.Phase
import PluginHost.Contract.Registry
import PluginHost.Contract.Resolution
import PluginHost.Diagnostics.Event
import PluginHost.Diagnostics.Traced
import PluginHost.Host.Basic
import PluginHost.Host.Run
import PluginHost.Host.Script
import PluginHost.Main
import PluginHost.Manifest.Basic
import PluginHost.Manifest.Decode
import PluginHost.Manifest.Registration
import PluginHost.Manifest.Schema
import PluginHost.Manifest.Source
import PluginHost.Numeric.Binary64
import PluginHost.Numeric.Numeral
import PluginHost.Numeric.Rounding
import PluginHost.Numeric.Shortest
import PluginHost.Profiles.Set
import PluginHost.Profiles.Text
import PluginHost.Text.CodePoints
import PluginHost.Text.Combining
import PluginHost.Text.Pad
import PluginHost.Text.Quoted
import PluginHost.Text.Unprintable
import PluginHost.Toml.DateTime
import PluginHost.Toml.Document
import PluginHost.Toml.Reader
import PluginHost.Toml.Scalar
import PluginHost.Toml.Text
import PluginHost.Toml.Tree
import PluginHost.Toml.Value
import PluginHost.Proofs.Cache.Operations
import PluginHost.Proofs.Cache.Calls
import PluginHost.Proofs.Cache.Coherence
import PluginHost.Proofs.Cache.Register
import PluginHost.Proofs.Cache.Mirror
import PluginHost.Proofs.Cache.Refinement
import PluginHost.Proofs.Cache.Ledger
import PluginHost.Proofs.Cache.Lifetime
import PluginHost.Proofs.Cache.Backlog
import PluginHost.Proofs.Cache.Stream
import PluginHost.Proofs.Cache.Display
import PluginHost.Proofs.Cache.Unobserved
import PluginHost.Proofs.Contract.Grouping
import PluginHost.Proofs.Host.Calls
import PluginHost.Proofs.Host.Lineage
import PluginHost.Proofs.Host.Isolation
import PluginHost.Proofs.Host.History
import PluginHost.Proofs.Manifest.Registration
import PluginHost.Proofs.Contract.Filling
import PluginHost.Proofs.Contract.Resolution
import PluginHost.Proofs.Contract.Views
import PluginHost.Proofs.Host.Filling
import PluginHost.Proofs.Cache.Uniqueness
import PluginHost.Proofs.Contract.LoadOrder
import PluginHost.Proofs.Cache.Reentry
import PluginHost.Proofs.Allocation.Growth
import PluginHost.Proofs.Allocation.Sizes
import PluginHost.Proofs.Cache.Representation
import PluginHost.Proofs.Cache.Steps
import PluginHost.Proofs.CommandLine.Queries
import PluginHost.Proofs.Profiles.Members
import PluginHost.Proofs.Cache.Dead
import PluginHost.Proofs.Cache.Delay
import PluginHost.Proofs.Contract.Monotone
import PluginHost.Proofs.Manifest.Profiles
import PluginHost.Proofs.Toml.Ordered
import PluginHost.Proofs.Manifest.Decoding
import PluginHost.Proofs.Manifest.Conformance
import PluginHost.Proofs.Allocation.Monotone
import PluginHost.Proofs.Profiles.Text
