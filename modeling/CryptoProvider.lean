import CryptoProvider.Key.Standard
import CryptoProvider.Locking.Contention
import CryptoProvider.Proofs.Triple
import CryptoProvider.Scenario.Rehearsal
import CryptoProvider.Scenario.Survey
import CryptoProvider.Proofs.Ledger.Accounts
import CryptoProvider.Proofs.Ledger.Engine
import CryptoProvider.Proofs.Ledger.Hardware
import CryptoProvider.Proofs.Ledger.Bridge
import CryptoProvider.Proofs.Factory.Shelf
import CryptoProvider.Proofs.Factory.Custody
import CryptoProvider.Proofs.Factory.Building
import CryptoProvider.Proofs.Factory.Following
import CryptoProvider.Proofs.Factory.Lifecycle
import CryptoProvider.Proofs.Factory.Products
import CryptoProvider.Proofs.Factory.Run
import CryptoProvider.Proofs.Factory.Accounting
import CryptoProvider.Proofs.Factory.StaleHandle
import CryptoProvider.Proofs.Factory.SharedSlots
import CryptoProvider.Proofs.Ledger.Releases
import CryptoProvider.Proofs.Factory.TeardownOrder
import CryptoProvider.Proofs.Factory.Inertia
import CryptoProvider.Proofs.Factory.BestEffort
import CryptoProvider.Proofs.Transport.Loading
import CryptoProvider.Proofs.Command.BringUp
import CryptoProvider.Proofs.Ledger.Calm
import CryptoProvider.Proofs.Transport.Slot
import CryptoProvider.Proofs.Renaming.Platform
import CryptoProvider.Proofs.Renaming.Transport
import CryptoProvider.Proofs.Transport.Atomicity
import CryptoProvider.Proofs.Factory.Passing
import CryptoProvider.Proofs.Factory.Restoring
import CryptoProvider.Proofs.Factory.Restored
import CryptoProvider.Proofs.Renaming.Engine
import CryptoProvider.Proofs.Renaming.Hardware
import CryptoProvider.Proofs.Renaming.Bridge
import CryptoProvider.Proofs.Renaming.Factory
import CryptoProvider.Proofs.Factory.Cycles
import CryptoProvider.Proofs.Locking.History
import CryptoProvider.Proofs.Locking.Pools
import CryptoProvider.Proofs.Locking.Newest
import CryptoProvider.Proofs.Locking.Callbacks
import CryptoProvider.Proofs.Locking.Overlap
import CryptoProvider.Proofs.Locking.Exclusion
import CryptoProvider.Proofs.Command.Ownership
import CryptoProvider.Proofs.Factory.Agreement
import CryptoProvider.Proofs.Product.Streaming
import CryptoProvider.Proofs.Cipher.Inverse
import CryptoProvider.Proofs.Config.Locality
import CryptoProvider.Proofs.Product.Verification
import CryptoProvider.Proofs.Traffic.Moves
import CryptoProvider.Proofs.Traffic.Calls
import CryptoProvider.Proofs.Traffic.Order
import CryptoProvider.Proofs.Traffic.Attribution
import CryptoProvider.Proofs.Traffic.Release
import CryptoProvider.Proofs.Traffic.Lifetime
import CryptoProvider.Proofs.Traffic.Extension
import CryptoProvider.Proofs.Command.Teardown
import CryptoProvider.Proofs.Transport.Sizing
import CryptoProvider.Proofs.Command.Sizing
import CryptoProvider.Proofs.Engine.Attachment
import CryptoProvider.Proofs.Engine.References
import CryptoProvider.Proofs.Cipher.Buffering
import CryptoProvider.Proofs.Cipher.Acceptance
import CryptoProvider.Proofs.Cipher.Keying
import CryptoProvider.Proofs.Product.Buffers
import CryptoProvider.Proofs.Transport.Resolution
import CryptoProvider.Proofs.Config.Grammar
import CryptoProvider.Proofs.Key.Rsa
import CryptoProvider.Proofs.Locking.HeldSet
import CryptoProvider.Proofs.Product.Signatures
