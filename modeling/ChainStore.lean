import ChainStore.Main
import ChainStore.Proofs.Cache.Hashes
import ChainStore.Proofs.Cache.Independence
import ChainStore.Proofs.Cache.Rollback
import ChainStore.Proofs.Cache.RollbackComposition
import ChainStore.Proofs.Cache.TipHistory
import ChainStore.Proofs.Cache.Transactions
import ChainStore.Proofs.CommandLine.Frame
import ChainStore.Proofs.CommandLine.Override
import ChainStore.Proofs.Files.Reopening
import ChainStore.Proofs.Range.Pointwise
import ChainStore.Proofs.Range.Projections
import ChainStore.Proofs.Range.Provenance
import ChainStore.Proofs.Range.ReadBack
import ChainStore.Proofs.Session.Cancellation
import ChainStore.Proofs.Session.Crashes
import ChainStore.Proofs.Session.Handles
import ChainStore.Proofs.Session.RangeLimits
import ChainStore.Proofs.Session.Sight
import ChainStore.Proofs.Session.Tip
import ChainStore.Proofs.Session.Unchanged
