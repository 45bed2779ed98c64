import ChainStore.Cache.Lookup

set_option autoImplicit false
set_option relaxedAutoImplicit false

/-!
Changing a cache, and laying one out. The plain changes touch one table each. Accepting a block and
rolling back change several tables as one unit, so that the tip keeps step with the blocks. A file
without a recorded version of the layout is given its tables; a file with one has to have this
version.
-/

namespace ChainStore.Cache

open Storage

def setTip (height : Height) (now : Int) : Action Unit :=
  during (.settingTip height) (writeTip height now)

def putBlock (block : Block) : Action Unit :=
  during (.writingBlock block.height block.hash) (putBlockRow (.ofBlock block))

def removeBlock (height : Height) : Action Bool := do
  let removed ← during (.deletingBlock height)
    (removeBlockRows (fun row => row.height == height.toNat))
  return decide (0 < removed)

/-- Stores a transaction behind all others; equal ones are kept side by side. -/
def addTransaction (transaction : Transaction) : Action Unit :=
  during (.writingTransaction transaction.hash transaction.blockHeight transaction.index)
    (addTransactionRow (.ofTransaction transaction))

def removeTransactions (height : Height) : Action Nat :=
  during (.deletingTransactions height)
    (removeTransactionRows (fun row => row.blockHeight.equalsInt height.toNat))

def raiseTip (height : Height) (now : Int) : Statement Unit := do
  match ← query Database.tipHeight with
  | some current => if height ≤ current then pure () else writeTip height now
  | none => writeTip height now

def acceptBlock (block : Block) (now : Int) : Action Unit := Task.atomically do
  during (.startingWrite block.height) beginWrite
  during (.writingBlock block.height block.hash) (putBlockRow (.ofBlock block))
  following block.height (raiseTip block.height now)

/-- Lowers a tip above `height` to the highest block left, or removes it when none is left. -/
def lowerTip (height : Height) (now : Int) : Statement Unit := do
  match ← query Database.tipHeight with
  | some current =>
    if height < current then
      match ← query Database.highestBlock with
      | some top => writeTip top now
      | none => clearTip
    else pure ()
  | none => pure ()

/-- Removes all blocks and transactions above a height, lowers the tip, and counts the blocks
removed. -/
def rollBack (height : Height) (now : Int) : Action Nat := Task.atomically do
  during (.startingRollback height) beginWrite
  let removed ← during (.deletingBlocksAbove height)
    (removeBlockRows (fun row => decide ((height.toNat : Int) < row.height)))
  let _ ← during (.deletingTransactionsAbove height)
    (removeTransactionRows (fun row => row.blockHeight.above height.toNat))
  following height (lowerTip height now)
  return removed

end ChainStore.Cache

namespace ChainStore.Cache.Layout

open Storage

def version : UInt32 := 1

def versionText : String := toString version

/-- Creates the tables and records the version, all or nothing. No table may be there before. -/
def create : Action Unit := Task.atomically do
  during (.creatingLayout version) do
    createTable .tip
    createTable .blocks
    createTable .transactions
  during .recordingVersion (recordVersion versionText)

/-- Creates the layout where no version is recorded, else insists on the version. -/
def conform : Action Unit := do
  match ← during .readingVersion (query Database.recordedVersion) with
  | none => create
  | some text => if text = versionText then pure () else .fail (.layoutMismatch text version)

def prepare : Action Unit := do
  during .creatingMetadata (ensureTable .metadata)
  conform

def fresh : Connection := (prepare.run (.ofDatabase .blank)).2

end ChainStore.Cache.Layout
