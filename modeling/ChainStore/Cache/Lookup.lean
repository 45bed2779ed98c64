import ChainStore.Error
import ChainStore.Storage.Statement

set_option autoImplicit false
set_option relaxedAutoImplicit false

/-!
Reading a cache. What is done to a cache is made of statements whose faults are reported together
with what was being done. Each lookup reads only the columns that it hands over, so a damaged value
spoils the lookups that need it and no other.
-/

namespace ChainStore.Cache

open Storage

abbrev Action (α : Type) : Type := Task Error α

def during {α : Type} (activity : Activity) (statement : Statement α) : Action α :=
  statement.mapFailure (Error.storage activity)

/-- Runs the part of a change that moves the tip; its fault is one of consistency. -/
def following {α : Type} (height : Height) (statement : Statement α) : Action α :=
  statement.mapFailure (Error.consistency height)

def found {α : Type} (subject : Subject) : Option α → Action α
  | some a => pure a
  | none => .fail (.notFound subject)

def tipHeight : Action Height := do
  found .tip (← during .readingTipHeight (query Database.tipHeight))

def tip : Action Tip := do
  found .tip (← during .readingTip (query Database.wholeTip))

def payloadAt (height : Height) : Action Payload := do
  found (.blockAt height) (← during (.readingBlock height) (query (Database.payloadAt height)))

def blockAt (height : Height) : Action Block := do
  found (.blockAt height) (← during (.readingBlock height) (query (Database.blockAt height)))

def hashAt (height : Height) : Action String := do
  found (.blockAt height) (← during (.readingHash height) (query (Database.hashAt height)))

/-- The block with a hash, at the greatest height that carries it. -/
def blockWithHash (hash : String) : Action Block := do
  found (.blockWithHash hash)
    (← during (.readingBlockByHash hash) (query (Database.blockWithHash hash)))

/-- The payload of the block with a hash; the whole block has to be readable. -/
def payloadWithHash (hash : String) : Action Payload := do
  return (← blockWithHash hash).payload

def names (key : TransactionKey) (row : TransactionRow) : Bool :=
  match key with
  | .hash value => row.hash.isText value
  | .position height index =>
    row.blockHeight.equalsInt height.toNat && row.index.equalsInt index.toNat
  | .inBlock blockHash index => row.blockHash.isText blockHash && row.index.equalsInt index.toNat

/-- The transaction that a key names; of several the one stored last. -/
def transaction (key : TransactionKey) : Action Transaction := do
  found (.transaction key)
    (← during (.readingTransaction key) (query (Database.newestTransaction (names key))))

def payloadForRange (height : Height) : Action (Option Payload) :=
  during (.readingForRange height) (query (Database.payloadAt height))

def rangeRead (c : Connection) (height : Height) : Except Error (Option Payload) :=
  ((payloadForRange height).run c).1

end ChainStore.Cache
