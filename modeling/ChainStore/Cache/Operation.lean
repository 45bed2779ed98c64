import ChainStore.Cache.Change

set_option autoImplicit false
set_option relaxedAutoImplicit false

/-!
The operations of a cache as data, and their answers. A call carries a cancellation flag, looked
at before the storage is touched, and the reading of the clock.
-/

namespace ChainStore.Cache

open Storage

inductive Operation where
  | tipHeight
  | tip
  | setTip (height : Height)
  | acceptBlock (block : Block)
  | putBlock (block : Block)
  | payloadAt (height : Height)
  | blockAt (height : Height)
  | hashAt (height : Height)
  | payloadWithHash (hash : String)
  | blockWithHash (hash : String)
  | removeBlock (height : Height)
  | rollBack (height : Height)
  | addTransaction (transaction : Transaction)
  | transaction (key : TransactionKey)
  | removeTransactions (height : Height)
deriving DecidableEq

inductive Answer where
  | done
  | height (height : Height)
  | tip (tip : Tip)
  | payload (payload : Payload)
  | block (block : Block)
  | hash (hash : String)
  | existed (existed : Bool)
  | count (count : Nat)
  | transaction (transaction : Transaction)
deriving DecidableEq

def Operation.action (now : Int) : Operation → Action Answer
  | .tipHeight => Answer.height <$> Cache.tipHeight
  | .tip => Answer.tip <$> Cache.tip
  | .setTip height => (fun _ => Answer.done) <$> Cache.setTip height now
  | .acceptBlock block => (fun _ => Answer.done) <$> Cache.acceptBlock block now
  | .putBlock block => (fun _ => Answer.done) <$> Cache.putBlock block
  | .payloadAt height => Answer.payload <$> Cache.payloadAt height
  | .blockAt height => Answer.block <$> Cache.blockAt height
  | .hashAt height => Answer.hash <$> Cache.hashAt height
  | .payloadWithHash hash => Answer.payload <$> Cache.payloadWithHash hash
  | .blockWithHash hash => Answer.block <$> Cache.blockWithHash hash
  | .removeBlock height => Answer.existed <$> Cache.removeBlock height
  | .rollBack height => Answer.count <$> Cache.rollBack height now
  | .addTransaction entry => (fun _ => Answer.done) <$> Cache.addTransaction entry
  | .transaction key => Answer.transaction <$> Cache.transaction key
  | .removeTransactions height => Answer.count <$> Cache.removeTransactions height

structure Call where
  operation : Operation
  fired : Bool
  now : Int
deriving DecidableEq

/-- Answers a call. A call whose token has fired is cancelled and touches nothing. -/
def Call.perform (call : Call) (c : Connection) : Except Error Answer × Connection :=
  if call.fired then (.error .cancelled, c) else (call.operation.action call.now).run c

/-- Two calls that meet at one connection. The waiter gets the connection after the holder; if
its token fires while it waits, it is cancelled instead. -/
def contend (holder waiter : Call) (firesMeanwhile : Bool) (c : Connection) :
    (Except Error Answer × Except Error Answer) × Connection :=
  let first := holder.perform c
  let second := { waiter with fired := waiter.fired || firesMeanwhile }.perform first.2
  ((first.1, second.1), second.2)

end ChainStore.Cache
