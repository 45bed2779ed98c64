set_option autoImplicit false
set_option relaxedAutoImplicit false

/-!
What the cache keeps: blocks by height, raw transactions, and the tip that names the height
reached so far.
-/

namespace ChainStore

abbrev Height := UInt32

abbrev Payload := List UInt8

structure Block where
  height : Height
  hash : String
  prevHash : String
  sapling : Bool
  payload : Payload
deriving DecidableEq

/-- A raw transaction, tied to its block by height and by hash, neither of which is checked. -/
structure Transaction where
  blockHeight : Height
  blockHash : String
  index : UInt32
  hash : String
  payload : Payload
deriving DecidableEq

/-- The height reached so far and the second of the Unix clock at which it was written. -/
structure Tip where
  height : Height
  updatedAt : Int
deriving DecidableEq

end ChainStore
