import ChainStore.Error

set_option autoImplicit false
set_option relaxedAutoImplicit false

/-!
The settings of a cache: where its file is, how long to wait for a lock, how wide a range may be
and how far its producer may run ahead.
-/

namespace ChainStore

structure FileSettings where
  path : String := "./data/blocks.sqlite"
  busyTimeoutMs : UInt64 := 5000
deriving DecidableEq

structure Limits where
  maxRangeSpan : UInt32 := 10000
  streamBuffer : UInt64 := 32
deriving DecidableEq

structure Settings where
  file : FileSettings := {}
  limits : Limits := {}
deriving DecidableEq

def Settings.validate (settings : Settings) : Except Error Unit :=
  if settings.file.path.isEmpty then .error (.settings .pathUnset)
  else if settings.limits.maxRangeSpan = 0 then .error (.settings .spanZero)
  else if settings.limits.streamBuffer = 0 then .error (.settings .bufferZero)
  else .ok ()

end ChainStore
