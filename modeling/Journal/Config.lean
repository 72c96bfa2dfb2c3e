import Journal.Error

set_option autoImplicit false

namespace Journal

inductive SyncPolicy
  | everyWrite
  | everyRecords (count : Nat)
deriving DecidableEq, Repr

def SyncPolicy.isDue : SyncPolicy → (unsynced : Nat) → Bool
  | .everyWrite, _ => true
  | .everyRecords count, unsynced => count ≤ unsynced

structure ResyncPolicy where
  window : Nat
  run : Nat
deriving DecidableEq, Repr

structure Config where
  layoutVersion : LayoutVersion
  sync : SyncPolicy
  /-- Closed segments are padded to a multiple of this many bytes. -/
  preallocation : Option Nat
  resync : ResyncPolicy
  /-- Whether a strict scan takes a missing end marker for a truncation. -/
  requireEndMarker : Bool
deriving DecidableEq

namespace Config

def standard : Config :=
  ⟨.current, .everyRecords 100, none, ⟨64 * 1024, 2⟩, true⟩

def check (config : Config) : Except Error Config :=
  if config.resync.run = 0 then .error (.config .zeroResyncRun)
  else if config.preallocation = some 0 then .error (.config .zeroPreallocation)
  else if config.sync = .everyRecords 0 then .error (.config .zeroSyncCount)
  else .ok config

end Config

end Journal
