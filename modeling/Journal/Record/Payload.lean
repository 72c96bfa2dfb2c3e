import Journal.Record.Schema

set_option autoImplicit false

namespace Journal

structure Block where
  blockId : Int64
  numBytes : Int64
  genStamp : Int64
deriving DecidableEq

def Block.schema : Schema Block :=
  (Fields.field "block_id" .i64 <| .field "num_bytes" .i64 <| .field "gen_stamp" .i64 .done).as
    (fun (blockId, numBytes, genStamp, ()) => ⟨blockId, numBytes, genStamp⟩)
    (fun block => (block.blockId, block.numBytes, block.genStamp, ())) |>.schema

structure PermissionStatus where
  username : String
  groupname : String
  mode : UInt16
deriving DecidableEq

def PermissionStatus.schema : Schema PermissionStatus :=
  (Fields.field "username" .text <| .field "groupname" .text <| .field "mode" .u16 .done).as
    (fun (username, groupname, mode, ()) => ⟨username, groupname, mode⟩)
    (fun status => (status.username, status.groupname, status.mode, ())) |>.schema

structure TokenIdentifier where
  owner : String
  renewer : String
  realUser : String
  issueDate : Int64
  maxDate : Int64
  sequenceNumber : Int32
  masterKeyId : Int32
deriving DecidableEq

def TokenIdentifier.schema : Schema TokenIdentifier :=
  (Fields.field "owner" .text <| .field "renewer" .text <| .field "real_user" .text <|
    .field "issue_date" .i64 <| .field "max_date" .i64 <| .field "sequence_number" .i32 <|
    .field "master_key_id" .i32 .done).as
    (fun (owner, renewer, realUser, issueDate, maxDate, sequenceNumber, masterKeyId, ()) =>
      ⟨owner, renewer, realUser, issueDate, maxDate, sequenceNumber, masterKeyId⟩)
    (fun token => (token.owner, token.renewer, token.realUser, token.issueDate, token.maxDate,
      token.sequenceNumber, token.masterKeyId, ())) |>.schema

structure FileStatus where
  path : String
  replication : UInt16
  mtime : Int64
  atime : Int64
  blockSize : Int64
  blocks : List Block
  permissions : PermissionStatus
  clientName : String
  clientMachine : String
deriving DecidableEq

def FileStatus.schema : Schema FileStatus :=
  (Fields.field "path" .text <| .field "replication" .u16 <| .field "mtime" .i64 <|
    .field "atime" .i64 <| .field "block_size" .i64 <|
    .field "blocks" (.list Block.schema) <| .field "permissions" PermissionStatus.schema <|
    .field "client_name" .text <| .field "client_machine" .text .done).as
    (fun (path, replication, mtime, atime, blockSize, blocks, permissions, clientName,
        clientMachine, ()) =>
      ⟨path, replication, mtime, atime, blockSize, blocks, permissions, clientName, clientMachine⟩)
    (fun file => (file.path, file.replication, file.mtime, file.atime, file.blockSize, file.blocks,
      file.permissions, file.clientName, file.clientMachine, ())) |>.schema

/-- The old rename, which never overwrites. -/
structure PlainRename where
  src : String
  dst : String
  timestamp : Int64
deriving DecidableEq

def PlainRename.schema : Schema PlainRename :=
  (Fields.field "src" .text <| .field "dst" .text <| .field "timestamp" .i64 .done).as
    (fun (src, dst, timestamp, ()) => ⟨src, dst, timestamp⟩)
    (fun rename => (rename.src, rename.dst, rename.timestamp, ())) |>.schema

structure Rename where
  src : String
  dst : String
  timestamp : Int64
  overwrite : Bool
deriving DecidableEq

def Rename.schema : Schema Rename :=
  (Fields.field "src" .text <| .field "dst" .text <| .field "timestamp" .i64 <|
    .field "overwrite" .flag .done).as
    (fun (src, dst, timestamp, overwrite, ()) => ⟨src, dst, timestamp, overwrite⟩)
    (fun rename => (rename.src, rename.dst, rename.timestamp, rename.overwrite, ())) |>.schema

structure Deletion where
  path : String
  timestamp : Int64
deriving DecidableEq

def Deletion.schema : Schema Deletion :=
  (Fields.field "path" .text <| .field "timestamp" .i64 .done).as
    (fun (path, timestamp, ()) => ⟨path, timestamp⟩)
    (fun deletion => (deletion.path, deletion.timestamp, ())) |>.schema

structure NewDirectory where
  path : String
  timestamp : Int64
  permissions : PermissionStatus
deriving DecidableEq

def NewDirectory.schema : Schema NewDirectory :=
  (Fields.field "path" .text <| .field "timestamp" .i64 <|
    .field "permissions" PermissionStatus.schema .done).as
    (fun (path, timestamp, permissions, ()) => ⟨path, timestamp, permissions⟩)
    (fun directory => (directory.path, directory.timestamp, directory.permissions, ())) |>.schema

structure Replication where
  path : String
  replication : UInt16
deriving DecidableEq

def Replication.schema : Schema Replication :=
  (Fields.field "path" .text <| .field "replication" .u16 .done).as
    (fun (path, replication, ()) => ⟨path, replication⟩)
    (fun change => (change.path, change.replication, ())) |>.schema

structure Datanode where
  nodeId : String
deriving DecidableEq

def Datanode.schema : Schema Datanode :=
  (Fields.field "node_id" .text .done).as (fun (nodeId, ()) => ⟨nodeId⟩)
    (fun node => (node.nodeId, ())) |>.schema

structure ModeChange where
  src : String
  mode : UInt16
deriving DecidableEq

def ModeChange.schema : Schema ModeChange :=
  (Fields.field "src" .text <| .field "mode" .u16 .done).as (fun (src, mode, ()) => ⟨src, mode⟩)
    (fun change => (change.src, change.mode, ())) |>.schema

structure OwnerChange where
  src : String
  username : Option String
  groupname : Option String
deriving DecidableEq

def OwnerChange.schema : Schema OwnerChange :=
  (Fields.field "src" .text <| .field "username" (.optional .text) <|
    .field "groupname" (.optional .text) .done).as
    (fun (src, username, groupname, ()) => ⟨src, username, groupname⟩)
    (fun change => (change.src, change.username, change.groupname, ())) |>.schema

structure GenerationStamp where
  genStamp : Int64
deriving DecidableEq

def GenerationStamp.schema : Schema GenerationStamp :=
  (Fields.field "gen_stamp" .i64 .done).as (fun (genStamp, ()) => ⟨genStamp⟩)
    (fun stamp => (stamp.genStamp, ())) |>.schema

structure NamespaceQuota where
  src : String
  nsQuota : Int64
deriving DecidableEq

def NamespaceQuota.schema : Schema NamespaceQuota :=
  (Fields.field "src" .text <| .field "ns_quota" .i64 .done).as
    (fun (src, nsQuota, ()) => ⟨src, nsQuota⟩)
    (fun quota => (quota.src, quota.nsQuota, ())) |>.schema

structure QuotaRemoval where
  src : String
deriving DecidableEq

def QuotaRemoval.schema : Schema QuotaRemoval :=
  (Fields.field "src" .text .done).as (fun (src, ()) => ⟨src⟩)
    (fun removal => (removal.src, ())) |>.schema

structure Times where
  path : String
  mtime : Int64
  atime : Int64
deriving DecidableEq

def Times.schema : Schema Times :=
  (Fields.field "path" .text <| .field "mtime" .i64 <| .field "atime" .i64 .done).as
    (fun (path, mtime, atime, ()) => ⟨path, mtime, atime⟩)
    (fun times => (times.path, times.mtime, times.atime, ())) |>.schema

structure Quota where
  src : String
  nsQuota : Int64
  dsQuota : Int64
deriving DecidableEq

def Quota.schema : Schema Quota :=
  (Fields.field "src" .text <| .field "ns_quota" .i64 <| .field "ds_quota" .i64 .done).as
    (fun (src, nsQuota, dsQuota, ()) => ⟨src, nsQuota, dsQuota⟩)
    (fun quota => (quota.src, quota.nsQuota, quota.dsQuota, ())) |>.schema

structure Concatenation where
  target : String
  sources : List String
  timestamp : Int64
deriving DecidableEq

def Concatenation.schema : Schema Concatenation :=
  (Fields.field "target" .text <| .field "sources" (.list .text) <|
    .field "timestamp" .i64 .done).as
    (fun (target, sources, timestamp, ()) => ⟨target, sources, timestamp⟩)
    (fun concatenation =>
      (concatenation.target, concatenation.sources, concatenation.timestamp, ())) |>.schema

structure Symlink where
  path : String
  value : String
  mtime : Int64
  atime : Int64
  permissions : PermissionStatus
deriving DecidableEq

def Symlink.schema : Schema Symlink :=
  (Fields.field "path" .text <| .field "value" .text <| .field "mtime" .i64 <|
    .field "atime" .i64 <| .field "permissions" PermissionStatus.schema .done).as
    (fun (path, value, mtime, atime, permissions, ()) => ⟨path, value, mtime, atime, permissions⟩)
    (fun link => (link.path, link.value, link.mtime, link.atime, link.permissions, ())) |>.schema

structure TokenLease where
  token : TokenIdentifier
  expiryTime : Int64
deriving DecidableEq

def TokenLease.schema : Schema TokenLease :=
  (Fields.field "token" TokenIdentifier.schema <| .field "expiry_time" .i64 .done).as
    (fun (token, expiryTime, ()) => ⟨token, expiryTime⟩)
    (fun lease => (lease.token, lease.expiryTime, ())) |>.schema

structure TokenCancellation where
  token : TokenIdentifier
deriving DecidableEq

def TokenCancellation.schema : Schema TokenCancellation :=
  (Fields.field "token" TokenIdentifier.schema .done).as (fun (token, ()) => ⟨token⟩)
    (fun cancellation => (cancellation.token, ())) |>.schema

structure MasterKey where
  keyId : Int32
  expiryDate : Int64
  key : List UInt8
deriving DecidableEq

def MasterKey.schema : Schema MasterKey :=
  (Fields.field "key_id" .i32 <| .field "expiry_date" .i64 <| .field "key" .blob .done).as
    (fun (keyId, expiryDate, key, ()) => ⟨keyId, expiryDate, key⟩)
    (fun master => (master.keyId, master.expiryDate, master.key, ())) |>.schema

structure LeaseTransfer where
  leaseHolder : String
  path : String
  newHolder : String
deriving DecidableEq

def LeaseTransfer.schema : Schema LeaseTransfer :=
  (Fields.field "lease_holder" .text <| .field "path" .text <|
    .field "new_holder" .text .done).as
    (fun (leaseHolder, path, newHolder, ()) => ⟨leaseHolder, path, newHolder⟩)
    (fun transfer => (transfer.leaseHolder, transfer.path, transfer.newHolder, ())) |>.schema

structure BlockList where
  path : String
  blocks : List Block
deriving DecidableEq

def BlockList.schema : Schema BlockList :=
  (Fields.field "path" .text <| .field "blocks" (.list Block.schema) .done).as
    (fun (path, blocks, ()) => ⟨path, blocks⟩)
    (fun list => (list.path, list.blocks, ())) |>.schema

end Journal
