import Journal.Opcode
import Journal.Record.Payload

set_option autoImplicit false

namespace Journal

namespace Opcode

/-- The end marker carries no payload, so no operation has its opcode. -/
abbrev Payload : Opcode → Type
  | .add | .close => FileStatus
  | .renameOld => PlainRename
  | .delete => Deletion
  | .mkdir => NewDirectory
  | .setReplication => Replication
  | .datanodeAdd | .datanodeRemove => Datanode
  | .setPermissions => ModeChange
  | .setOwner => OwnerChange
  | .setGenstamp => GenerationStamp
  | .setNsQuota => NamespaceQuota
  | .clearNsQuota => QuotaRemoval
  | .times => Times
  | .setQuota => Quota
  | .rename => Rename
  | .concatDelete => Concatenation
  | .symlink => Symlink
  | .getDelegationToken | .renewDelegationToken => TokenLease
  | .cancelDelegationToken => TokenCancellation
  | .updateMasterKey => MasterKey
  | .reassignLease => LeaseTransfer
  | .endLogSegment | .startLogSegment => Unit
  | .updateBlocks => BlockList
  | .invalid => Empty

def schema : (opcode : Opcode) → Schema opcode.Payload
  | .add | .close => FileStatus.schema
  | .renameOld => PlainRename.schema
  | .delete => Deletion.schema
  | .mkdir => NewDirectory.schema
  | .setReplication => Replication.schema
  | .datanodeAdd | .datanodeRemove => Datanode.schema
  | .setPermissions => ModeChange.schema
  | .setOwner => OwnerChange.schema
  | .setGenstamp => GenerationStamp.schema
  | .setNsQuota => NamespaceQuota.schema
  | .clearNsQuota => QuotaRemoval.schema
  | .times => Times.schema
  | .setQuota => Quota.schema
  | .rename => Rename.schema
  | .concatDelete => Concatenation.schema
  | .symlink => Symlink.schema
  | .getDelegationToken | .renewDelegationToken => TokenLease.schema
  | .cancelDelegationToken => TokenCancellation.schema
  | .updateMasterKey => MasterKey.schema
  | .reassignLease => LeaseTransfer.schema
  | .endLogSegment | .startLogSegment => .boundary
  | .updateBlocks => BlockList.schema
  | .invalid => .nothing

instance (opcode : Opcode) : DecidableEq opcode.Payload := by
  cases opcode <;> exact inferInstance

end Opcode

structure Operation where
  opcode : Opcode
  payload : opcode.Payload
deriving DecidableEq

namespace Operation

def startSegment : Operation := ⟨.startLogSegment, ()⟩

def endSegment : Operation := ⟨.endLogSegment, ()⟩

def body (operation : Operation) : List UInt8 := operation.opcode.schema.put operation.payload

def packedBody (operation : Operation) : ByteArray :=
  operation.opcode.schema.push .empty operation.payload

@[simp] theorem toList_packedBody (operation : Operation) :
    Packed.toList operation.packedBody = operation.body := by
  simp [packedBody, body, Schema.toList_push]

@[simp] theorem size_packedBody (operation : Operation) :
    operation.packedBody.size = operation.body.length := by
  rw [← toList_packedBody, Packed.length_toList]

end Operation

structure Record where
  txid : UInt64
  operation : Operation
deriving DecidableEq

def Record.opcode (record : Record) : Opcode := record.operation.opcode

end Journal
