import Journal.Text.Hex

set_option autoImplicit false

namespace Journal

/-- The live and obsolete operations in code order, then the marker that ends a segment. -/
inductive Opcode
  | add | renameOld | delete | mkdir | setReplication | datanodeAdd | datanodeRemove
  | setPermissions | setOwner | close | setGenstamp | setNsQuota | clearNsQuota | times | setQuota
  | rename | concatDelete | symlink | getDelegationToken | renewDelegationToken
  | cancelDelegationToken | updateMasterKey | reassignLease | endLogSegment | startLogSegment
  | updateBlocks | invalid
deriving DecidableEq, Repr, Inhabited

namespace Opcode

def all : List Opcode :=
  [.add, .renameOld, .delete, .mkdir, .setReplication, .datanodeAdd, .datanodeRemove,
    .setPermissions, .setOwner, .close, .setGenstamp, .setNsQuota, .clearNsQuota, .times, .setQuota,
    .rename, .concatDelete, .symlink, .getDelegationToken, .renewDelegationToken,
    .cancelDelegationToken, .updateMasterKey, .reassignLease, .endLogSegment, .startLogSegment,
    .updateBlocks, .invalid]

/-- The byte of the end marker, also the fill that may follow it. -/
def fillByte : UInt8 := 0xFF

def toByte : Opcode → UInt8
  | .add => 0x00
  | .renameOld => 0x01
  | .delete => 0x02
  | .mkdir => 0x03
  | .setReplication => 0x04
  | .datanodeAdd => 0x05
  | .datanodeRemove => 0x06
  | .setPermissions => 0x07
  | .setOwner => 0x08
  | .close => 0x09
  | .setGenstamp => 0x0A
  | .setNsQuota => 0x0B
  | .clearNsQuota => 0x0C
  | .times => 0x0D
  | .setQuota => 0x0E
  | .rename => 0x0F
  | .concatDelete => 0x10
  | .symlink => 0x11
  | .getDelegationToken => 0x12
  | .renewDelegationToken => 0x13
  | .cancelDelegationToken => 0x14
  | .updateMasterKey => 0x15
  | .reassignLease => 0x16
  | .endLogSegment => 0x17
  | .startLogSegment => 0x18
  | .updateBlocks => 0x19
  | .invalid => fillByte

def name : Opcode → String
  | .add => "OP_ADD"
  | .renameOld => "OP_RENAME_OLD"
  | .delete => "OP_DELETE"
  | .mkdir => "OP_MKDIR"
  | .setReplication => "OP_SET_REPLICATION"
  | .datanodeAdd => "OP_DATANODE_ADD"
  | .datanodeRemove => "OP_DATANODE_REMOVE"
  | .setPermissions => "OP_SET_PERMISSIONS"
  | .setOwner => "OP_SET_OWNER"
  | .close => "OP_CLOSE"
  | .setGenstamp => "OP_SET_GENSTAMP"
  | .setNsQuota => "OP_SET_NS_QUOTA"
  | .clearNsQuota => "OP_CLEAR_NS_QUOTA"
  | .times => "OP_TIMES"
  | .setQuota => "OP_SET_QUOTA"
  | .rename => "OP_RENAME"
  | .concatDelete => "OP_CONCAT_DELETE"
  | .symlink => "OP_SYMLINK"
  | .getDelegationToken => "OP_GET_DELEGATION_TOKEN"
  | .renewDelegationToken => "OP_RENEW_DELEGATION_TOKEN"
  | .cancelDelegationToken => "OP_CANCEL_DELEGATION_TOKEN"
  | .updateMasterKey => "OP_UPDATE_MASTER_KEY"
  | .reassignLease => "OP_REASSIGN_LEASE"
  | .endLogSegment => "OP_END_LOG_SEGMENT"
  | .startLogSegment => "OP_START_LOG_SEGMENT"
  | .updateBlocks => "OP_UPDATE_BLOCKS"
  | .invalid => "OP_INVALID"

def ofByte? (byte : UInt8) : Option Opcode := all.find? (·.toByte == byte)

def ofName? (text : String) : Option Opcode := all.find? (·.name == text)

/-- Still read from old segments, no longer written. -/
def isObsolete : Opcode → Bool
  | .datanodeAdd | .datanodeRemove | .setNsQuota | .clearNsQuota => true
  | _ => false

def obsolete : List Opcode := all.filter isObsolete

def isBoundary : Opcode → Bool
  | .startLogSegment | .endLogSegment => true
  | _ => false

def recorded : List Opcode := all.filter (· ≠ .invalid)

theorem mem_all (opcode : Opcode) : opcode ∈ all := by cases opcode <;> decide

theorem ofByte?_toByte (opcode : Opcode) : ofByte? opcode.toByte = some opcode := by
  cases opcode <;> decide

theorem ofName?_name (opcode : Opcode) : ofName? opcode.name = some opcode := by
  cases opcode <;> decide

end Opcode

end Journal
