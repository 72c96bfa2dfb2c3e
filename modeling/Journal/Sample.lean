import Journal.Segment.Writer
import Journal.Storage.Name

set_option autoImplicit false

namespace Journal

namespace Sample

def baseTime : Int64 := 1330000000000

def day : Int64 := 86400000

def week : Int64 := 604800000

def permissions (mode : UInt16) : PermissionStatus := ⟨"hdfs", "supergroup", mode⟩

def block (seq index : Int64) : Block :=
  ⟨1073741825 + seq * 10 + index, 512 * (index + 1), 1001 + seq⟩

def token (seq : Int64) : TokenIdentifier :=
  ⟨"alice", "JobTracker", "", baseTime + seq, baseTime + seq + week, seq.toInt32, 2⟩

def path (name : String) (seq : Int64) : String := "/gen/" ++ name ++ toString seq.toInt

def openFile (seq : Int64) : FileStatus :=
  ⟨path "file" seq, 3, baseTime + seq, baseTime + seq, 64 * 1024 * 1024, [], permissions 0o644,
    "DFSClient_1", "127.0.0.1"⟩

def closedFile (seq : Int64) : FileStatus :=
  ⟨path "file" seq, 3, baseTime + seq, baseTime + seq, 64 * 1024 * 1024, [block seq 0, block seq 1],
    permissions 0o644, "", ""⟩

def key (seq : Int64) : List UInt8 :=
  (List.range 20).map fun i => UInt8.ofNat i * 37 + seq.toUInt64.toUInt8

end Sample

open Sample in
def Operation.sample? (opcode : Opcode) (seq : Int64) : Option Operation :=
  let time := baseTime + seq
  match opcode with
  | .add => some ⟨.add, openFile seq⟩
  | .renameOld => some ⟨.renameOld, ⟨path "file" seq, path "renamed_old" seq, time⟩⟩
  | .delete => some ⟨.delete, ⟨path "renamed" seq, time⟩⟩
  | .mkdir => some ⟨.mkdir, ⟨path "dir" seq, time, permissions 0o755⟩⟩
  | .setReplication => some ⟨.setReplication, ⟨path "file" seq, 1⟩⟩
  | .datanodeAdd => some ⟨.datanodeAdd, ⟨"dn-" ++ toString seq.toInt⟩⟩
  | .datanodeRemove => some ⟨.datanodeRemove, ⟨"dn-" ++ toString seq.toInt⟩⟩
  | .setPermissions => some ⟨.setPermissions, ⟨path "file" seq, 0o600⟩⟩
  | .setOwner => some ⟨.setOwner, ⟨path "file" seq, some "bob", none⟩⟩
  | .close => some ⟨.close, closedFile seq⟩
  | .setGenstamp => some ⟨.setGenstamp, ⟨1001 + seq⟩⟩
  | .setNsQuota => some ⟨.setNsQuota, ⟨path "dir" seq, 1000⟩⟩
  | .clearNsQuota => some ⟨.clearNsQuota, ⟨path "dir" seq⟩⟩
  | .times => some ⟨.times, ⟨path "file" seq, time, time + 1⟩⟩
  | .setQuota => some ⟨.setQuota, ⟨path "dir" seq, 1000, -1⟩⟩
  | .rename => some ⟨.rename, ⟨path "renamed_old" seq, path "renamed" seq, time, true⟩⟩
  | .concatDelete =>
    some ⟨.concatDelete,
      ⟨path "concat_target" seq, [path "concat_0" seq, path "concat_1" seq], time⟩⟩
  | .symlink =>
    some ⟨.symlink, ⟨path "link" seq, path "file" seq, time, time, permissions 0o777⟩⟩
  | .getDelegationToken => some ⟨.getDelegationToken, ⟨token seq, time + day⟩⟩
  | .renewDelegationToken => some ⟨.renewDelegationToken, ⟨token seq, time + 2 * day⟩⟩
  | .cancelDelegationToken => some ⟨.cancelDelegationToken, ⟨token seq⟩⟩
  | .updateMasterKey => some ⟨.updateMasterKey, ⟨2, time + day, key seq⟩⟩
  | .reassignLease =>
    some ⟨.reassignLease, ⟨"DFSClient_1", path "file" seq, "HDFS_NameNode"⟩⟩
  | .endLogSegment => some .endSegment
  | .startLogSegment => some .startSegment
  | .updateBlocks => some ⟨.updateBlocks, ⟨path "file" seq, [block seq 0]⟩⟩
  | .invalid => none

namespace Sample

def operations : List Operation :=
  let live := Opcode.all.zipIdx.filter fun (opcode, _) => !opcode.isObsolete && !opcode.isBoundary
  [.startSegment] ++ live.filterMap (fun (opcode, seq) => Operation.sample? opcode (Int64.ofNat seq)) ++
    [.endSegment]

end Sample

namespace SegmentWriter

variable {σ : Type} [Sink σ]

def appendAll (last : UInt64) :
    List Operation → SegmentWriter σ → SegmentWriter σ × Except Error UInt64
  | [], writer => (writer, .ok last)
  | operation :: rest, writer =>
    match writer.append operation with
    | (writer, .ok txid) => appendAll txid rest writer
    | (writer, .error error) => (writer, .error error)

def appendSamples (writer : SegmentWriter σ) : SegmentWriter σ × Except Error UInt64 :=
  appendAll 0 Sample.operations writer

end SegmentWriter

def Storage.writeSample (storage : Storage) (name : FileName) (config : Config) :
    Storage × Except Error UInt64 :=
  match storage.createNamed name with
  | .error fault => (storage, .error (.ofStorage fault))
  | .ok (storage, id) =>
    match SegmentWriter.start config (OpenFile.mk storage (.opened id)) with
    | .error (error, file) => (file.storage, .error error)
    | .ok writer =>
      match writer.appendSamples with
      | (writer, .error error) => (writer.sink.writePending.storage, .error error)
      | (writer, .ok txid) =>
        match writer.close with
        | (file, .ok ()) => (file.storage, .ok txid)
        | (file, .error error) => (file.storage, .error error)

end Journal
