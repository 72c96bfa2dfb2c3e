import Journal.Segment.Writer
import Journal.Visitor

set_option autoImplicit false

namespace Journal

abbrev Merger := (image : List UInt8) → (segments : List (List UInt8)) → Config →
  Except Error (List UInt8)

namespace Merger

def substance (config : Config) (bytes : List UInt8) : Except Error (List Record) := do
  let (records, scan) ← Segment.readAll .strict config bytes
  let _ ← scan.check
  return records.filter fun record => !record.opcode.isBoundary

def appendAll {σ : Type} [Sink σ] :
    List Record → SegmentWriter σ → Except Error (SegmentWriter σ)
  | [], writer => .ok writer
  | record :: rest, writer =>
    match writer.appendRecord record with
    | (writer, .ok ()) => appendAll rest writer
    | (_, .error error) => .error error

def appendSegment {σ : Type} [Sink σ] (config : Config) (writer : SegmentWriter σ)
    (bytes : List UInt8) : Except Error (SegmentWriter σ) := do
  appendAll (← substance config bytes) writer

def consolidate : Merger := fun image segments config =>
  match SegmentWriter.start config Buffer.empty with
  | .error (error, _) => .error error
  | .ok writer => do
    let writer ← (image :: segments).foldlM (appendSegment config) writer
    match writer.close with
    | (buffer, .ok ()) => return buffer.bytes
    | (_, .error error) => throw error

end Merger

end Journal
