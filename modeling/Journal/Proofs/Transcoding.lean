import Journal.Proofs.Document
import Journal.Proofs.Segment.Content
import Journal.Proofs.Segment.Emitter

set_option autoImplicit false

namespace Journal

/-- A segment that scans without a failure comes back from its document byte by byte, up to fill. -/
theorem binary_text_binary_exact {σ τ : Type} [Sink σ] [Sink τ] {holds : σ → List UInt8 → Prop}
    {holds' : τ → List UInt8 → Prop} (keeps : Sink.Keeps holds) (keeps' : Sink.Keeps holds')
    (config config' : Config) (chunked : config'.preallocation ≠ some 0) (bytes : List UInt8)
    (scan : Scan) (scanned : Segment.scan .strict config bytes = .ok scan)
    (unfailed : scan.firstError = none) (sink : σ) (empty : holds sink []) (sink' : τ)
    (empty' : holds' sink' []) :
    ∃ emitter text document, Segment.scanInto .strict config bytes (DocumentEmitter.onto sink) =
        (emitter, .ok scan) ∧ holds emitter.sink text ∧
      Document.read text.toByteArray = .ok document ∧
      ∃ emitter' after more, document.feed (SegmentEmitter.onto config' sink') =
          (emitter', .ok scan.records.length) ∧
        emitter'.finished? = some after ∧
        holds' after (bytes.take scan.trustedEnd ++
          List.replicate (more + 1) Opcode.fillByte) ∧
        (config'.preallocation = none → more = 0) ∧
        equalIgnoringFill bytes (bytes.take scan.trustedEnd ++
          List.replicate (more + 1) Opcode.fillByte) = true := by
  obtain ⟨version, records, fill, written, enough⟩ := Segment.written_of_scan scanned unfailed
  obtain rfl : scan = Segment.cleanScan version records fill := by
    rw [Segment.scan_of_written written enough] at scanned
    exact (Except.ok.inj scanned).symm
  have trusted := written.length
  obtain ⟨full, visited, text⟩ := DocumentEmitter.visit_of_keeps keeps version records empty
  have emitted : Segment.scanInto .strict config bytes (DocumentEmitter.onto sink) =
      (⟨full, records.length, false⟩, .ok (Segment.cleanScan version records fill)) := by
    rw [Segment.scanInto, scanned]
    simp only [Scan.visit, Segment.stream_cleanScan, visited]
  have read : Document.read (Document.written version records).toByteArray =
      .ok ⟨version, records⟩ :=
    Document.read_written written.supported written.ordered (Packed.toList_toByteArray _)
  obtain ⟨emitter', after, more, revisited, finished, -, held, single⟩ :=
    SegmentEmitter.visit_written keeps' written chunked empty'
  rw [show bytes.length - fill = (Segment.cleanScan version records fill).trustedEnd by omega] at held
  refine ⟨_, _, _, emitted, text, read, emitter', after, more, ?_, finished, held, single, ?_⟩
  · rw [Document.feed]
    simp only [Document.stream, revisited, Segment.records_cleanScan]
  · obtain ⟨-, laid, standing, rfl⟩ := Segment.written_iff.mp written
    have front : (version.header ++ laid ++ List.replicate fill Opcode.fillByte).take
        (Segment.cleanScan version records fill).trustedEnd = version.header ++ laid := by
      rw [Segment.trustedEnd_cleanScan standing, ← version.length_header, ← List.length_append,
        List.take_left]
    rw [front]
    exact equalIgnoringFill_append ..

theorem binary_text_binary_deletion :
    ∃ emitter text document emitter' after,
      (Segment.scanInto .strict .standard
        [0xFF, 0xFF, 0xFF, 0xDA, 0x02, 0, 0, 0, 14, 0, 0, 0, 0, 0, 0, 0, 7, 0, 0, 0, 2, 0x2F, 0x61,
          0, 0, 0, 0, 0, 0, 0, 9, 0xFF, 0xFF, 0xFF]
        (DocumentEmitter.onto Buffer.empty)).1 = emitter ∧ emitter.sink.bytes = text ∧
      Document.read text.toByteArray = .ok document ∧
      (document.feed (SegmentEmitter.onto .standard Buffer.empty)).1 = emitter' ∧
      emitter'.finished? = some after ∧
      after.bytes = [0xFF, 0xFF, 0xFF, 0xDA, 0x02, 0, 0, 0, 14, 0, 0, 0, 0, 0, 0, 0, 7, 0, 0, 0, 2,
        0x2F, 0x61, 0, 0, 0, 0, 0, 0, 0, 9, 0xFF] := by
  have written : Segment.Written .unchecksummed [⟨7, ⟨.delete, ⟨"/a", 9⟩⟩⟩] 3
      [0xFF, 0xFF, 0xFF, 0xDA, 0x02, 0, 0, 0, 14, 0, 0, 0, 0, 0, 0, 0, 7, 0, 0, 0, 2, 0x2F, 0x61,
        0, 0, 0, 0, 0, 0, 0, 9, 0xFF, 0xFF, 0xFF] := ⟨by decide, by simp, rfl⟩
  have trusted := written.length
  obtain ⟨emitter, text, document, emitted, kept, read, emitter', after, more, fed, finished, held,
    single, -⟩ := binary_text_binary_exact Buffer.keeps Buffer.keeps .standard .standard (by decide) _
      _ (Segment.scan_of_written written (by decide)) (Segment.firstError_cleanScan ..) Buffer.empty
      rfl Buffer.empty rfl
  rw [single rfl, show Scan.trustedEnd _ = 31 by simpa using trusted] at held
  exact ⟨emitter, text, document, emitter', after, congrArg Prod.fst emitted, kept, read,
    congrArg Prod.fst fed, finished, held⟩

end Journal
