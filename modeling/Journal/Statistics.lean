import Journal.Json.Printer
import Journal.Visitor

set_option autoImplicit false

namespace Journal

structure Tally where
  counts : List (Opcode × Nat)
  finalized : Bool
  scanError : Option DecodeError

namespace Tally

def empty : Tally := ⟨Opcode.all.map (·, 0), false, none⟩

def count (tally : Tally) (opcode : Opcode) : Nat := (tally.counts.lookup opcode).getD 0

def add (tally : Tally) (opcode : Opcode) : Tally :=
  { tally with
    counts := tally.counts.map fun entry =>
      if entry.1 = opcode then (entry.1, entry.2 + 1) else entry }

def total (tally : Tally) : Nat := tally.counts.foldr (·.2 + ·) 0

instance : Visitor Tally where
  onOpen _ tally := (tally, .ok ())
  consume record tally := (tally.add record.opcode, .ok ())
  onClose error tally := ({ tally with scanError := error, finalized := true }, .ok ())

def missing (tally : Tally) (excluded : List Opcode) : List Opcode :=
  Opcode.recorded.filter fun opcode => !excluded.contains opcode && tally.count opcode == 0

def isComplete (tally : Tally) (excluded : List Opcode) : Bool := (tally.missing excluded).isEmpty

def table (tally : Tally) : String :=
  String.join <| Opcode.recorded.map fun opcode =>
    let name := String.ofList (opcode.name.toList.rightpad 30 (Char.ofNat 0x20))
    let code := String.ofList ((Nat.toDigits 10 opcode.toByte.toNat).leftpad 3 (Char.ofNat 0x20))
    s!"    {name} ({code}): {tally.count opcode}\n"

end Tally

structure StatisticsReport where
  counts : List (Opcode × Nat)
  complete : Bool
  missing : List Opcode

namespace StatisticsReport

def ofTally (tally : Tally) (excluded : List Opcode) : StatisticsReport :=
  let opcodes := Opcode.recorded.mergeSort fun a b => decide (a.name ≤ b.name)
  ⟨opcodes.map fun opcode => (opcode, tally.count opcode), tally.isComplete excluded,
    tally.missing excluded⟩

def toJson (report : StatisticsReport) : Json :=
  .object
    [(some "counts", .object (report.counts.map fun (opcode, count) =>
        (some opcode.name, .int count))),
      (some "complete", .bool report.complete),
      (some "missing", .array (report.missing.map fun opcode => .text opcode.name))]

end StatisticsReport

end Journal
