import Journal.Config
import Journal.Record.Operation
import Journal.Segment.Scan

/-!
Visitors take in a stream of records: they are opened once, handed the records in order, and closed
once, whatever happens in between. Only a visitor that refuses to open is not closed.
-/

set_option autoImplicit false

namespace Journal

class Visitor (υ : Type) where
  onOpen : LayoutVersion → υ → υ × Except Error Unit
  consume : Record → υ → υ × Except Error Unit
  /-- Gets the first failure that the source of the records has met. -/
  onClose : Option DecodeError → υ → υ × Except Error Unit

/-- Records under one layout version. Each goes with the first failure met before it. -/
structure RecordStream where
  version : LayoutVersion
  records : List (Option DecodeError × Record)
  firstError : Option DecodeError

namespace RecordStream

variable {υ : Type} [Visitor υ]

def deliver : List (Option DecodeError × Record) → υ → υ × Option (Error × Option DecodeError)
  -- Hands over records up to the first refusal, which comes back with the failure met before it.
  | [], visitor => (visitor, none)
  | (met, record) :: rest, visitor =>
    match Visitor.consume record visitor with
    | (visitor, .ok ()) => deliver rest visitor
    | (visitor, .error error) => (visitor, some (error, met))

def visit (stream : RecordStream) (visitor : υ) : υ × Except Error Unit :=
  -- A refused record counts more than a failure to close after it.
  match Visitor.onOpen stream.version visitor with
  | (visitor, .error error) => (visitor, .error error)
  | (visitor, .ok ()) =>
    match deliver stream.records visitor with
    | (visitor, none) => Visitor.onClose stream.firstError visitor
    | (visitor, some (error, met)) => ((Visitor.onClose met visitor).1, .error error)

end RecordStream

namespace Scan

def deliveries : (known : Option DecodeError) → List ScanEvent →
    List (Option DecodeError × Record)
  | _, [] => []
  | known, .emitted _ _ record :: rest => (known, record) :: deliveries known rest
  | known, .failed error :: rest => deliveries (known <|> some error) rest
  | known, .skipped _ _ :: rest => deliveries known rest

def stream (scan : Scan) : RecordStream :=
  ⟨scan.version, deliveries scan.headerError scan.events, scan.firstError⟩

def visit {υ : Type} [Visitor υ] (scan : Scan) (visitor : υ) : υ × Except Error Scan :=
  -- Takes the scan into a visitor. Failures to decode are part of the scan, not errors.
  match scan.stream.visit visitor with
  | (visitor, .ok ()) => (visitor, .ok scan)
  | (visitor, .error error) => (visitor, .error error)

end Scan

def Segment.scanInto {υ : Type} [Visitor υ] (mode : ScanMode) (config : Config)
    (bytes : List UInt8) (visitor : υ) : υ × Except Error Scan :=
  match scan mode config bytes with
  | .error error => (visitor, .error error)
  | .ok scan => scan.visit visitor

structure Collection where
  version : Option LayoutVersion
  collected : Array Record

namespace Collection

def empty : Collection := ⟨none, #[]⟩

def records (collection : Collection) : List Record := collection.collected.toList

end Collection

instance : Visitor Collection where
  onOpen version collection := ({ collection with version := some version }, .ok ())
  consume record collection :=
    ({ collection with collected := collection.collected.push record }, .ok ())
  onClose _ collection := (collection, .ok ())

def Scan.readAll (scan : Scan) : Except Error (List Record × Scan) :=
  match scan.visit Collection.empty with
  | (collection, .ok scan) => .ok (collection.records, scan)
  | (_, .error error) => .error error

def Segment.readAll (mode : ScanMode) (config : Config) (bytes : List UInt8) :
    Except Error (List Record × Scan) := do
  (← scan mode config bytes).readAll

end Journal
