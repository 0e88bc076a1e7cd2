/-
  DaqMonitor.Topology.Load

  Reading a topology from a file.
-/
import DaqMonitor.Topology.Error
import DaqMonitor.Topology.Spec

namespace DaqMonitor.Topology

/-- The description in a file of the given bytes; `none` stands for no file at all. -/
def Spec.load : Option ByteArray → Except LoadError Spec
  | none => .error .notFound
  | some bytes =>
    match String.fromUTF8? bytes with
    | none => .error .notUtf8
    | some text => (Spec.ofText text).mapError .fault

end DaqMonitor.Topology
