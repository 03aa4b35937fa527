import SlowJsGc.Heap
import SlowJsGc.Runtime
import SlowJsGc.Malloc
import SlowJsGc.Collector.Decref
import SlowJsGc.Collector.Scan
import SlowJsGc.Collector.Release
import SlowJsGc.Collector.FreeCycles
import SlowJsGc.Collector.RunGC
import SlowJsGc.Collector.Drain
import SlowJsGc.Collector.DrainOrder
import SlowJsGc.Collector.BytecodeAtoms
import SlowJsGc.Cell
import SlowJsGc.Collector.Zombies
import SlowJsGc.Collector.Mutator
import SlowJsGc.WeakRef
import SlowJsGc.Snapshot.State
import SlowJsGc.Snapshot.Interning
import SlowJsGc.Snapshot.Walk
import SlowJsGc.Snapshot.Faults
import SlowJsGc.Snapshot.Invariant
import SlowJsGc.Snapshot.Objects
import SlowJsGc.Snapshot.Root
import SlowJsGc.Snapshot.ObjectEdges
import SlowJsGc.Snapshot.Parity
import SlowJsGc.Snapshot.Write
import SlowJsGc.Snapshot.ReadBack
import SlowJsGc.Snapshot.Json
import SlowJsGc.Snapshot.NodeName
