import RustAdxl345.Op
import RustAdxl345.Sample
import RustAdxl345.Bus
import RustAdxl345.Device
import RustAdxl345.Kern
import RustAdxl345.Utility
import RustAdxl345.Filter
import RustAdxl345.FileOps
import RustAdxl345.Core
import RustAdxl345.Binding
import RustAdxl345.ReadParts
import RustAdxl345.System
import RustAdxl345.Read
import RustAdxl345.Lifecycle
import RustAdxl345.Locking
import RustAdxl345.Oops
import RustAdxl345.Overflow
import RustAdxl345.Rebind
import RustAdxl345.Registers
import RustAdxl345.Baseline
import RustAdxl345.BlockRead
import RustAdxl345.Adxl345Test
