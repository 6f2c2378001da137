import HealthProbe.Go.Strconv

/-! The Kubernetes and Azure types the probe code reads and builds.

Each record keeps the fields the modelled functions read or set, and a pointer field is an
`Option`. In the Azure SDK a probe's properties sit behind an embedded pointer
(`*ProbePropertiesFormat`), so they are an `Option` as well: reading a field through an
absent one is a nil dereference. -/
namespace HealthProbe
open Go

namespace V1

/-- `v1.ProtocolTCP` -/
def protocolTCP : GoString := lit "TCP"

/-- `v1.ProtocolUDP` -/
def protocolUDP : GoString := lit "UDP"

/-- `v1.ProtocolSCTP` -/
def protocolSCTP : GoString := lit "SCTP"

/-- `v1.ServicePort` -/
structure ServicePort where
  name : GoString
  protocol : GoString
  appProtocol : Option GoString
  port : Int32
  nodePort : Int32
  deriving DecidableEq, Repr

/-- A Go `map[string]string`: the value at each key, if any. -/
abbrev Annotations := GoString → Option GoString

/-- `v1.Service`: its annotations, and `Spec.Ports`. -/
structure Service where
  annotations : Annotations
  ports : List ServicePort

end V1

namespace Network

/-- `network.ProtocolTCP` -/
def protocolTCP : GoString := lit "Tcp"

/-- `network.ProtocolHTTP` -/
def protocolHTTP : GoString := lit "Http"

/-- `network.ProtocolHTTPS` -/
def protocolHTTPS : GoString := lit "Https"

/-- `network.ProbeProtocolTCP` -/
def probeProtocolTCP : GoString := lit "Tcp"

/-- `network.ProbeProtocolHTTP` -/
def probeProtocolHTTP : GoString := lit "Http"

/-- `network.ProbeProtocolHTTPS` -/
def probeProtocolHTTPS : GoString := lit "Https"

/-- `network.ProbePropertiesFormat` -/
structure ProbePropertiesFormat where
  protocol : GoString
  port : Option Int32
  intervalInSeconds : Option Int32
  probeThreshold : Option Int32
  requestPath : Option GoString
  deriving DecidableEq, Repr

/-- `network.Probe` -/
structure Probe where
  probePropertiesFormat : Option ProbePropertiesFormat
  name : Option GoString
  deriving DecidableEq, Repr

end Network

end HealthProbe
