import HealthProbe.Consts
import HealthProbe.Go.Strings

/-! `buildHealthProbeRulesForPort` and the probe-configuration getters of
`pkg/provider/azure_loadbalancer_healthprobe.go`.

The builder is a chain of stages in the order of the source: the protocol (a port's own
annotation, then `port.AppProtocol`, then the service's annotation, then `Http`), the probe
port, the request path, the number of probes, the interval, and the check of their product.
Each stage that can fail returns `Except`, so the first failure is the builder's error, as
each `return nil, err` of the source makes it. The first three stages are `probeSettings`.

The number of probes and the interval are read twice in the source, inline in the builder
and in `getHealthProbeConfigNumOfProbe` / `getHealthProbeConfigProbeInterval`. Both reads of a
setting are the one lookup `int32HealthProbeConfig`, applied to the values each place of the
source writes; `buildHealthProbeRulesForPort_eq` then says that past `probeSettings` the
builder is `getHealthProbeConfigProbeIntervalAndNumOfProbe`. -/
namespace HealthProbe.Provider
open Go V1 Network Consts

/-- The provider as the probe code reads it: whether the load balancer SKU is standard
(`az.useStandardLoadBalancer()`). -/
structure Cloud where
  useStandardLoadBalancer : Bool

/-- `fmt.Errorf("failed to parse annotation %s<sep>%w", key, err)`. -/
def annotationError (key sep : GoString) (err : GoError) : GoError :=
  .wrapf (lit "failed to parse annotation " ++ key ++ sep) err []

/-! ### Protocol, port and request path -/

/-- Lines 48–75: a port's own protocol, else `port.AppProtocol`, else the service's, else
`Http`. -/
def selectProtocol (serviceManifest : Service) (port : ServicePort) : Except GoError GoString := do
  let protocol ← ( getHealthProbeConfigOfPortFromK8sSvcAnnotation serviceManifest.annotations
      port.port healthProbeParamsProtocol []).mapError
    (annotationError (buildHealthProbeAnnotationKeyForPort port.port healthProbeParamsProtocol) (lit ": "))
  let protocol := if protocol = none then port.appProtocol else protocol
  let protocol ← if protocol = none then
      (( getAttributeValueInSvcAnnotation serviceManifest.annotations
        serviceAnnotationLoadBalancerHealthProbeProtocol []).mapError
        (annotationError serviceAnnotationLoadBalancerHealthProbeProtocol (lit ": ")))
    else pure protocol
  pure (protocol.getD Network.protocolHTTP)

/-- Lines 77–97: the probe protocol for the trimmed protocol, and the port that fixes, if any. -/
def probeProtocolFor (simpleFold : Nat → Nat) (az : Cloud) (port : ServicePort) (protocol : GoString) :
    GoString × Option Int32 :=
  if equalFold simpleFold protocol Network.protocolTCP then (probeProtocolTCP, some port.nodePort)
  else if equalFold simpleFold protocol Network.protocolHTTPS then
    if !az.useStandardLoadBalancer then (probeProtocolTCP, some port.nodePort)
    else (probeProtocolHTTPS, none)
  else if equalFold simpleFold protocol Network.protocolHTTP then (probeProtocolHTTP, none)
  else (probeProtocolTCP, some port.nodePort)

/-- The validator of lines 104–124: the name of a port of the service (ignoring case), or a
decimal number in `[0, 65535]`. -/
def probePortValidator (simpleFold : Nat → Nat) (serviceManifest : Service) : BusinessValidator
  | none => .ok ()
  | some s =>
    if serviceManifest.ports.any (fun item => equalFold simpleFold item.name s) then .ok ()
    else
      match atoi s with
      | .error _ => .error (.errorf (lit "port " ++ s ++ lit " not found in service"))
      | .ok port =>
        if port < 0 ∨ port > 65535 then .error (.errorf (lit "port " ++ itoa port ++ lit " is out of range"))
        else .ok ()

/-- Lines 129–157: the port a probe-port annotation `probePort` gives, `current` before it. Not
a number: the node port of the last port of that name (no `break`). A number: the node port
of the first port with that number, else the number. -/
def resolveProbePort (simpleFold : Nat → Nat) (serviceManifest : Service) (probePort : GoString)
    (current : Int32) : Int32 :=
  match parseInt probePort 32 with
  | .error _ =>
    serviceManifest.ports.foldl
      (fun acc item => if equalFold simpleFold item.name probePort then item.nodePort else acc) current
  | .ok port =>
    match serviceManifest.ports.find? (fun item => item.port == BitVec.ofInt 32 port) with
    | some item => item.nodePort
    | none => BitVec.ofInt 32 port

/-- Lines 99–157: the port the protocol fixed, else the default, overridden by the port's
probe-port annotation. -/
def selectProbePort (simpleFold : Nat → Nat) (consts : Defaults) (serviceManifest : Service)
    (port : ServicePort) (fixed : Option Int32) : Except GoError Int32 := do
  let current := fixed.getD consts.healthProbeDefaultRequestPort
  let probePort ← ( getHealthProbeConfigOfPortFromK8sSvcAnnotation serviceManifest.annotations port.port
      healthProbeParamsPort [probePortValidator simpleFold serviceManifest]).mapError
    (annotationError (buildHealthProbeAnnotationKeyForPort port.port healthProbeParamsPort) (lit ": "))
  pure (match probePort with
    | none => current
    | some p => resolveProbePort simpleFold serviceManifest p current)

/-- Lines 159–175: for an HTTP or HTTPS probe, a port's own request path, else the service's,
else the default. -/
def selectRequestPath (simpleFold : Nat → Nat) (consts : Defaults) (serviceManifest : Service)
    (port : ServicePort) (probeProtocol : GoString) : Except GoError (Option GoString) :=
  if equalFold simpleFold probeProtocol Network.protocolHTTPS ||
      equalFold simpleFold probeProtocol Network.protocolHTTP then do
    let path ← ( getHealthProbeConfigOfPortFromK8sSvcAnnotation serviceManifest.annotations port.port
        healthProbeParamsRequestPath []).mapError
      (annotationError (buildHealthProbeAnnotationKeyForPort port.port healthProbeParamsRequestPath) (lit ": "))
    let path ← if path = none then
        (( getAttributeValueInSvcAnnotation serviceManifest.annotations
          serviceAnnotationLoadBalancerHealthProbeRequestPath []).mapError
          (annotationError serviceAnnotationLoadBalancerHealthProbeRequestPath (lit ": ")))
      else pure path
    pure (some (path.getD consts.healthProbeDefaultRequestPath))
  else pure none

/-- Lines 41–175: the probe's protocol, port and request path. -/
def probeSettings (simpleFold : Nat → Nat) (consts : Defaults) (az : Cloud) (serviceManifest : Service)
    (port : ServicePort) : Except GoError (GoString × Int32 × Option GoString) := do
  let protocol ← selectProtocol serviceManifest port
  let (probeProtocol, fixed) := probeProtocolFor simpleFold az port (trimSpace protocol)
  let probePort ← selectProbePort simpleFold consts serviceManifest port fixed
  let requestPath ← selectRequestPath simpleFold consts serviceManifest port probeProtocol
  pure (probeProtocol, probePort, requestPath)

/-! ### Number of probes and interval -/

/-- `numOfProbeValidator` and `probeIntervalValidator`, in the builder and in the getters
alike: a value below `minimum` is refused, naming `param`. -/
def minimumValidator (param : HealthProbeParams) (minimum : Int) : Int32BusinessValidator := fun val =>
  if val.toInt < minimum then
    .error (.errorf (lit "the minimum value of " ++ param ++ lit " is " ++ itoa minimum))
  else .ok ()

theorem minimumValidator_ok {param : HealthProbeParams} {minimum : Int} {val : Int32} :
    minimumValidator param minimum val = .ok () ↔ minimum ≤ val.toInt := by
  unfold minimumValidator
  split <;> simp <;> omega

/-- `numOfProbeValidator`: `MinimumNumOfProbe = 2`. -/
def numOfProbeValidator : Int32BusinessValidator := minimumValidator healthProbeParamsNumOfProbe 2

/-- `probeIntervalValidator`: `*val < 5`, `MinimumProbeIntervalInSecond = 5`. -/
def probeIntervalValidator : Int32BusinessValidator :=
  minimumValidator healthProbeParamsProbeInterval 5

/-- The lookup each read of the number of probes and of the interval makes: a port's own
annotation for `param`, else the service's annotation `key`, else `default`, each read through
`validator`. A failure is wrapped with the key it was read under, after `sep` for the port's
own annotation (the source writes `":"` there for the interval, `": "` everywhere else). -/
def int32HealthProbeConfig (annotations : Annotations) (port : Int32) (param : HealthProbeParams)
    (key : GoString) (validator : Int32BusinessValidator) (default : Int32) (sep : GoString) :
    Except GoError Int32 := do
  let v ← ( getInt32HealthProbeConfigOfPortFromK8sSvcAnnotation annotations port param [validator]).mapError
    (annotationError (buildHealthProbeAnnotationKeyForPort port param) sep)
  let v ← if v = none then
      (( getint32ValueFromK8sSvcAnnotation annotations key [validator]).mapError
        (annotationError key (lit ": ")))
    else pure v
  pure (v.getD default)

/-- The error of the total check (lines 228–230, 253–255). -/
def totalProbeError : GoError :=
  .errorf (lit "total probe should be less than 120, please adjust interval and number of probe accordingly")

/-- The probe of lines 231–236. -/
def probeOf (lbrule probeProtocol : GoString) (probePort : Int32) (requestPath : Option GoString)
    (probeInterval numberOfProbes : Int32) : Probe :=
  { name := some lbrule
    probePropertiesFormat := some
      { protocol := probeProtocol
        port := some probePort
        intervalInSeconds := some probeInterval
        probeThreshold := some numberOfProbes
        requestPath := requestPath } }

/-- `buildHealthProbeRulesForPort`: no probe for a UDP or SCTP port, else the probe, or the
first error. The product of interval and number of probes is an `int32` product. -/
def buildHealthProbeRulesForPort (simpleFold : Nat → Nat) (consts : Defaults) (az : Cloud)
    (serviceManifest : Service) (port : ServicePort) (lbrule : GoString) :
    Except GoError (Option Probe) :=
  if port.protocol = protocolUDP ∨ port.protocol = protocolSCTP then .ok none else do
  let (probeProtocol, probePort, requestPath) ← probeSettings simpleFold consts az serviceManifest port
  let numberOfProbes ← int32HealthProbeConfig serviceManifest.annotations port.port
    healthProbeParamsNumOfProbe serviceAnnotationLoadBalancerHealthProbeNumOfProbe numOfProbeValidator
    consts.healthProbeDefaultNumOfProbe (lit ": ")
  let probeInterval ← int32HealthProbeConfig serviceManifest.annotations port.port
    healthProbeParamsProbeInterval serviceAnnotationLoadBalancerHealthProbeInterval probeIntervalValidator
    consts.healthProbeDefaultProbeInterval (lit ":")
  if 120 ≤ (probeInterval * numberOfProbes).toInt then throw totalProbeError
  pure (some (probeOf lbrule probeProtocol probePort requestPath probeInterval numberOfProbes))

/-! ### The getters -/

/-- `getHealthProbeConfigNumOfProbe` -/
def getHealthProbeConfigNumOfProbe (consts : Defaults) (serviceManifest : Service) (port : Int32) :
    Except GoError Int32 :=
  int32HealthProbeConfig serviceManifest.annotations port healthProbeParamsNumOfProbe
    serviceAnnotationLoadBalancerHealthProbeNumOfProbe numOfProbeValidator
    consts.healthProbeDefaultNumOfProbe (lit ": ")

/-- `getHealthProbeConfigProbeInterval` -/
def getHealthProbeConfigProbeInterval (consts : Defaults) (serviceManifest : Service) (port : Int32) :
    Except GoError Int32 :=
  int32HealthProbeConfig serviceManifest.annotations port healthProbeParamsProbeInterval
    serviceAnnotationLoadBalancerHealthProbeInterval probeIntervalValidator
    consts.healthProbeDefaultProbeInterval (lit ":")

/-- `getHealthProbeConfigProbeIntervalAndNumOfProbe`: the interval and the number of probes. -/
def getHealthProbeConfigProbeIntervalAndNumOfProbe (consts : Defaults) (serviceManifest : Service)
    (port : Int32) : Except GoError (Int32 × Int32) := do
  let numberOfProbes ← getHealthProbeConfigNumOfProbe consts serviceManifest port
  let probeInterval ← getHealthProbeConfigProbeInterval consts serviceManifest port
  if 120 ≤ (probeInterval * numberOfProbes).toInt then throw totalProbeError
  pure (probeInterval, numberOfProbes)

/-- **Past `probeSettings`, the builder is the getter**: the same reads in the same order,
the same check, and the probe made of what they return. -/
theorem buildHealthProbeRulesForPort_eq (simpleFold : Nat → Nat) (consts : Defaults) (az : Cloud)
    (serviceManifest : Service) (port : ServicePort) (lbrule : GoString)
    (h : ¬(port.protocol = protocolUDP ∨ port.protocol = protocolSCTP)) :
    buildHealthProbeRulesForPort simpleFold consts az serviceManifest port lbrule =
      (probeSettings simpleFold consts az serviceManifest port).bind fun (pp, pport, path) =>
        (getHealthProbeConfigProbeIntervalAndNumOfProbe consts serviceManifest port.port).map
          fun (i, n) => some (probeOf lbrule pp pport path i n) := by
  simp only [buildHealthProbeRulesForPort, if_neg h, getHealthProbeConfigProbeIntervalAndNumOfProbe,
    getHealthProbeConfigNumOfProbe, getHealthProbeConfigProbeInterval]
  rcases probeSettings simpleFold consts az serviceManifest port with e | ⟨pp, pport, path⟩
  · rfl
  rcases int32HealthProbeConfig serviceManifest.annotations port.port healthProbeParamsNumOfProbe
    serviceAnnotationLoadBalancerHealthProbeNumOfProbe numOfProbeValidator
    consts.healthProbeDefaultNumOfProbe (lit ": ") with e | n
  · rfl
  rcases int32HealthProbeConfig serviceManifest.annotations port.port healthProbeParamsProbeInterval
    serviceAnnotationLoadBalancerHealthProbeInterval probeIntervalValidator
    consts.healthProbeDefaultProbeInterval (lit ":") with e | i
  · rfl
  by_cases hc : 120 ≤ (i * n).toInt
  · simp only [bind, Except.bind, Except.map, hc, if_true]
  · simp only [bind, Except.bind, Except.map, hc, if_false]
    rfl

end HealthProbe.Provider
