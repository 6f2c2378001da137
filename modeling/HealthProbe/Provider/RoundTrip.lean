import HealthProbe.Provider.Reads

/-! A probe written back as annotations.

Each setting of a probe has a port's own annotation, and the text the builder reads there is
what it puts in the probe, numbers written with `%d`. `annotateProbe` writes a probe's protocol,
port, request path, number of probes and interval as the port's own annotations, over the
service's. Built again from them, a probe the builder made comes back as it was
(`buildHealthProbeRulesForPort_annotate`): each stage reads its own annotation back
(`probePortValidator_itoa`, `resolveProbePort_itoa`, `int32HealthProbeConfig_itoa`), and no two
of the keys collide (`buildHealthProbeAnnotationKeyForPort_inj`). Two conditions come from the
probe-port annotation: the port must be in `[0, 65535]`, the validator's range, and no port of
the service may have that number, or the resolver takes that port's node port instead. The
defaults of the number of probes and the interval must pass their own validators, which the
builder never applies to them. -/
namespace HealthProbe.Provider
open Go V1 Network Consts

/-- The annotations that say what `props` are, as the own annotations of the port numbered
`port`, over `annotations`: the protocol and the request path as they are, the port, the number
of probes and the interval written with `%d`. -/
def annotateProbe (annotations : Annotations) (port : Int32) (props : ProbePropertiesFormat) : Annotations :=
  fun k =>
    if k = buildHealthProbeAnnotationKeyForPort port healthProbeParamsProtocol then some props.protocol
    else if k = buildHealthProbeAnnotationKeyForPort port healthProbeParamsPort then
      props.port.map fun p => itoa p.toInt
    else if k = buildHealthProbeAnnotationKeyForPort port healthProbeParamsRequestPath then
      props.requestPath.or (annotations k)
    else if k = buildHealthProbeAnnotationKeyForPort port healthProbeParamsNumOfProbe then
      props.probeThreshold.map fun n => itoa n.toInt
    else if k = buildHealthProbeAnnotationKeyForPort port healthProbeParamsProbeInterval then
      props.intervalInSeconds.map fun i => itoa i.toInt
    else annotations k

/-- What `annotateProbe` holds under each of the port's own keys. -/
theorem annotateProbe_own (annotations : Annotations) (port : Int32) (props : ProbePropertiesFormat)
    (param : HealthProbeParams) :
    annotateProbe annotations port props (buildHealthProbeAnnotationKeyForPort port param) =
      if param = healthProbeParamsProtocol then some props.protocol
      else if param = healthProbeParamsPort then props.port.map fun p => itoa p.toInt
      else if param = healthProbeParamsRequestPath then
        props.requestPath.or (annotations (buildHealthProbeAnnotationKeyForPort port param))
      else if param = healthProbeParamsNumOfProbe then props.probeThreshold.map fun n => itoa n.toInt
      else if param = healthProbeParamsProbeInterval then props.intervalInSeconds.map fun i => itoa i.toInt
      else annotations (buildHealthProbeAnnotationKeyForPort port param) := by
  simp only [annotateProbe, buildHealthProbeAnnotationKeyForPort_eq_iff]

theorem annotateProbe_protocol (annotations : Annotations) (port : Int32) (props : ProbePropertiesFormat) :
    annotateProbe annotations port props (buildHealthProbeAnnotationKeyForPort port healthProbeParamsProtocol) =
      some props.protocol := by
  rw [annotateProbe_own, if_pos rfl]

theorem annotateProbe_port (annotations : Annotations) (port : Int32) (props : ProbePropertiesFormat) :
    annotateProbe annotations port props (buildHealthProbeAnnotationKeyForPort port healthProbeParamsPort) =
      props.port.map fun p => itoa p.toInt := by
  rw [annotateProbe_own, if_neg (by decide), if_pos rfl]

theorem annotateProbe_requestPath (annotations : Annotations) (port : Int32) (props : ProbePropertiesFormat) :
    annotateProbe annotations port props (buildHealthProbeAnnotationKeyForPort port healthProbeParamsRequestPath) =
      props.requestPath.or (annotations (buildHealthProbeAnnotationKeyForPort port healthProbeParamsRequestPath)) := by
  rw [annotateProbe_own, if_neg (by decide), if_neg (by decide), if_pos rfl]

theorem annotateProbe_numOfProbe (annotations : Annotations) (port : Int32) (props : ProbePropertiesFormat) :
    annotateProbe annotations port props (buildHealthProbeAnnotationKeyForPort port healthProbeParamsNumOfProbe) =
      props.probeThreshold.map fun n => itoa n.toInt := by
  rw [annotateProbe_own, if_neg (by decide), if_neg (by decide), if_neg (by decide), if_pos rfl]

theorem annotateProbe_interval (annotations : Annotations) (port : Int32) (props : ProbePropertiesFormat) :
    annotateProbe annotations port props (buildHealthProbeAnnotationKeyForPort port healthProbeParamsProbeInterval) =
      props.intervalInSeconds.map fun i => itoa i.toInt := by
  rw [annotateProbe_own, if_neg (by decide), if_neg (by decide), if_neg (by decide), if_neg (by decide), if_pos rfl]

/-! ### Each stage reads its annotation back -/

/-- The protocol switch gives back its own choice: a port whose own protocol annotation is the
probe protocol `protocolOf` chose gets the same protocol and fixed port again. -/
theorem protocolOf_self (simpleFold : Nat → Nat) (az : Cloud) {s s' : Service} (port : ServicePort)
    (h : s'.annotations (buildHealthProbeAnnotationKeyForPort port.port healthProbeParamsProtocol) =
      some (protocolOf simpleFold az s port).1) :
    protocolOf simpleFold az s' port = protocolOf simpleFold az s port := by
  rcases protocolOf_cases simpleFold az s port with hf | hf | ⟨hf, hstd⟩ <;>
    rw [hf] at h ⊢ <;> simp only [protocolOf, h, Option.or, Option.getD]
  · rfl
  · rfl
  · simp only [show trimSpace probeProtocolHTTPS = probeProtocolHTTPS by decide, probeProtocolFor, hstd,
      show equalFold simpleFold probeProtocolHTTPS Network.protocolTCP = false from rfl,
      show equalFold simpleFold probeProtocolHTTPS Network.protocolHTTPS = true from rfl]
    rfl

/-- A probe-port annotation holding `%d` of a port number in range that no port of the service
has selects that number, whatever the protocol fixed. -/
theorem selectProbePort_itoa (simpleFold : Nat → Nat) (consts : Defaults) {s : Service} {port : ServicePort}
    {v : Int32} (hk : s.annotations (buildHealthProbeAnnotationKeyForPort port.port healthProbeParamsPort) =
      some (itoa v.toInt))
    (hrange : 0 ≤ v.toInt ∧ v.toInt ≤ 65535) (hfree : ∀ item ∈ s.ports, item.port ≠ v) (fixed : Option Int32) :
    selectProbePort simpleFold consts s port fixed = .ok v := by
  rw [selectProbePort_eq, hk]
  simp only [probePortValidator_itoa simpleFold s hrange, Except.mapError, Except.map,
    resolveProbePort_itoa simpleFold hfree]

/-- Own annotations holding `%d` of a number of probes and an interval the validators accept,
whose product passes the check, give those two values. -/
theorem getHealthProbeConfigProbeIntervalAndNumOfProbe_itoa (consts : Defaults) {s : Service} {p i n : Int32}
    (hnk : s.annotations (buildHealthProbeAnnotationKeyForPort p healthProbeParamsNumOfProbe) = some (itoa n.toInt))
    (hik : s.annotations (buildHealthProbeAnnotationKeyForPort p healthProbeParamsProbeInterval) =
      some (itoa i.toInt))
    (hn : 2 ≤ n.toInt) (hi : 5 ≤ i.toInt) (htotal : (i * n).toInt < 120) :
    getHealthProbeConfigProbeIntervalAndNumOfProbe consts s p = .ok (i, n) := by
  refine (getHealthProbeConfigProbeIntervalAndNumOfProbe_eq_ok _ _).2 ⟨?_, ?_, htotal⟩
  · exact (int32HealthProbeConfig_itoa (by rw [hnk]; rfl) _ _ _ _).2 ⟨rfl, minimumValidator_ok.2 hn⟩
  · exact (int32HealthProbeConfig_itoa (by rw [hik]; rfl) _ _ _ _).2 ⟨rfl, minimumValidator_ok.2 hi⟩

/-! ### The round trip -/

/-- **A probe the builder made, written back as the port's own annotations, is built again as
it was**: with the defaults of the number of probes and the interval at their minimums or above,
when the probe's port is in `[0, 65535]` and no port of the service has that number. -/
theorem buildHealthProbeRulesForPort_annotate {simpleFold : Nat → Nat} {consts : Defaults} {az : Cloud}
    {serviceManifest : Service} {port : ServicePort} {lbrule : GoString} {probe : Probe}
    {props : ProbePropertiesFormat} {p : Int32}
    (hi : 5 ≤ consts.healthProbeDefaultProbeInterval.toInt) (hn : 2 ≤ consts.healthProbeDefaultNumOfProbe.toInt)
    (h : buildHealthProbeRulesForPort simpleFold consts az serviceManifest port lbrule = .ok (some probe))
    (hprops : probe.probePropertiesFormat = some props) (hp : props.port = some p)
    (hrange : 0 ≤ p.toInt ∧ p.toInt ≤ 65535) (hfree : ∀ item ∈ serviceManifest.ports, item.port ≠ p) :
    buildHealthProbeRulesForPort simpleFold consts az
        ⟨annotateProbe serviceManifest.annotations port.port props, serviceManifest.ports⟩ port lbrule =
      .ok (some probe) := by
  have hudp : ¬(port.protocol = protocolUDP ∨ port.protocol = protocolSCTP) := fun hu => by
    simp [buildHealthProbeRulesForPort, hu] at h
  obtain ⟨pp, pport, path, i, n, hset, hget, rfl⟩ := buildHealthProbeRulesForPort_some _ _ _ _ _ h
  simp only [probeOf, Option.some.injEq] at hprops
  subst hprops
  obtain rfl : pport = p := Option.some.inj hp
  obtain ⟨hpp, hsel, hpath⟩ := probeSettings_ok _ _ _ _ _ hset
  obtain ⟨hnum, hint, htotal⟩ := (getHealthProbeConfigProbeIntervalAndNumOfProbe_eq_ok _ _).1 hget
  simp only [getHealthProbeConfigNumOfProbe, getHealthProbeConfigProbeInterval, numOfProbeValidator,
    probeIntervalValidator] at hnum hint
  -- the annotated service, and what it holds under the port's own keys
  obtain ⟨s', hs'⟩ : ∃ s' : Service, s' = ⟨annotateProbe serviceManifest.annotations port.port
    ⟨pp, some pport, some i, some n, path⟩, serviceManifest.ports⟩ := ⟨_, rfl⟩
  rw [← hs']
  have hports : s'.ports = serviceManifest.ports := by rw [hs']
  have own : ∀ {param v},
      annotateProbe serviceManifest.annotations port.port ⟨pp, some pport, some i, some n, path⟩
        (buildHealthProbeAnnotationKeyForPort port.port param) = v →
      s'.annotations (buildHealthProbeAnnotationKeyForPort port.port param) = v := fun hv => by
    rw [hs']
    dsimp only
    exact hv
  have hpath' : selectRequestPath simpleFold consts s' port pp = .ok path := by
    rw [selectRequestPath_eq] at hpath ⊢
    split at hpath
    · rw [if_pos ‹_›]
      cases hpath
      rw [own (annotateProbe_requestPath _ _ _)]
      rfl
    · rw [if_neg ‹_›, hpath]
  rw [buildHealthProbeRulesForPort_eq _ _ _ _ _ _ hudp, probeSettings_eq,
    protocolOf_self simpleFold az port (hpp ▸ own (annotateProbe_protocol _ _ _)),
    selectProbePort_itoa simpleFold consts (own (annotateProbe_port _ _ _)) hrange (hports ▸ hfree), ← hpp,
    hpath', getHealthProbeConfigProbeIntervalAndNumOfProbe_itoa consts (own (annotateProbe_numOfProbe _ _ _))
      (own (annotateProbe_interval _ _ _))
      (by rcases int32HealthProbeConfig_minimum hnum with rfl | h2 <;> assumption)
      (by rcases int32HealthProbeConfig_minimum hint with rfl | h5 <;> assumption) htotal]
  rfl

/-- An HTTP probe on the default port 80, of a service whose port is 8080. -/
theorem buildHealthProbeRulesForPort_annotate_plain :
    let port : ServicePort :=
      { name := lit "web", protocol := V1.protocolTCP, appProtocol := none, port := 8080, nodePort := 30080 }
    let serviceManifest : Service := ⟨fun _ => none, [port]⟩
    let consts : Defaults := ⟨80, lit "/healthz", 2, 5⟩
    let props : ProbePropertiesFormat := ⟨probeProtocolHTTP, some 80, some 5, some 2, some (lit "/healthz")⟩
    let probe : Probe := ⟨some props, some (lit "rule")⟩
    5 ≤ consts.healthProbeDefaultProbeInterval.toInt ∧ 2 ≤ consts.healthProbeDefaultNumOfProbe.toInt ∧
      buildHealthProbeRulesForPort asciiSimpleFold consts ⟨true⟩ serviceManifest port (lit "rule") =
        .ok (some probe) ∧
      probe.probePropertiesFormat = some props ∧ props.port = some 80 ∧
      (0 ≤ (80 : Int32).toInt ∧ (80 : Int32).toInt ≤ 65535) ∧
      (∀ item ∈ serviceManifest.ports, item.port ≠ 80) ∧
      buildHealthProbeRulesForPort asciiSimpleFold consts ⟨true⟩
          ⟨annotateProbe serviceManifest.annotations port.port props, serviceManifest.ports⟩ port (lit "rule") =
        .ok (some probe) := by
  intro port serviceManifest consts props probe
  have hi : 5 ≤ consts.healthProbeDefaultProbeInterval.toInt := by decide
  have hn : 2 ≤ consts.healthProbeDefaultNumOfProbe.toInt := by decide
  have h : buildHealthProbeRulesForPort asciiSimpleFold consts ⟨true⟩ serviceManifest port (lit "rule") =
      .ok (some probe) := by decide
  have hrange : 0 ≤ (80 : Int32).toInt ∧ (80 : Int32).toInt ≤ 65535 := by decide
  have hfree : ∀ item ∈ serviceManifest.ports, item.port ≠ 80 := by decide
  exact ⟨hi, hn, h, rfl, rfl, hrange, hfree, buildHealthProbeRulesForPort_annotate hi hn h rfl rfl hrange hfree⟩

/-- A service port numbered 80 takes the annotation `80` for itself: written back, the probe on
port 80 is sent to that port's node port. -/
example :
    let port : ServicePort :=
      { name := lit "http", protocol := V1.protocolTCP, appProtocol := none, port := 80, nodePort := 30080 }
    let serviceManifest : Service := ⟨fun _ => none, [port]⟩
    let props : ProbePropertiesFormat := ⟨probeProtocolHTTP, some 80, some 5, some 2, some (lit "/healthz")⟩
    buildHealthProbeRulesForPort asciiSimpleFold ⟨80, lit "/healthz", 2, 5⟩ ⟨true⟩ serviceManifest port
          (lit "rule") =
        .ok (some ⟨some props, some (lit "rule")⟩) ∧
      buildHealthProbeRulesForPort asciiSimpleFold ⟨80, lit "/healthz", 2, 5⟩ ⟨true⟩
          ⟨annotateProbe serviceManifest.annotations port.port props, serviceManifest.ports⟩ port (lit "rule") =
        .ok (some ⟨some { props with port := some 30080 }, some (lit "rule")⟩) := by
  decide


end HealthProbe.Provider
