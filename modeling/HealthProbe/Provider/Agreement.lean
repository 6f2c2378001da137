import HealthProbe.Provider.Stages

/-! The builder and the getters agree on the interval and the number of probes.

The source reads the two settings twice: inline in `buildHealthProbeRulesForPort`, and in
`getHealthProbeConfigProbeIntervalAndNumOfProbe` through its two helpers.
`buildHealthProbeRulesForPort_eq` says that both are one computation once the protocol, the
probe port and the request path are known; what this means for a caller is `Agree`, and
`buildHealthProbeRulesForPort_agrees` proves it for every TCP port. -/
namespace HealthProbe.Provider
open Go V1 Network Consts

/-- What a caller may rely on when it reads the interval and the number of probes from the
getter instead of the probe the builder made. -/
structure Agree (simpleFold : Nat → Nat) (consts : Defaults) (az : Cloud) (serviceManifest : Service)
    (port : ServicePort) (lbrule : GoString) : Prop where
  /-- A probe the builder makes carries what the getter returns. -/
  probe : ∀ probe, buildHealthProbeRulesForPort simpleFold consts az serviceManifest port lbrule =
      .ok (some probe) →
    ∃ props i n, probe.probePropertiesFormat = some props ∧ props.intervalInSeconds = some i ∧
      props.probeThreshold = some n ∧
      getHealthProbeConfigProbeIntervalAndNumOfProbe consts serviceManifest port.port = .ok (i, n)
  /-- The getter's error is the builder's, unless the protocol, port or path failed first. -/
  getter_error : ∀ e, getHealthProbeConfigProbeIntervalAndNumOfProbe consts serviceManifest port.port =
      .error e →
    buildHealthProbeRulesForPort simpleFold consts az serviceManifest port lbrule =
      (probeSettings simpleFold consts az serviceManifest port).bind fun _ => .error e
  /-- When the getter succeeds, only the protocol, port or path can make the builder fail. -/
  getter_ok : ∀ r e, getHealthProbeConfigProbeIntervalAndNumOfProbe consts serviceManifest port.port =
      .ok r →
    buildHealthProbeRulesForPort simpleFold consts az serviceManifest port lbrule = .error e →
    probeSettings simpleFold consts az serviceManifest port = .error e

theorem not_udp_sctp_of_tcp {port : ServicePort} (h : port.protocol = V1.protocolTCP) :
    ¬(port.protocol = protocolUDP ∨ port.protocol = protocolSCTP) := by
  rw [h]; decide

/-- **The builder and the getter agree** on every TCP port and every annotation map. -/
theorem buildHealthProbeRulesForPort_agrees (simpleFold : Nat → Nat) (consts : Defaults) (az : Cloud)
    (serviceManifest : Service) (port : ServicePort) (lbrule : GoString)
    (h : port.protocol = V1.protocolTCP) :
    Agree simpleFold consts az serviceManifest port lbrule := by
  have hb := buildHealthProbeRulesForPort_eq simpleFold consts az serviceManifest port lbrule
    (not_udp_sctp_of_tcp h)
  constructor <;> rw [hb] <;>
    rcases probeSettings simpleFold consts az serviceManifest port with e | ⟨pp, pport, path⟩ <;>
    rcases getHealthProbeConfigProbeIntervalAndNumOfProbe consts serviceManifest port.port with e' | ⟨i, n⟩ <;>
    simp [Except.bind, Except.map, probeOf]

theorem buildHealthProbeRulesForPort_agrees_plain :
    ({ name := lit "http", protocol := V1.protocolTCP, appProtocol := none, port := 80, nodePort := 30080 } :
      ServicePort).protocol = V1.protocolTCP ∧
    Agree asciiSimpleFold ⟨80, lit "/", 2, 5⟩ ⟨true⟩ ⟨fun _ => none, []⟩
      { name := lit "http", protocol := V1.protocolTCP, appProtocol := none, port := 80, nodePort := 30080 }
      (lit "rule") :=
  ⟨rfl, buildHealthProbeRulesForPort_agrees _ _ _ _ _ _ rfl⟩

end HealthProbe.Provider
