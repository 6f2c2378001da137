import HealthProbe.Provider.Stages

/-! What the builder returns, for every input.

A probe is named after the rule, and is a TCP probe without a request path or an HTTP or
HTTPS probe with one, HTTPS only on the standard SKU (`buildHealthProbeRulesForPort_protocol`).
An error is the total check's, or names an annotation that is present and was refused: the
port's probe port, or a source of the number of probes or of the interval
(`buildHealthProbeRulesForPort_error`). An absent annotation never makes the builder fail,
and neither do the protocol and the request path. -/
namespace HealthProbe.Provider
open Go V1 Network Consts

variable (simpleFold : Nat → Nat) (consts : Defaults) (az : Cloud) (serviceManifest : Service)
  (port : ServicePort) (lbrule : GoString)

/-- **The probes the builder makes**: named after the rule; TCP without a request path, or
HTTP or HTTPS with one, HTTPS only on the standard SKU. -/
theorem buildHealthProbeRulesForPort_protocol {probe : Probe}
    (h : buildHealthProbeRulesForPort simpleFold consts az serviceManifest port lbrule = .ok (some probe)) :
    probe.name = some lbrule ∧ ∃ props, probe.probePropertiesFormat = some props ∧
      (props.protocol = probeProtocolTCP ∧ props.requestPath = none ∨
        props.protocol = probeProtocolHTTP ∧ props.requestPath ≠ none ∨
        props.protocol = probeProtocolHTTPS ∧ props.requestPath ≠ none ∧ az.useStandardLoadBalancer = true) := by
  obtain ⟨pp, pport, path, i, n, hs, -, rfl⟩ := buildHealthProbeRulesForPort_some _ _ _ _ _ h
  obtain ⟨hpp, -, hpath⟩ := probeSettings_ok _ _ _ _ _ hs
  refine ⟨rfl, _, rfl, ?_⟩
  simp only [probeOf]
  rcases protocolOf_cases simpleFold az serviceManifest port with hf | hf | ⟨hf, hstd⟩ <;>
    rw [hf] at hpp <;> subst hpp
  · rw [selectRequestPath_tcp] at hpath
    cases hpath
    exact .inl ⟨rfl, rfl⟩
  · obtain ⟨p, hp⟩ := selectRequestPath_web simpleFold consts serviceManifest port (.inl rfl)
    rw [hp] at hpath
    cases hpath
    exact .inr (.inl ⟨rfl, by simp⟩)
  · obtain ⟨p, hp⟩ := selectRequestPath_web simpleFold consts serviceManifest port (.inr rfl)
    rw [hp] at hpath
    cases hpath
    exact .inr (.inr ⟨rfl, by simp, hstd⟩)

/-- An HTTPS `AppProtocol` on the standard SKU: an HTTPS probe with the default path. -/
theorem buildHealthProbeRulesForPort_protocol_https :
    let port : ServicePort :=
      { name := lit "https", protocol := V1.protocolTCP, appProtocol := some (lit "HTTPS"), port := 443,
        nodePort := 30443 }
    let probe := probeOf (lit "rule") probeProtocolHTTPS 80 (some (lit "/")) 5 2
    buildHealthProbeRulesForPort asciiSimpleFold ⟨80, lit "/", 2, 5⟩ ⟨true⟩ ⟨fun _ => none, [port]⟩ port (lit "rule") =
        .ok (some probe) ∧
      probe.name = some (lit "rule") ∧ ∃ props, probe.probePropertiesFormat = some props ∧
        (props.protocol = probeProtocolTCP ∧ props.requestPath = none ∨
          props.protocol = probeProtocolHTTP ∧ props.requestPath ≠ none ∨
          props.protocol = probeProtocolHTTPS ∧ props.requestPath ≠ none ∧ (⟨true⟩ : Cloud).useStandardLoadBalancer = true) := by
  intro port probe
  have h : buildHealthProbeRulesForPort asciiSimpleFold ⟨80, lit "/", 2, 5⟩ ⟨true⟩ ⟨fun _ => none, [port]⟩ port
      (lit "rule") = .ok (some probe) := by decide
  exact ⟨h, buildHealthProbeRulesForPort_protocol _ _ _ _ _ _ h⟩

/-- **The builder fails on the total, or on a present annotation it refused, and names its
key**: the port's probe port, or a source of the number of probes or of the interval. -/
theorem buildHealthProbeRulesForPort_error {e : GoError}
    (h : buildHealthProbeRulesForPort simpleFold consts az serviceManifest port lbrule = .error e) :
    e = totalProbeError ∨
      ∃ key ∈ [buildHealthProbeAnnotationKeyForPort port.port healthProbeParamsPort,
          buildHealthProbeAnnotationKeyForPort port.port healthProbeParamsNumOfProbe,
          serviceAnnotationLoadBalancerHealthProbeNumOfProbe,
          buildHealthProbeAnnotationKeyForPort port.port healthProbeParamsProbeInterval,
          serviceAnnotationLoadBalancerHealthProbeInterval],
        (∃ s, serviceManifest.annotations key = some s) ∧ ∃ sep err, e = annotationError key sep err := by
  by_cases hp : port.protocol = protocolUDP ∨ port.protocol = protocolSCTP
  · simp [buildHealthProbeRulesForPort, hp] at h
  rw [buildHealthProbeRulesForPort_eq _ _ _ _ _ _ hp] at h
  cases hs : probeSettings simpleFold consts az serviceManifest port with
  | error e' =>
    simp only [hs, Except.bind, Except.error.injEq] at h
    subst h
    obtain ⟨s, err, hk, -, rfl⟩ := selectProbePort_error _ _ _ _ (probeSettings_error _ _ _ _ _ hs)
    exact .inr ⟨_, by simp, ⟨s, hk⟩, _, err, rfl⟩
  | ok x =>
    cases hg : getHealthProbeConfigProbeIntervalAndNumOfProbe consts serviceManifest port.port with
    | ok r => simp [hs, hg, Except.bind, Except.map] at h
    | error e' =>
      simp only [hs, hg, Except.bind, Except.map, Except.error.injEq] at h
      subst h
      -- the number of probes, then the interval: the port's own key or the service's
      rcases getHealthProbeConfigProbeIntervalAndNumOfProbe_error _ _ hg with hn | hi | ht
      · rcases int32HealthProbeConfig_error hn with ⟨s, err, hk, -, rfl⟩ | ⟨s, err, -, hk, -, rfl⟩ <;>
          exact .inr ⟨_, by simp, ⟨s, hk⟩, _, err, rfl⟩
      · rcases int32HealthProbeConfig_error hi with ⟨s, err, hk, -, rfl⟩ | ⟨s, err, -, hk, -, rfl⟩ <;>
          exact .inr ⟨_, by simp, ⟨s, hk⟩, _, err, rfl⟩
      · exact .inl ht

/-- A service-wide interval of 60 with the default 2 probes: the total check refuses it. -/
theorem buildHealthProbeRulesForPort_error_total :
    let port : ServicePort :=
      { name := lit "http", protocol := V1.protocolTCP, appProtocol := none, port := 80, nodePort := 30080 }
    let serviceManifest : Service :=
      ⟨fun k => if k = serviceAnnotationLoadBalancerHealthProbeInterval then some (lit "60") else none, [port]⟩
    buildHealthProbeRulesForPort asciiSimpleFold ⟨80, lit "/", 2, 5⟩ ⟨true⟩ serviceManifest port (lit "rule") =
        .error totalProbeError ∧
      (totalProbeError = totalProbeError ∨
        ∃ key ∈ [buildHealthProbeAnnotationKeyForPort port.port healthProbeParamsPort,
            buildHealthProbeAnnotationKeyForPort port.port healthProbeParamsNumOfProbe,
            serviceAnnotationLoadBalancerHealthProbeNumOfProbe,
            buildHealthProbeAnnotationKeyForPort port.port healthProbeParamsProbeInterval,
            serviceAnnotationLoadBalancerHealthProbeInterval],
          (∃ s, serviceManifest.annotations key = some s) ∧ ∃ sep err, totalProbeError = annotationError key sep err) := by
  intro port serviceManifest
  have h : buildHealthProbeRulesForPort asciiSimpleFold ⟨80, lit "/", 2, 5⟩ ⟨true⟩ serviceManifest port (lit "rule") =
      .error totalProbeError := by decide
  exact ⟨h, buildHealthProbeRulesForPort_error _ _ _ _ _ _ h⟩

end HealthProbe.Provider
