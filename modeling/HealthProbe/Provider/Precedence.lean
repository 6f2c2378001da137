import HealthProbe.Provider.Stages

/-! The precedence of the health-probe settings.

The builder reads each of the protocol, the request path, the number of probes and the
interval from a port's own annotation first, then (the protocol only) from
`port.AppProtocol`, then from the service's annotation, and last takes the default. A source
that is present hides every later one. `Shadowed` says that two inputs differ only in such
hidden sources, and in what the builder never reads of the service's ports (it reads their
names, numbers and node ports, `portReads`), and `buildHealthProbeRulesForPort_shadowed` that
the builder returns the same probe or the same error on both, whatever the hidden values are:
unparsable ones and ones below their minimum included. Each stage gets its own lemma, in the
order the builder runs them. -/
namespace HealthProbe.Provider
open Go V1 Network Consts

/-- The service-wide annotation `key` of the setting `param` is the same in `a₁` and `a₂`,
unless the port's own annotation for `param` hides it. -/
def AgreesUnlessOwn (a₁ a₂ : Annotations) (port : Int32) (param : HealthProbeParams) (key : GoString) :
    Prop :=
  a₁ (buildHealthProbeAnnotationKeyForPort port param) = none → a₁ key = a₂ key

/-- What the probe-port stage reads of a port of the service: its name, number and node port. -/
def portReads (item : ServicePort) : GoString × Int32 × Int32 := (item.name, item.port, item.nodePort)

/-- Two services and two of their ports that differ only in what an earlier source hides:
`port.AppProtocol` when the port's own protocol is given, and a service-wide annotation when
the port's own annotation for that setting, or for the protocol `port.AppProtocol`, is
given. The services' ports agree on what the builder reads of them, so a port of the list may
carry the other `AppProtocol` as well. -/
structure Shadowed (s₁ s₂ : Service) (p₁ p₂ : ServicePort) : Prop where
  ports : s₁.ports.map portReads = s₂.ports.map portReads
  port : p₁ = { p₂ with appProtocol := p₁.appProtocol }
  unshadowed : ∀ k, k ∉ globalKeys → s₁.annotations k = s₂.annotations k
  appProtocol :
    s₁.annotations (buildHealthProbeAnnotationKeyForPort p₁.port healthProbeParamsProtocol) = none →
      p₁.appProtocol = p₂.appProtocol
  protocol : p₁.appProtocol = none →
    AgreesUnlessOwn s₁.annotations s₂.annotations p₁.port healthProbeParamsProtocol
      serviceAnnotationLoadBalancerHealthProbeProtocol
  requestPath : AgreesUnlessOwn s₁.annotations s₂.annotations p₁.port healthProbeParamsRequestPath
    serviceAnnotationLoadBalancerHealthProbeRequestPath
  numOfProbe : AgreesUnlessOwn s₁.annotations s₂.annotations p₁.port healthProbeParamsNumOfProbe
    serviceAnnotationLoadBalancerHealthProbeNumOfProbe
  interval : AgreesUnlessOwn s₁.annotations s₂.annotations p₁.port healthProbeParamsProbeInterval
    serviceAnnotationLoadBalancerHealthProbeInterval

/-- The first of two sources, when it is the same in both runs, hides the second. -/
theorem or_shadowed {α : Type} {x₁ x₂ y₁ y₂ : Option α} (hx : x₁ = x₂) (hy : x₁ = none → y₁ = y₂) :
    x₁.or y₁ = x₂.or y₂ := by
  subst hx
  cases x₁ with
  | none => rw [hy rfl]
  | some _ => rfl

section
variable (simpleFold : Nat → Nat) {s₁ s₂ : Service} (h : s₁.ports.map portReads = s₂.ports.map portReads)
include h

/-- The validator reads the names of the service's ports. -/
theorem probePortValidator_ports : probePortValidator simpleFold s₁ = probePortValidator simpleFold s₂ := by
  have hany : ∀ s : GoString, s₁.ports.any (fun item => equalFold simpleFold item.name s) =
      s₂.ports.any (fun item => equalFold simpleFold item.name s) := fun s => by
    have key : ∀ ports : List ServicePort, ports.any (fun item => equalFold simpleFold item.name s) = true ↔
        ∃ r ∈ ports.map portReads, equalFold simpleFold r.1 s = true := fun _ => by
      simp [List.any_eq_true, portReads]
    exact Bool.eq_iff_iff.2 (by rw [key, key, h])
  funext s
  cases s <;> simp only [probePortValidator, hany]

/-- The resolver reads the names, numbers and node ports of the service's ports. -/
theorem resolveProbePort_ports : resolveProbePort simpleFold s₁ = resolveProbePort simpleFold s₂ := by
  have hfold : ∀ p current,
      s₁.ports.foldl (fun acc item => if equalFold simpleFold item.name p then item.nodePort else acc) current =
        s₂.ports.foldl (fun acc item => if equalFold simpleFold item.name p then item.nodePort else acc)
          current := fun p current => by
    simpa only [List.foldl_map, portReads] using
      congrArg (fun l => l.foldl (fun acc r => if equalFold simpleFold r.1 p then r.2.2 else acc) current) h
  have hfind : ∀ v, (s₁.ports.find? fun item => item.port == v).map (·.nodePort) =
      (s₂.ports.find? fun item => item.port == v).map (·.nodePort) := fun v => by
    simpa only [List.find?_map, Option.map_map, Function.comp_def, portReads] using
      congrArg (fun l => (l.find? fun r => r.2.1 == v).map fun r => r.2.2) h
  funext p current
  unfold resolveProbePort
  split
  · exact hfold p current
  · rename_i port _
    have := hfind (BitVec.ofInt 32 port)
    revert this
    cases (s₁.ports.find? fun item => item.port == BitVec.ofInt 32 port) <;>
      cases (s₂.ports.find? fun item => item.port == BitVec.ofInt 32 port) <;> simp

end

namespace Shadowed

variable {s₁ s₂ : Service} {p₁ p₂ : ServicePort} (h : Shadowed s₁ s₂ p₁ p₂)
  (simpleFold : Nat → Nat) (consts : Defaults) (az : Cloud)
include h

theorem port_eq : p₁.port = p₂.port := by rw [h.port]

/-- A port's own annotations are never hidden. -/
theorem own (param : HealthProbeParams) :
    s₁.annotations (buildHealthProbeAnnotationKeyForPort p₁.port param) =
      s₂.annotations (buildHealthProbeAnnotationKeyForPort p₂.port param) := by
  rw [← h.port_eq]
  exact h.unshadowed _ fun hg => buildHealthProbeAnnotationKeyForPort_ne _ _ hg rfl

theorem protocolOf_eq : protocolOf simpleFold az s₁ p₁ = protocolOf simpleFold az s₂ p₂ := by
  have hnode : p₁.nodePort = p₂.nodePort := by rw [h.port]
  simp only [protocolOf, probeProtocolFor, hnode]
  rw [or_shadowed (h.own _) fun hk => or_shadowed (h.appProtocol hk) fun ha => h.protocol ha hk]

theorem selectProbePort_eq (fixed : Option Int32) :
    selectProbePort simpleFold consts s₁ p₁ fixed = selectProbePort simpleFold consts s₂ p₂ fixed := by
  rw [Provider.selectProbePort_eq, Provider.selectProbePort_eq, h.own, h.port_eq,
    probePortValidator_ports simpleFold h.ports, resolveProbePort_ports simpleFold h.ports]

theorem selectRequestPath_eq (probeProtocol : GoString) :
    selectRequestPath simpleFold consts s₁ p₁ probeProtocol =
      selectRequestPath simpleFold consts s₂ p₂ probeProtocol := by
  rw [Provider.selectRequestPath_eq, Provider.selectRequestPath_eq, or_shadowed (h.own _) h.requestPath]

theorem probeSettings_eq :
    probeSettings simpleFold consts az s₁ p₁ = probeSettings simpleFold consts az s₂ p₂ := by
  rw [Provider.probeSettings_eq, Provider.probeSettings_eq, h.protocolOf_eq, h.selectProbePort_eq,
    h.selectRequestPath_eq]

/-- A number read through a port's own annotation and the service's. -/
theorem int32HealthProbeConfig_eq {param : HealthProbeParams} {key : GoString}
    (hk : AgreesUnlessOwn s₁.annotations s₂.annotations p₁.port param key)
    (validator : Int32BusinessValidator) (default : Int32) (sep : GoString) :
    int32HealthProbeConfig s₁.annotations p₁.port param key validator default sep =
      int32HealthProbeConfig s₂.annotations p₂.port param key validator default sep := by
  rw [Provider.int32HealthProbeConfig_eq, Provider.int32HealthProbeConfig_eq, ← h.own]
  cases hown : s₁.annotations (buildHealthProbeAnnotationKeyForPort p₁.port param) with
  | none => rw [hk hown]
  | some _ => rw [h.port_eq]

end Shadowed

/-- **A present source hides every later one**: on two inputs that differ only in hidden
sources, the builder returns the same probe or the same error. -/
theorem buildHealthProbeRulesForPort_shadowed (simpleFold : Nat → Nat) (consts : Defaults) (az : Cloud)
    {s₁ s₂ : Service} {p₁ p₂ : ServicePort} (lbrule : GoString) (h : Shadowed s₁ s₂ p₁ p₂) :
    buildHealthProbeRulesForPort simpleFold consts az s₁ p₁ lbrule =
      buildHealthProbeRulesForPort simpleFold consts az s₂ p₂ lbrule := by
  have hprotocol : p₁.protocol = p₂.protocol := by rw [h.port]
  simp only [buildHealthProbeRulesForPort, hprotocol, h.probeSettings_eq,
    h.int32HealthProbeConfig_eq h.numOfProbe, h.int32HealthProbeConfig_eq h.interval]

/-- The port's own protocol hides its `AppProtocol`, in the argument and in the service's list,
and the service's protocol; its own interval hides a service-wide interval that does not
parse. -/
theorem buildHealthProbeRulesForPort_shadowed_own :
    let own : Annotations := fun k =>
      if k = buildHealthProbeAnnotationKeyForPort 80 healthProbeParamsProtocol then some (lit "Tcp")
      else if k = buildHealthProbeAnnotationKeyForPort 80 healthProbeParamsProbeInterval then some (lit "10")
      else none
    let port : ServicePort :=
      { name := lit "http", protocol := V1.protocolTCP, appProtocol := none, port := 80, nodePort := 30080 }
    let s₁ : Service := ⟨own, [port]⟩
    let s₂ : Service :=
      ⟨fun k => if k = serviceAnnotationLoadBalancerHealthProbeInterval then some (lit "ten")
        else if k = serviceAnnotationLoadBalancerHealthProbeProtocol then some (lit "Udp") else own k,
        [{ port with appProtocol := some (lit "Https") }]⟩
    Shadowed s₁ s₂ port { port with appProtocol := some (lit "Https") } ∧
      buildHealthProbeRulesForPort asciiSimpleFold ⟨80, lit "/", 2, 5⟩ ⟨true⟩ s₁ port (lit "rule") =
        buildHealthProbeRulesForPort asciiSimpleFold ⟨80, lit "/", 2, 5⟩ ⟨true⟩ s₂
          { port with appProtocol := some (lit "Https") } (lit "rule") := by
  intro own port s₁ s₂
  have h : Shadowed s₁ s₂ port { port with appProtocol := some (lit "Https") } :=
    { ports := rfl
      port := rfl
      unshadowed := fun k hk => by
        have h1 : k ≠ serviceAnnotationLoadBalancerHealthProbeInterval := fun e => hk (e ▸ by decide)
        have h2 : k ≠ serviceAnnotationLoadBalancerHealthProbeProtocol := fun e => hk (e ▸ by decide)
        simp only [s₁, s₂, if_neg h1, if_neg h2]
      appProtocol := fun hk => absurd hk (by decide)
      protocol := fun _ hk => absurd hk (by decide)
      requestPath := fun _ => by decide
      numOfProbe := fun _ => by decide
      interval := fun hk => absurd hk (by decide) }
  exact ⟨h, buildHealthProbeRulesForPort_shadowed _ _ _ _ h⟩

end HealthProbe.Provider
