import HealthProbe.Provider.Stages

/-! The port a probe is sent to.

The protocol fixes the port's node port or nothing, and nothing is the default
(`protocolOf_cases`). A port's probe-port annotation overrides it, and the validator
and the resolver read the annotation in opposite orders: the validator accepts the name of a
port of the service before it tries a number in `[0, 65535]`, the resolver tries
`strconv.ParseInt(s, 10, 32)` before the names. The resolver then takes the node port of a
port of the service, or the number itself, which is an `int32` already (`parseInt_toInt32`);
the source does not check its range again. `buildHealthProbeRulesForPort_probePort` says what
a probe's port can be: with node ports and a default in `[0, 65535]`, the number escapes the
range only when the annotation names a port and reads as a number too (`NumericPortName`), as
`buildHealthProbeRulesForPort_numericName` shows for a port named `70000`. An annotation that
is no `int32` number is a port's name, and the probe goes to the node port of the last port of
that name (`buildHealthProbeRulesForPort_namedPort`). -/
namespace HealthProbe.Provider
open Go V1 Network Consts

variable (simpleFold : Nat → Nat)

/-- The name loop of the resolver keeps `current`, or takes the node port of a port. -/
theorem foldl_nodePort (probePort : GoString) (ports : List ServicePort) (current : Int32) :
    ports.foldl (fun acc item => if equalFold simpleFold item.name probePort then item.nodePort else acc)
        current = current ∨
      ∃ item ∈ ports, ports.foldl
        (fun acc item => if equalFold simpleFold item.name probePort then item.nodePort else acc)
        current = item.nodePort := by
  induction ports generalizing current with
  | nil => exact .inl rfl
  | cons item ports ih =>
    rcases ih (if equalFold simpleFold item.name probePort then item.nodePort else current) with h | ⟨i, hi, h⟩
    · simp only [List.foldl_cons, h]
      split_ifs
      · exact .inr ⟨item, List.mem_cons_self _ _, rfl⟩
      · exact .inl rfl
    · exact .inr ⟨i, List.mem_cons_of_mem _ hi, h⟩

/-- The name loop of the resolver, with no `break`, ends on the node port of the last port of
that name. -/
theorem foldl_nodePort_last (probePort : GoString) (ports : List ServicePort) (current : Int32) :
    ports.foldl (fun acc item => if equalFold simpleFold item.name probePort then item.nodePort else acc)
        current =
      ((ports.reverse.find? fun item => equalFold simpleFold item.name probePort).map (·.nodePort)).getD
        current := by
  rw [← List.foldr_reverse]
  induction ports.reverse with
  | nil => rfl
  | cons item rest ih =>
    simp only [List.foldr_cons, List.find?_cons, ih]
    cases equalFold simpleFold item.name probePort <;> rfl

/-- The validator accepts a text that is not an `int32` number only as the name of a port. -/
theorem probePortValidator_name {serviceManifest : Service} {s : GoString}
    (hv : probePortValidator simpleFold serviceManifest (some s) = .ok ()) (hnum : ∀ v, parseInt s 32 ≠ .ok v) :
    serviceManifest.ports.any (fun item => equalFold simpleFold item.name s) = true := by
  simp only [probePortValidator] at hv
  split_ifs at hv with hname
  · exact hname
  · split at hv
    · cases hv
    · rename_i n hn
      split_ifs at hv with hrange
      exact absurd (parseInt_of_atoi hn (by omega) (by omega)) (hnum n)

/-- The validator accepts `%d` of a port number in `[0, 65535]`. -/
theorem probePortValidator_itoa (simpleFold : Nat → Nat) (serviceManifest : Service) {v : Int32}
    (hrange : 0 ≤ v.toInt ∧ v.toInt ≤ 65535) :
    probePortValidator simpleFold serviceManifest (some (itoa v.toInt)) = .ok () := by
  simp only [probePortValidator, atoi_itoa]
  split_ifs with h1 h2
  · rfl
  · omega
  · rfl

/-- The resolver reads `%d` of a number no port of the service has as the number itself. -/
theorem resolveProbePort_itoa (simpleFold : Nat → Nat) {serviceManifest : Service} {v : Int32}
    (hfree : ∀ item ∈ serviceManifest.ports, item.port ≠ v) (current : Int32) :
    resolveProbePort simpleFold serviceManifest (itoa v.toInt) current = v := by
  have hb := Int32.toInt_bounds v
  have hv : BitVec.ofInt 32 v.toInt = v := BitVec.toInt_inj.1 (Int32.toInt_ofInt hb.1 hb.2)
  have hnone : serviceManifest.ports.find? (fun item => item.port == v) = none :=
    List.find?_eq_none.2 fun item hitem => by simpa using hfree item hitem
  simp only [resolveProbePort, parseInt_itoa (w := 30) hb.1 hb.2, hnone, hv]

/-- What the resolver makes of an annotation the validator accepted: `current`, the node
port of a port of the service, a number in `[0, 65535]`, or a number outside it that is also
the name of a port. -/
theorem resolveProbePort_cases {serviceManifest : Service} {s : GoString} (current : Int32)
    (hv : probePortValidator simpleFold serviceManifest (some s) = .ok ()) :
    resolveProbePort simpleFold serviceManifest s current = current ∨
      (∃ item ∈ serviceManifest.ports, resolveProbePort simpleFold serviceManifest s current = item.nodePort) ∨
      (0 ≤ (resolveProbePort simpleFold serviceManifest s current).toInt ∧
        (resolveProbePort simpleFold serviceManifest s current).toInt ≤ 65535) ∨
      (parseInt s 32 = .ok (resolveProbePort simpleFold serviceManifest s current).toInt ∧
        ∃ item ∈ serviceManifest.ports, equalFold simpleFold item.name s = true) := by
  unfold resolveProbePort
  split
  · rcases foldl_nodePort simpleFold s serviceManifest.ports current with h | h
    · exact .inl h
    · exact .inr (.inl h)
  · rename_i v hp
    split
    · rename_i item hitem
      exact .inr (.inl ⟨item, List.mem_of_find?_eq_some hitem, rfl⟩)
    · have hr : (BitVec.ofInt 32 v).toInt = v := parseInt_toInt32 hp
      rw [hr]
      simp only [probePortValidator] at hv
      split_ifs at hv with hname
      · exact .inr (.inr (.inr ⟨hp, List.any_eq_true.1 hname⟩))
      · split at hv
        · cases hv
        · rename_i n hn
          split_ifs at hv with hrange
          have := parseInt_of_atoi hn (by omega) (by omega)
          rw [hp] at this
          cases this
          exact .inr (.inr (.inl ⟨by omega, by omega⟩))

variable (consts : Defaults) (az : Cloud) (serviceManifest : Service) (port : ServicePort)

/-- What the probe-port stage returns: the port the protocol fixed or the default, or what
the resolver makes of an accepted annotation. -/
theorem selectProbePort_cases {fixed : Option Int32} {r : Int32}
    (h : selectProbePort simpleFold consts serviceManifest port fixed = .ok r) :
    r = fixed.getD consts.healthProbeDefaultRequestPort ∨ (∃ item ∈ serviceManifest.ports, r = item.nodePort) ∨
      (0 ≤ r.toInt ∧ r.toInt ≤ 65535) ∨
      ∃ s, serviceManifest.annotations (buildHealthProbeAnnotationKeyForPort port.port healthProbeParamsPort) =
          some s ∧ parseInt s 32 = .ok r.toInt ∧
        ∃ item ∈ serviceManifest.ports, equalFold simpleFold item.name s = true := by
  rw [selectProbePort_eq] at h
  split at h
  · cases h
    exact .inl rfl
  · rename_i s hs
    cases hv : probePortValidator simpleFold serviceManifest (some s) with
    | error e => simp [hv, Except.mapError, Except.map] at h
    | ok u =>
      simp only [hv, Except.mapError, Except.map, Except.ok.injEq] at h
      subst h
      rcases resolveProbePort_cases simpleFold _ hv with h | h | h | h
      · exact .inl h
      · exact .inr (.inl h)
      · exact .inr (.inr (.inl h))
      · exact .inr (.inr (.inr ⟨s, hs, h⟩))

/-- The port's probe-port annotation reads as the number `p` and is also the name of a port of
the service. -/
def NumericPortName (serviceManifest : Service) (port : ServicePort) (p : Int32) : Prop :=
  ∃ s, serviceManifest.annotations (buildHealthProbeAnnotationKeyForPort port.port healthProbeParamsPort) =
      some s ∧ parseInt s 32 = .ok p.toInt ∧ ∃ item ∈ serviceManifest.ports, equalFold simpleFold item.name s = true

/-- The port of a probe the builder makes is one of five kinds. -/
theorem buildHealthProbeRulesForPort_port_cases {lbrule : GoString} {probe : Probe}
    (h : buildHealthProbeRulesForPort simpleFold consts az serviceManifest port lbrule = .ok (some probe)) :
    ∃ props p, probe.probePropertiesFormat = some props ∧ props.port = some p ∧
      (p = port.nodePort ∨ (∃ item ∈ serviceManifest.ports, p = item.nodePort) ∨
        p = consts.healthProbeDefaultRequestPort ∨ (0 ≤ p.toInt ∧ p.toInt ≤ 65535) ∨
        NumericPortName simpleFold serviceManifest port p) := by
  obtain ⟨pp, pport, path, i, n, hs, -, rfl⟩ := buildHealthProbeRulesForPort_some _ _ _ _ _ h
  obtain ⟨-, hsel, -⟩ := probeSettings_ok _ _ _ _ _ hs
  refine ⟨_, pport, rfl, rfl, ?_⟩
  rcases selectProbePort_cases simpleFold consts serviceManifest port hsel with h | h | h | h
  · rcases protocolOf_cases simpleFold az serviceManifest port with hf | hf | ⟨hf, -⟩ <;>
      rw [hf] at h <;> simp [h]
  · exact .inr (.inl h)
  · exact .inr (.inr (.inr (.inl h)))
  · exact .inr (.inr (.inr (.inr h)))

/-- **The port of a probe the builder makes**: the port's node port, the node port of a port
of the service, the default, a number in `[0, 65535]`, or the number of a probe-port
annotation that is also the name of a port; and when the node ports and the default lie in
`[0, 65535]`, a port outside it is of the last kind. -/
theorem buildHealthProbeRulesForPort_probePort {lbrule : GoString} {probe : Probe}
    (h : buildHealthProbeRulesForPort simpleFold consts az serviceManifest port lbrule = .ok (some probe)) :
    ∃ props p, probe.probePropertiesFormat = some props ∧ props.port = some p ∧
      (p = port.nodePort ∨ (∃ item ∈ serviceManifest.ports, p = item.nodePort) ∨
        p = consts.healthProbeDefaultRequestPort ∨ (0 ≤ p.toInt ∧ p.toInt ≤ 65535) ∨
        NumericPortName simpleFold serviceManifest port p) ∧
      ((∀ q ∈ port.nodePort :: consts.healthProbeDefaultRequestPort :: serviceManifest.ports.map (·.nodePort),
          0 ≤ q.toInt ∧ q.toInt ≤ 65535) →
        ¬(0 ≤ p.toInt ∧ p.toInt ≤ 65535) → NumericPortName simpleFold serviceManifest port p) := by
  obtain ⟨props, p, hprops, hp, hcases⟩ := buildHealthProbeRulesForPort_port_cases simpleFold consts az _ _ h
  refine ⟨props, p, hprops, hp, hcases, fun hbound hout => ?_⟩
  -- every kind but the last lies in the range
  rcases hcases with rfl | ⟨item, hitem, rfl⟩ | rfl | hin | hname
  · exact absurd (hbound _ (List.mem_cons_self _ _)) hout
  · exact absurd (hbound _ (List.mem_cons_of_mem _ (List.mem_cons_of_mem _ (List.mem_map_of_mem _ hitem)))) hout
  · exact absurd (hbound _ (List.mem_cons_of_mem _ (List.mem_cons_self _ _))) hout
  · exact absurd hin hout
  · exact hname

/-- A TCP probe of a plain port goes to the port's node port. -/
theorem buildHealthProbeRulesForPort_probePort_tcp :
    let port : ServicePort :=
      { name := lit "tcp", protocol := V1.protocolTCP, appProtocol := some (lit "Tcp"), port := 80,
        nodePort := 30080 }
    let serviceManifest : Service := ⟨fun _ => none, [port]⟩
    let consts : Defaults := ⟨80, lit "/", 2, 5⟩
    let probe := probeOf (lit "rule") probeProtocolTCP 30080 none 5 2
    buildHealthProbeRulesForPort asciiSimpleFold consts ⟨true⟩ serviceManifest port (lit "rule") = .ok (some probe) ∧
      ∃ props p, probe.probePropertiesFormat = some props ∧ props.port = some p ∧
        (p = port.nodePort ∨ (∃ item ∈ serviceManifest.ports, p = item.nodePort) ∨
          p = consts.healthProbeDefaultRequestPort ∨ (0 ≤ p.toInt ∧ p.toInt ≤ 65535) ∨
          NumericPortName asciiSimpleFold serviceManifest port p) ∧
        ((∀ q ∈ port.nodePort :: consts.healthProbeDefaultRequestPort :: serviceManifest.ports.map (·.nodePort),
            0 ≤ q.toInt ∧ q.toInt ≤ 65535) →
          ¬(0 ≤ p.toInt ∧ p.toInt ≤ 65535) → NumericPortName asciiSimpleFold serviceManifest port p) := by
  intro port serviceManifest consts probe
  have h : buildHealthProbeRulesForPort asciiSimpleFold consts ⟨true⟩ serviceManifest port (lit "rule") =
      .ok (some probe) := by decide
  exact ⟨h, buildHealthProbeRulesForPort_probePort _ _ _ _ _ h⟩

/-- A port named `70000`, and its own probe-port annotation `70000`: the validator accepts the
name, the resolver reads the number, finds no port with that number, and the probe is sent to
port 70000. -/
theorem buildHealthProbeRulesForPort_numericName (simpleFold : Nat → Nat) (consts : Defaults) (az : Cloud)
    (lbrule : GoString) :
    let port : ServicePort :=
      { name := lit "70000", protocol := V1.protocolTCP, appProtocol := none, port := 80, nodePort := 30080 }
    let serviceManifest : Service :=
      ⟨fun k => if k = buildHealthProbeAnnotationKeyForPort 80 healthProbeParamsPort then some (lit "70000")
        else if k = serviceAnnotationLoadBalancerHealthProbeInterval then some (lit "5")
        else if k = serviceAnnotationLoadBalancerHealthProbeNumOfProbe then some (lit "2")
        else none, [port]⟩
    buildHealthProbeRulesForPort simpleFold consts az serviceManifest port lbrule =
      .ok (some (probeOf lbrule probeProtocolHTTP 70000 (some consts.healthProbeDefaultRequestPath) 5 2)) ∧
    ¬ (0 ≤ (70000 : Int32).toInt ∧ (70000 : Int32).toInt ≤ 65535) := by
  intro port serviceManifest
  have getter : getHealthProbeConfigProbeIntervalAndNumOfProbe consts serviceManifest 80 = .ok (5, 2) := by
    rw [getHealthProbeConfigProbeIntervalAndNumOfProbe, getHealthProbeConfigNumOfProbe,
      getHealthProbeConfigProbeInterval, int32HealthProbeConfig_eq, int32HealthProbeConfig_eq]
    simp +decide only [serviceManifest, ite_false, ite_true]
  -- the other lookups: only the probe port is annotated
  have hproto : serviceManifest.annotations (buildHealthProbeAnnotationKeyForPort 80 healthProbeParamsProtocol) =
      none := by decide
  have hgproto : serviceManifest.annotations serviceAnnotationLoadBalancerHealthProbeProtocol = none := by decide
  have hport : serviceManifest.annotations (buildHealthProbeAnnotationKeyForPort 80 healthProbeParamsPort) =
      some (lit "70000") := by decide
  have hpath : serviceManifest.annotations (buildHealthProbeAnnotationKeyForPort 80 healthProbeParamsRequestPath) =
      none := by decide
  have hgpath : serviceManifest.annotations serviceAnnotationLoadBalancerHealthProbeRequestPath = none := by decide
  have hp : port.port = 80 := rfl
  have happ : port.appProtocol = none := rfl
  have htcp : ¬(port.protocol = protocolUDP ∨ port.protocol = protocolSCTP) := by decide
  -- the validator accepts the name, the resolver reads the number
  have named : probePortValidator simpleFold serviceManifest (some (lit "70000")) = .ok () := rfl
  have resolved :
      resolveProbePort simpleFold serviceManifest (lit "70000") consts.healthProbeDefaultRequestPort = 70000 := by
    rw [resolveProbePort, show parseInt (lit "70000") 32 = .ok 70000 by decide]
    rfl
  clear_value port serviceManifest
  have trim : trimSpace protocolHTTP = protocolHTTP := by decide
  have http : probeProtocolFor simpleFold az port protocolHTTP = (probeProtocolHTTP, none) := rfl
  have https : equalFold simpleFold probeProtocolHTTP protocolHTTPS = false := rfl
  have http' : equalFold simpleFold probeProtocolHTTP protocolHTTP = true := rfl
  refine ⟨?_, by decide⟩
  rw [buildHealthProbeRulesForPort_eq _ _ _ _ _ _ htcp, probeSettings_eq, selectProbePort_eq, hp, getter]
  simp only [protocolOf, selectRequestPath_eq, hp, hproto, hgproto, happ, hport, hpath, hgpath, Option.or,
    Option.getD, trim, http, https, http', named, resolved, Bool.false_or, Except.bind, Except.map,
    Except.mapError, ite_true]

/-- **A probe-port annotation that is not an `int32` number is a port's name**: the validator
accepted it only as the name of a port of the service, ignoring case, and the probe goes to
the node port of the last port of that name (the name loop has no `break`). -/
theorem buildHealthProbeRulesForPort_namedPort {lbrule : GoString} {probe : Probe} {s : GoString}
    (h : buildHealthProbeRulesForPort simpleFold consts az serviceManifest port lbrule = .ok (some probe))
    (hs : serviceManifest.annotations (buildHealthProbeAnnotationKeyForPort port.port healthProbeParamsPort) = some s)
    (hnum : ∀ v, parseInt s 32 ≠ .ok v) :
    ∃ props item, probe.probePropertiesFormat = some props ∧
      serviceManifest.ports.reverse.find? (fun item => equalFold simpleFold item.name s) = some item ∧
      props.port = some item.nodePort := by
  obtain ⟨pp, pport, path, i, n, hset, -, rfl⟩ := buildHealthProbeRulesForPort_some _ _ _ _ _ h
  obtain ⟨-, hsel, -⟩ := probeSettings_ok _ _ _ _ _ hset
  rw [selectProbePort_eq, hs] at hsel
  cases hv : probePortValidator simpleFold serviceManifest (some s) with
  | error e => simp [hv, Except.mapError, Except.map] at hsel
  | ok u =>
    simp only [hv, Except.mapError, Except.map, Except.ok.injEq] at hsel
    obtain ⟨item, hitem⟩ : ∃ item,
        serviceManifest.ports.reverse.find? (fun item => equalFold simpleFold item.name s) = some item :=
      Option.isSome_iff_exists.1 (List.find?_isSome.2 (by
        simpa [List.any_eq_true] using probePortValidator_name simpleFold hv hnum))
    refine ⟨_, item, rfl, hitem, ?_⟩
    rw [← hsel, resolveProbePort]
    split
    · rw [foldl_nodePort_last, hitem]; rfl
    · rename_i v hp; exact absurd hp (hnum v)

/-- Ports named `web` and `WEB`, and the probe-port annotation `web`: the probe goes to the
node port of the second. -/
theorem buildHealthProbeRulesForPort_namedPort_last :
    let web : ServicePort :=
      { name := lit "web", protocol := V1.protocolTCP, appProtocol := none, port := 80, nodePort := 30001 }
    let webUpper : ServicePort :=
      { name := lit "WEB", protocol := V1.protocolTCP, appProtocol := none, port := 81, nodePort := 30002 }
    let serviceManifest : Service :=
      ⟨fun k => if k = buildHealthProbeAnnotationKeyForPort 80 healthProbeParamsPort then some (lit "web") else none,
        [web, webUpper]⟩
    let probe := probeOf (lit "rule") probeProtocolHTTP 30002 (some (lit "/")) 5 2
    buildHealthProbeRulesForPort asciiSimpleFold ⟨80, lit "/", 2, 5⟩ ⟨true⟩ serviceManifest web (lit "rule") =
        .ok (some probe) ∧
      serviceManifest.annotations (buildHealthProbeAnnotationKeyForPort 80 healthProbeParamsPort) = some (lit "web") ∧
      (∀ v, parseInt (lit "web") 32 ≠ .ok v) ∧
      ∃ props item, probe.probePropertiesFormat = some props ∧
        serviceManifest.ports.reverse.find? (fun item => equalFold asciiSimpleFold item.name (lit "web")) =
          some item ∧ props.port = some item.nodePort := by
  intro web webUpper serviceManifest probe
  have h : buildHealthProbeRulesForPort asciiSimpleFold ⟨80, lit "/", 2, 5⟩ ⟨true⟩ serviceManifest web (lit "rule") =
      .ok (some probe) := by decide
  have hs : serviceManifest.annotations (buildHealthProbeAnnotationKeyForPort 80 healthProbeParamsPort) =
      some (lit "web") := by simp only [serviceManifest, if_true]
  have hnum : ∀ v, parseInt (lit "web") 32 ≠ .ok v := fun v hv => by
    rw [show parseInt (lit "web") 32 = .error (.numError (lit "ParseInt") (lit "web") .errSyntax) by decide] at hv
    cases hv
  exact ⟨h, hs, hnum, buildHealthProbeRulesForPort_namedPort asciiSimpleFold _ _ serviceManifest web h hs hnum⟩

end HealthProbe.Provider
