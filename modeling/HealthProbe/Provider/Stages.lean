import HealthProbe.Provider.Builder

/-! What each stage of the builder returns.

One lemma a stage, stated over the annotations it reads, so that the results about the
builder cite these and never unfold a stage; beside it, what the stage's success and failure
say. The protocol and the request path are read without validators and never fail
(`selectProtocol_eq`, `selectRequestPath_eq`); the probe port is the one setting before the
number of probes that can fail (`probeSettings_error`), and only on a port's own annotation
the validator refuses (`selectProbePort_error`). The number of probes and the interval are a
port's own annotation, else the service's, else the default (`int32HealthProbeConfig_eq`).
Last, `buildHealthProbeRulesForPort_some` takes a probe the builder made apart into the
stages' results. -/
namespace HealthProbe.Provider
open Go V1 Network Consts

variable (simpleFold : Nat → Nat) (consts : Defaults) (az : Cloud) (serviceManifest : Service)
  (port : ServicePort)

theorem selectProtocol_eq :
    selectProtocol serviceManifest port =
      .ok (((serviceManifest.annotations (buildHealthProbeAnnotationKeyForPort port.port healthProbeParamsProtocol)).or
        (port.appProtocol.or (serviceManifest.annotations serviceAnnotationLoadBalancerHealthProbeProtocol))).getD
          Network.protocolHTTP) := by
  simp only [selectProtocol, getHealthProbeConfigOfPortFromK8sSvcAnnotation,
    getAttributeValueInSvcAnnotation_nil]
  cases serviceManifest.annotations (buildHealthProbeAnnotationKeyForPort port.port healthProbeParamsProtocol) <;>
    cases port.appProtocol <;> rfl

theorem selectRequestPath_eq (probeProtocol : GoString) :
    selectRequestPath simpleFold consts serviceManifest port probeProtocol =
      if equalFold simpleFold probeProtocol Network.protocolHTTPS ||
          equalFold simpleFold probeProtocol Network.protocolHTTP then
        .ok (some (((serviceManifest.annotations
            (buildHealthProbeAnnotationKeyForPort port.port healthProbeParamsRequestPath)).or
          (serviceManifest.annotations serviceAnnotationLoadBalancerHealthProbeRequestPath)).getD
            consts.healthProbeDefaultRequestPath))
      else .ok none := by
  simp only [selectRequestPath, getHealthProbeConfigOfPortFromK8sSvcAnnotation,
    getAttributeValueInSvcAnnotation_nil]
  split
  · cases serviceManifest.annotations
      (buildHealthProbeAnnotationKeyForPort port.port healthProbeParamsRequestPath) <;> rfl
  · rfl

theorem selectProbePort_eq (fixed : Option Int32) :
    selectProbePort simpleFold consts serviceManifest port fixed =
      match serviceManifest.annotations (buildHealthProbeAnnotationKeyForPort port.port healthProbeParamsPort) with
      | none => .ok (fixed.getD consts.healthProbeDefaultRequestPort)
      | some p =>
        ((probePortValidator simpleFold serviceManifest (some p)).mapError
          (annotationError (buildHealthProbeAnnotationKeyForPort port.port healthProbeParamsPort) (lit ": "))).map
          fun _ => resolveProbePort simpleFold serviceManifest p (fixed.getD consts.healthProbeDefaultRequestPort) := by
  simp only [selectProbePort, getHealthProbeConfigOfPortFromK8sSvcAnnotation, getAttributeValueInSvcAnnotation]
  cases serviceManifest.annotations (buildHealthProbeAnnotationKeyForPort port.port healthProbeParamsPort) with
  | none => rfl
  | some p =>
    dsimp only
    rw [validate_singleton]
    cases probePortValidator simpleFold serviceManifest (some p) <;> rfl

/-- The probe-port stage fails only on a port's own annotation that the validator refuses. -/
theorem selectProbePort_error {fixed : Option Int32} {e : GoError}
    (h : selectProbePort simpleFold consts serviceManifest port fixed = .error e) :
    ∃ s err, serviceManifest.annotations (buildHealthProbeAnnotationKeyForPort port.port healthProbeParamsPort) = some s ∧
      probePortValidator simpleFold serviceManifest (some s) = .error err ∧
      e = annotationError (buildHealthProbeAnnotationKeyForPort port.port healthProbeParamsPort) (lit ": ") err := by
  rw [selectProbePort_eq] at h
  split at h
  · cases h
  · rename_i s hs
    cases hv : probePortValidator simpleFold serviceManifest (some s) with
    | error err =>
      simp only [hv, Except.mapError, Except.map, Except.error.injEq] at h
      exact ⟨s, err, hs, hv, h.symm⟩
    | ok u => simp [hv, Except.mapError, Except.map] at h

/-- The probe's protocol and the port it fixes, from the protocol the sources give. -/
def protocolOf : GoString × Option Int32 :=
  probeProtocolFor simpleFold az port (trimSpace (((serviceManifest.annotations
    (buildHealthProbeAnnotationKeyForPort port.port healthProbeParamsProtocol)).or
      (port.appProtocol.or (serviceManifest.annotations serviceAnnotationLoadBalancerHealthProbeProtocol))).getD
        Network.protocolHTTP))

/-- The three outcomes of the protocol switch. -/
theorem protocolOf_cases :
    protocolOf simpleFold az serviceManifest port = (probeProtocolTCP, some port.nodePort) ∨
      protocolOf simpleFold az serviceManifest port = (probeProtocolHTTP, none) ∨
      (protocolOf simpleFold az serviceManifest port = (probeProtocolHTTPS, none) ∧
        az.useStandardLoadBalancer = true) := by
  unfold protocolOf probeProtocolFor
  split_ifs <;> simp_all

theorem probeSettings_eq :
    probeSettings simpleFold consts az serviceManifest port =
      (selectProbePort simpleFold consts serviceManifest port (protocolOf simpleFold az serviceManifest port).2).bind
        fun probePort =>
          (selectRequestPath simpleFold consts serviceManifest port (protocolOf simpleFold az serviceManifest port).1).map
            fun path => ((protocolOf simpleFold az serviceManifest port).1, probePort, path) := by
  simp only [probeSettings, selectProtocol_eq, protocolOf]
  rfl

theorem selectRequestPath_ok (probeProtocol : GoString) :
    ∃ path, selectRequestPath simpleFold consts serviceManifest port probeProtocol = .ok path := by
  rw [selectRequestPath_eq]
  split <;> exact ⟨_, rfl⟩

theorem selectRequestPath_tcp :
    selectRequestPath simpleFold consts serviceManifest port probeProtocolTCP = .ok none := by
  rw [selectRequestPath_eq]
  rfl

theorem selectRequestPath_web {probeProtocol : GoString}
    (h : probeProtocol = probeProtocolHTTP ∨ probeProtocol = probeProtocolHTTPS) :
    ∃ path, selectRequestPath simpleFold consts serviceManifest port probeProtocol = .ok (some path) := by
  rcases h with rfl | rfl <;> exact ⟨_, by rw [selectRequestPath_eq]; rfl⟩

/-- **Before the number of probes, only the probe-port annotation can fail.** -/
theorem probeSettings_error {e : GoError}
    (h : probeSettings simpleFold consts az serviceManifest port = .error e) :
    selectProbePort simpleFold consts serviceManifest port (protocolOf simpleFold az serviceManifest port).2 =
      .error e := by
  rw [probeSettings_eq] at h
  obtain ⟨path, hpath⟩ :=
    selectRequestPath_ok simpleFold consts serviceManifest port (protocolOf simpleFold az serviceManifest port).1
  rw [hpath] at h
  cases hs : selectProbePort simpleFold consts serviceManifest port (protocolOf simpleFold az serviceManifest port).2 <;>
    simp_all [Except.bind, Except.map]

/-- What a successful `probeSettings` is made of. -/
theorem probeSettings_ok {pp : GoString} {pport : Int32} {path : Option GoString}
    (h : probeSettings simpleFold consts az serviceManifest port = .ok (pp, pport, path)) :
    pp = (protocolOf simpleFold az serviceManifest port).1 ∧
      selectProbePort simpleFold consts serviceManifest port (protocolOf simpleFold az serviceManifest port).2 =
        .ok pport ∧
      selectRequestPath simpleFold consts serviceManifest port pp = .ok path := by
  rw [probeSettings_eq] at h
  revert h
  cases selectProbePort simpleFold consts serviceManifest port (protocolOf simpleFold az serviceManifest port).2 <;>
    cases hp : selectRequestPath simpleFold consts serviceManifest port (protocolOf simpleFold az serviceManifest port).1 <;>
    simp [Except.bind, Except.map]
  rintro rfl rfl rfl
  exact ⟨rfl, rfl, hp⟩

theorem int32HealthProbeConfig_eq (annotations : Annotations) (p : Int32) (param : HealthProbeParams)
    (key : GoString) (validator : Int32BusinessValidator) (default : Int32) (sep : GoString) :
    int32HealthProbeConfig annotations p param key validator default sep =
      match annotations (buildHealthProbeAnnotationKeyForPort p param) with
      | some v => (extractInt32FromString v [validator]).mapError
          (annotationError (buildHealthProbeAnnotationKeyForPort p param) sep)
      | none =>
        match annotations key with
        | some v => (extractInt32FromString v [validator]).mapError (annotationError key (lit ": "))
        | none => .ok default := by
  simp only [int32HealthProbeConfig, getInt32HealthProbeConfigOfPortFromK8sSvcAnnotation,
    getint32ValueFromK8sSvcAnnotation]
  cases annotations (buildHealthProbeAnnotationKeyForPort p param) with
  | some v => dsimp only; cases extractInt32FromString v [validator] <;> rfl
  | none =>
    cases annotations key with
    | some v => dsimp only; cases extractInt32FromString v [validator] <;> rfl
    | none => rfl

/-- A setting fails only on an annotation that is present, and names its key. -/
theorem int32HealthProbeConfig_error {annotations : Annotations} {p : Int32} {param : HealthProbeParams}
    {key : GoString} {validator : Int32BusinessValidator} {default : Int32} {sep : GoString} {e : GoError}
    (h : int32HealthProbeConfig annotations p param key validator default sep = .error e) :
    (∃ s err, annotations (buildHealthProbeAnnotationKeyForPort p param) = some s ∧
      extractInt32FromString s [validator] = .error err ∧
      e = annotationError (buildHealthProbeAnnotationKeyForPort p param) sep err) ∨
    (∃ s err, annotations (buildHealthProbeAnnotationKeyForPort p param) = none ∧ annotations key = some s ∧
      extractInt32FromString s [validator] = .error err ∧ e = annotationError key (lit ": ") err) := by
  rw [int32HealthProbeConfig_eq] at h
  split at h
  · rename_i s hs
    cases hx : extractInt32FromString s [validator] with
    | error err =>
      simp only [hx, Except.mapError, Except.error.injEq] at h
      exact .inl ⟨s, err, hs, hx, h.symm⟩
    | ok v => simp [hx, Except.mapError] at h
  · rename_i hown
    split at h
    · rename_i s hs
      cases hx : extractInt32FromString s [validator] with
      | error err =>
        simp only [hx, Except.mapError, Except.error.injEq] at h
        exact .inr ⟨s, err, hown, hs, hx, h.symm⟩
      | ok v => simp [hx, Except.mapError] at h
    · cases h

/-- A setting read through a minimum is its default, or at least the minimum. -/
theorem int32HealthProbeConfig_minimum {annotations : Annotations} {p : Int32} {param param' : HealthProbeParams}
    {key : GoString} {minimum : Int} {default v : Int32} {sep : GoString}
    (h : int32HealthProbeConfig annotations p param key (minimumValidator param' minimum) default sep = .ok v) :
    v = default ∨ minimum ≤ v.toInt := by
  have read : ∀ {s : GoString},
      extractInt32FromString s [minimumValidator param' minimum] = .ok v → minimum ≤ v.toInt := fun hs => by
    obtain ⟨-, -, -, hv⟩ := extractInt32FromString_ok hs
    exact minimumValidator_ok.1 (by simpa using hv)
  rw [int32HealthProbeConfig_eq] at h
  split at h
  · exact .inr (read (mapError_eq_ok.1 h))
  · split at h
    · exact .inr (read (mapError_eq_ok.1 h))
    · cases h
      exact .inl rfl

theorem getHealthProbeConfigProbeIntervalAndNumOfProbe_eq_ok {p i n : Int32} :
    getHealthProbeConfigProbeIntervalAndNumOfProbe consts serviceManifest p = .ok (i, n) ↔
      getHealthProbeConfigNumOfProbe consts serviceManifest p = .ok n ∧
      getHealthProbeConfigProbeInterval consts serviceManifest p = .ok i ∧ (i * n).toInt < 120 := by
  unfold getHealthProbeConfigProbeIntervalAndNumOfProbe
  cases getHealthProbeConfigNumOfProbe consts serviceManifest p <;>
    cases getHealthProbeConfigProbeInterval consts serviceManifest p <;>
    simp only [bind, Except.bind, reduceCtorEq, false_and, and_false, Except.ok.injEq]
  split
  · simp only [throw, throwThe, MonadExceptOf.throw, reduceCtorEq, false_iff, not_and]
    rintro rfl rfl
    omega
  · simp only [pure, Except.pure, Except.ok.injEq, Prod.mk.injEq]
    constructor
    · rintro ⟨rfl, rfl⟩
      exact ⟨rfl, rfl, by omega⟩
    · rintro ⟨rfl, rfl, -⟩
      exact ⟨rfl, rfl⟩

theorem getHealthProbeConfigProbeIntervalAndNumOfProbe_error {p : Int32} {e : GoError}
    (h : getHealthProbeConfigProbeIntervalAndNumOfProbe consts serviceManifest p = .error e) :
    getHealthProbeConfigNumOfProbe consts serviceManifest p = .error e ∨
      getHealthProbeConfigProbeInterval consts serviceManifest p = .error e ∨ e = totalProbeError := by
  unfold getHealthProbeConfigProbeIntervalAndNumOfProbe at h
  cases hn : getHealthProbeConfigNumOfProbe consts serviceManifest p <;>
    cases hi : getHealthProbeConfigProbeInterval consts serviceManifest p <;>
    simp only [hn, hi, bind, Except.bind, Except.error.injEq] at h
  · exact .inl (congrArg _ h)
  · exact .inl (congrArg _ h)
  · exact .inr (.inl (congrArg _ h))
  · split at h
    · simp only [throw, throwThe, MonadExceptOf.throw, Except.error.injEq] at h
      exact .inr (.inr h.symm)
    · cases h

/-- **What a probe the builder makes is made of**: the protocol, port and path of
`probeSettings`, and the interval and number of probes the getter returns. -/
theorem buildHealthProbeRulesForPort_some {lbrule : GoString} {probe : Probe}
    (h : buildHealthProbeRulesForPort simpleFold consts az serviceManifest port lbrule = .ok (some probe)) :
    ∃ pp pport path i n, probeSettings simpleFold consts az serviceManifest port = .ok (pp, pport, path) ∧
      getHealthProbeConfigProbeIntervalAndNumOfProbe consts serviceManifest port.port = .ok (i, n) ∧
      probe = probeOf lbrule pp pport path i n := by
  by_cases hp : port.protocol = protocolUDP ∨ port.protocol = protocolSCTP
  · simp [buildHealthProbeRulesForPort, hp] at h
  rw [buildHealthProbeRulesForPort_eq _ _ _ _ _ _ hp] at h
  revert h
  rcases probeSettings simpleFold consts az serviceManifest port with e | ⟨pp, pport, path⟩ <;>
    rcases getHealthProbeConfigProbeIntervalAndNumOfProbe consts serviceManifest port.port with e' | ⟨i, n⟩ <;>
    simp only [Except.bind, Except.map, reduceCtorEq, Except.ok.injEq, Option.some.injEq, false_implies]
  exact fun h => ⟨pp, pport, path, i, n, rfl, rfl, h.symm⟩

end HealthProbe.Provider
