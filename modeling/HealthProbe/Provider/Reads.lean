import HealthProbe.Provider.Precedence
import HealthProbe.Provider.ProbePort

/-! What a port's probe depends on.

Past the protocol, the builder reads a port's own annotations for the probe port, the request
path, the number of probes and the interval, the service's annotations for the last three, and
the ports of the service, nothing else (`SameReads`, `buildHealthProbeRulesForPort_congr`); the
protocol it reads through `protocolOf`. The ports it reads only through the probe-port
validator, which asks whether some port has a name, and the resolver, which takes the last port
of a name and the first of a number. Four consequences:

* a port's key names the port (`buildHealthProbeAnnotationKeyForPort_inj`), so no annotation of
  another port changes a port's probe or what the getter returns for it
  (`buildHealthProbeRulesForPort_otherPorts`);
* the order of the service's ports does not matter when no two names match ignoring case and no
  two numbers are equal (`buildHealthProbeRulesForPort_perm`);
* the protocol is trimmed and compared ignoring case, so a port's own protocol annotation can be
  written in another case, with other white space around it, and the probe stays the same
  (`buildHealthProbeRulesForPort_protocolFold`);
* a number written with `%d` reads back as itself (`parseInt_itoa`), so a setting whose source
  holds `%d` of an `int32` reads as that value exactly when the validator accepts it
  (`int32HealthProbeConfig_itoa`). -/
namespace HealthProbe.Provider
open Go V1 Network Consts

/-- Two services that look alike to the stages after the protocol, for the port numbered
`port`: the same probe-port validator and resolver, the two places that read the service's
ports, and the same annotations under the keys those stages read. -/
structure SameReads (simpleFold : Nat → Nat) (s₁ s₂ : Service) (port : Int32) : Prop where
  validator : probePortValidator simpleFold s₁ = probePortValidator simpleFold s₂
  resolver : resolveProbePort simpleFold s₁ = resolveProbePort simpleFold s₂
  probePort : s₁.annotations (buildHealthProbeAnnotationKeyForPort port healthProbeParamsPort) =
    s₂.annotations (buildHealthProbeAnnotationKeyForPort port healthProbeParamsPort)
  requestPath : s₁.annotations (buildHealthProbeAnnotationKeyForPort port healthProbeParamsRequestPath) =
      s₂.annotations (buildHealthProbeAnnotationKeyForPort port healthProbeParamsRequestPath) ∧
    s₁.annotations serviceAnnotationLoadBalancerHealthProbeRequestPath =
      s₂.annotations serviceAnnotationLoadBalancerHealthProbeRequestPath
  numOfProbe : s₁.annotations (buildHealthProbeAnnotationKeyForPort port healthProbeParamsNumOfProbe) =
      s₂.annotations (buildHealthProbeAnnotationKeyForPort port healthProbeParamsNumOfProbe) ∧
    s₁.annotations serviceAnnotationLoadBalancerHealthProbeNumOfProbe =
      s₂.annotations serviceAnnotationLoadBalancerHealthProbeNumOfProbe
  interval : s₁.annotations (buildHealthProbeAnnotationKeyForPort port healthProbeParamsProbeInterval) =
      s₂.annotations (buildHealthProbeAnnotationKeyForPort port healthProbeParamsProbeInterval) ∧
    s₁.annotations serviceAnnotationLoadBalancerHealthProbeInterval =
      s₂.annotations serviceAnnotationLoadBalancerHealthProbeInterval

/-- The protocol stage reads a port's own protocol annotation and the service's. -/
theorem protocolOf_congr (simpleFold : Nat → Nat) (az : Cloud) {s₁ s₂ : Service} (port : ServicePort)
    (hown : s₁.annotations (buildHealthProbeAnnotationKeyForPort port.port healthProbeParamsProtocol) =
      s₂.annotations (buildHealthProbeAnnotationKeyForPort port.port healthProbeParamsProtocol))
    (hglobal : s₁.annotations serviceAnnotationLoadBalancerHealthProbeProtocol =
      s₂.annotations serviceAnnotationLoadBalancerHealthProbeProtocol) :
    protocolOf simpleFold az s₁ port = protocolOf simpleFold az s₂ port := by
  simp only [protocolOf, hown, hglobal]

namespace SameReads

variable {simpleFold : Nat → Nat} {s₁ s₂ : Service} {port : ServicePort}
  (h : SameReads simpleFold s₁ s₂ port.port) (consts : Defaults) (az : Cloud)
include h

theorem selectProbePort_congr (fixed : Option Int32) :
    selectProbePort simpleFold consts s₁ port fixed = selectProbePort simpleFold consts s₂ port fixed := by
  rw [selectProbePort_eq, selectProbePort_eq, h.probePort, h.validator, h.resolver]

theorem selectRequestPath_congr (probeProtocol : GoString) :
    selectRequestPath simpleFold consts s₁ port probeProtocol =
      selectRequestPath simpleFold consts s₂ port probeProtocol := by
  rw [selectRequestPath_eq, selectRequestPath_eq, h.requestPath.1, h.requestPath.2]

theorem probeSettings_congr (hprotocol : protocolOf simpleFold az s₁ port = protocolOf simpleFold az s₂ port) :
    probeSettings simpleFold consts az s₁ port = probeSettings simpleFold consts az s₂ port := by
  rw [probeSettings_eq, probeSettings_eq, hprotocol, h.selectProbePort_congr, h.selectRequestPath_congr]

/-- The getter reads the number of probes and the interval, from the port's own annotations
and the service's. -/
theorem getter_congr :
    getHealthProbeConfigProbeIntervalAndNumOfProbe consts s₁ port.port =
      getHealthProbeConfigProbeIntervalAndNumOfProbe consts s₂ port.port := by
  simp only [getHealthProbeConfigProbeIntervalAndNumOfProbe, getHealthProbeConfigNumOfProbe,
    getHealthProbeConfigProbeInterval, int32HealthProbeConfig_eq, h.numOfProbe.1, h.numOfProbe.2,
    h.interval.1, h.interval.2]

/-- **The builder reads no more than `SameReads` and the protocol.** -/
theorem buildHealthProbeRulesForPort_congr (lbrule : GoString)
    (hprotocol : protocolOf simpleFold az s₁ port = protocolOf simpleFold az s₂ port) :
    buildHealthProbeRulesForPort simpleFold consts az s₁ port lbrule =
      buildHealthProbeRulesForPort simpleFold consts az s₂ port lbrule := by
  by_cases hp : port.protocol = protocolUDP ∨ port.protocol = protocolSCTP
  · simp only [buildHealthProbeRulesForPort, if_pos hp]
  · rw [buildHealthProbeRulesForPort_eq _ _ _ _ _ _ hp, buildHealthProbeRulesForPort_eq _ _ _ _ _ _ hp,
      h.probeSettings_congr consts az hprotocol, h.getter_congr]

end SameReads

/-! ### Other ports -/

/-- **No annotation of another port changes a port's probe**, nor what the getter returns for
the port: two services with the same ports whose annotations differ only under keys of other
ports give the same probe, or the same error. -/
theorem buildHealthProbeRulesForPort_otherPorts (simpleFold : Nat → Nat) (consts : Defaults) (az : Cloud)
    {s₁ s₂ : Service} (port : ServicePort) (lbrule : GoString) (hports : s₁.ports = s₂.ports)
    (hann : ∀ k, s₁.annotations k ≠ s₂.annotations k →
      ∃ q param, q ≠ port.port ∧ k = buildHealthProbeAnnotationKeyForPort q param) :
    buildHealthProbeRulesForPort simpleFold consts az s₁ port lbrule =
        buildHealthProbeRulesForPort simpleFold consts az s₂ port lbrule ∧
      getHealthProbeConfigProbeIntervalAndNumOfProbe consts s₁ port.port =
        getHealthProbeConfigProbeIntervalAndNumOfProbe consts s₂ port.port := by
  -- a key of the port itself, or a service-wide key, is no other port's key
  have hown : ∀ param, s₁.annotations (buildHealthProbeAnnotationKeyForPort port.port param) =
      s₂.annotations (buildHealthProbeAnnotationKeyForPort port.port param) := fun param => by
    by_contra hne
    obtain ⟨q, param', hq, hk⟩ := hann _ hne
    exact hq (buildHealthProbeAnnotationKeyForPort_inj hk).1.symm
  have hglobal : ∀ k ∈ globalKeys, s₁.annotations k = s₂.annotations k := fun k hk => by
    by_contra hne
    obtain ⟨q, param, -, rfl⟩ := hann _ hne
    exact buildHealthProbeAnnotationKeyForPort_ne q param hk rfl
  have h : SameReads simpleFold s₁ s₂ port.port :=
    ⟨probePortValidator_ports simpleFold (congrArg _ hports), resolveProbePort_ports simpleFold (congrArg _ hports),
      hown _,
      ⟨hown _, hglobal _ (by simp [globalKeys])⟩, ⟨hown _, hglobal _ (by simp [globalKeys])⟩,
      ⟨hown _, hglobal _ (by simp [globalKeys])⟩⟩
  exact ⟨h.buildHealthProbeRulesForPort_congr consts az lbrule
    (protocolOf_congr simpleFold az port (hown _) (hglobal _ (by simp [globalKeys]))), h.getter_congr consts⟩

/-- The annotations of port 8080, an interval its own check would refuse among them, leave the
probe of port 80 as it is. -/
theorem buildHealthProbeRulesForPort_otherPorts_interval :
    let port : ServicePort :=
      { name := lit "http", protocol := V1.protocolTCP, appProtocol := none, port := 80, nodePort := 30080 }
    let s₁ : Service := ⟨fun k => if k = buildHealthProbeAnnotationKeyForPort 8080 healthProbeParamsProbeInterval
      then some (lit "3") else none, [port]⟩
    let s₂ : Service := ⟨fun _ => none, [port]⟩
    s₁.annotations (buildHealthProbeAnnotationKeyForPort 8080 healthProbeParamsProbeInterval) = some (lit "3") ∧
      buildHealthProbeRulesForPort asciiSimpleFold ⟨80, lit "/", 2, 5⟩ ⟨true⟩ s₁ port (lit "rule") =
        buildHealthProbeRulesForPort asciiSimpleFold ⟨80, lit "/", 2, 5⟩ ⟨true⟩ s₂ port (lit "rule") ∧
      getHealthProbeConfigProbeIntervalAndNumOfProbe ⟨80, lit "/", 2, 5⟩ s₁ 80 =
        getHealthProbeConfigProbeIntervalAndNumOfProbe ⟨80, lit "/", 2, 5⟩ s₂ 80 := by
  intro port s₁ s₂
  have hann : ∀ k, s₁.annotations k ≠ s₂.annotations k →
      ∃ q param, q ≠ port.port ∧ k = buildHealthProbeAnnotationKeyForPort q param := fun k hk => by
    by_cases hk' : k = buildHealthProbeAnnotationKeyForPort 8080 healthProbeParamsProbeInterval
    · exact ⟨8080, _, by decide, hk'⟩
    · exact absurd (by simp only [s₁, s₂, if_neg hk']) hk
  exact ⟨by simp only [s₁, if_true],
    buildHealthProbeRulesForPort_otherPorts asciiSimpleFold ⟨80, lit "/", 2, 5⟩ ⟨true⟩ port (lit "rule") rfl hann⟩

/-! ### The order of the ports -/

/-- `find?` does not see the order of a list in which at most one element passes. -/
theorem find?_perm {α : Type} {p : α → Bool} {l₁ l₂ : List α} (hperm : l₁.Perm l₂)
    (hu : ∀ a ∈ l₁, ∀ b ∈ l₁, p a = true → p b = true → a = b) : l₁.find? p = l₂.find? p := by
  cases h₁ : l₁.find? p with
  | none => exact (List.find?_eq_none.2 fun x hx => List.find?_eq_none.1 h₁ x (hperm.mem_iff.2 hx)).symm
  | some a =>
    have ha := List.mem_of_find?_eq_some h₁
    obtain ⟨b, hb⟩ := Option.isSome_iff_exists.1
      (List.find?_isSome.2 ⟨a, hperm.mem_iff.1 ha, List.find?_some h₁⟩)
    rw [hb, hu a ha b (hperm.mem_iff.2 (List.mem_of_find?_eq_some hb)) (List.find?_some h₁) (List.find?_some hb)]

section
variable {simpleFold : Nat → Nat} {s₁ s₂ : Service} (hperm : s₁.ports.Perm s₂.ports)
include hperm

/-- The validator asks only whether some port has the name. -/
theorem probePortValidator_perm : probePortValidator simpleFold s₁ = probePortValidator simpleFold s₂ := by
  funext s
  cases s with
  | none => rfl
  | some s => simp only [probePortValidator, List.any_eq, hperm.mem_iff]

/-- The resolver takes the last port of a name and the first of a number; with one port at most
of each, either end is the same. -/
theorem resolveProbePort_perm (hs : SimpleFoldSpec simpleFold)
    (hnames : ∀ a ∈ s₁.ports, ∀ b ∈ s₁.ports, equalFold simpleFold a.name b.name = true → a = b)
    (hnums : ∀ a ∈ s₁.ports, ∀ b ∈ s₁.ports, a.port = b.port → a = b) :
    resolveProbePort simpleFold s₁ = resolveProbePort simpleFold s₂ := by
  have E := equalFold_equivalence hs
  funext probePort current
  rcases hp : parseInt probePort 32 with e | v
  · simp only [resolveProbePort, hp, foldl_nodePort_last]
    rw [find?_perm ((List.reverse_perm _).trans (hperm.trans (List.reverse_perm _).symm))
      fun a ha b hb hpa hpb => hnames a (List.mem_reverse.1 ha) b (List.mem_reverse.1 hb) (E.trans hpa (E.symm hpb))]
  · simp only [resolveProbePort, hp]
    rw [find?_perm hperm fun a ha b hb hpa hpb =>
      hnums a ha b hb ((beq_iff_eq.1 hpa).trans (beq_iff_eq.1 hpb).symm)]

end

/-- **The order of a service's ports does not matter to a port's probe**, when no two port
names match ignoring case and no two ports have one number. -/
theorem buildHealthProbeRulesForPort_perm {simpleFold : Nat → Nat} (hs : SimpleFoldSpec simpleFold)
    (consts : Defaults) (az : Cloud) {s₁ s₂ : Service} (port : ServicePort) (lbrule : GoString)
    (hann : s₁.annotations = s₂.annotations) (hperm : s₁.ports.Perm s₂.ports)
    (hnames : ∀ a ∈ s₁.ports, ∀ b ∈ s₁.ports, equalFold simpleFold a.name b.name = true → a = b)
    (hnums : ∀ a ∈ s₁.ports, ∀ b ∈ s₁.ports, a.port = b.port → a = b) :
    buildHealthProbeRulesForPort simpleFold consts az s₁ port lbrule =
      buildHealthProbeRulesForPort simpleFold consts az s₂ port lbrule := by
  obtain ⟨a₁, ps₁⟩ := s₁
  obtain ⟨a₂, ps₂⟩ := s₂
  cases hann
  have h : SameReads simpleFold ⟨a₁, ps₁⟩ ⟨a₁, ps₂⟩ port.port :=
    ⟨probePortValidator_perm hperm, resolveProbePort_perm hperm hs hnames hnums, rfl, ⟨rfl, rfl⟩, ⟨rfl, rfl⟩,
      ⟨rfl, rfl⟩⟩
  exact h.buildHealthProbeRulesForPort_congr consts az lbrule rfl

/-- The probe port `metrics`, with the ports listed either way round. -/
theorem buildHealthProbeRulesForPort_perm_swap :
    let http : ServicePort :=
      { name := lit "http", protocol := V1.protocolTCP, appProtocol := none, port := 80, nodePort := 30080 }
    let metrics : ServicePort :=
      { name := lit "metrics", protocol := V1.protocolTCP, appProtocol := none, port := 9090, nodePort := 30090 }
    let annotations : Annotations := fun k =>
      if k = buildHealthProbeAnnotationKeyForPort 80 healthProbeParamsPort then some (lit "metrics") else none
    [http, metrics].Perm [metrics, http] ∧
      (∀ a ∈ [http, metrics], ∀ b ∈ [http, metrics], equalFold asciiSimpleFold a.name b.name = true → a = b) ∧
      (∀ a ∈ [http, metrics], ∀ b ∈ [http, metrics], a.port = b.port → a = b) ∧
      buildHealthProbeRulesForPort asciiSimpleFold ⟨80, lit "/", 2, 5⟩ ⟨true⟩ ⟨annotations, [http, metrics]⟩ http
          (lit "rule") =
        buildHealthProbeRulesForPort asciiSimpleFold ⟨80, lit "/", 2, 5⟩ ⟨true⟩ ⟨annotations, [metrics, http]⟩ http
          (lit "rule") := by
  intro http metrics annotations
  have hperm : [http, metrics].Perm [metrics, http] := List.Perm.swap _ _ _
  have hnames : ∀ a ∈ [http, metrics], ∀ b ∈ [http, metrics],
      equalFold asciiSimpleFold a.name b.name = true → a = b := by decide
  have hnums : ∀ a ∈ [http, metrics], ∀ b ∈ [http, metrics], a.port = b.port → a = b := by decide
  exact ⟨hperm, hnames, hnums, buildHealthProbeRulesForPort_perm asciiSimpleFoldSpec ⟨80, lit "/", 2, 5⟩ ⟨true⟩
    http (lit "rule") rfl hperm hnames hnums⟩

/-- Names that match ignoring case are where the order shows: the last of them wins. -/
example :
    let web : ServicePort :=
      { name := lit "web", protocol := V1.protocolTCP, appProtocol := none, port := 80, nodePort := 30001 }
    let webUpper : ServicePort :=
      { name := lit "WEB", protocol := V1.protocolTCP, appProtocol := none, port := 81, nodePort := 30002 }
    let annotations : Annotations := fun k =>
      if k = buildHealthProbeAnnotationKeyForPort 80 healthProbeParamsPort then some (lit "web") else none
    buildHealthProbeRulesForPort asciiSimpleFold ⟨80, lit "/", 2, 5⟩ ⟨true⟩ ⟨annotations, [web, webUpper]⟩ web
        (lit "rule") ≠
      buildHealthProbeRulesForPort asciiSimpleFold ⟨80, lit "/", 2, 5⟩ ⟨true⟩ ⟨annotations, [webUpper, web]⟩ web
        (lit "rule") := by
  decide

/-! ### The protocol's text -/

/-- The protocol switch sees a protocol only up to case: texts `EqualFold` matches give the
same probe protocol and port. -/
theorem probeProtocolFor_fold {simpleFold : Nat → Nat} (hs : SimpleFoldSpec simpleFold) (az : Cloud)
    (port : ServicePort) {x y : GoString} (hxy : equalFold simpleFold x y = true) :
    probeProtocolFor simpleFold az port x = probeProtocolFor simpleFold az port y := by
  have E := equalFold_equivalence hs
  have key : ∀ c, equalFold simpleFold x c = equalFold simpleFold y c := fun c =>
    Bool.eq_iff_iff.2 ⟨fun hx => E.trans (E.symm hxy) hx, fun hy => E.trans hxy hy⟩
  simp only [probeProtocolFor, key]

/-- **A port's own protocol annotation counts only up to case and surrounding white space**:
replacing it by a text that matches it, once both are trimmed, leaves the probe, or the error,
as it was. -/
theorem buildHealthProbeRulesForPort_protocolFold {simpleFold : Nat → Nat} (hs : SimpleFoldSpec simpleFold)
    (consts : Defaults) (az : Cloud) (serviceManifest : Service) (port : ServicePort) (lbrule : GoString)
    {a b : GoString}
    (ha : serviceManifest.annotations (buildHealthProbeAnnotationKeyForPort port.port healthProbeParamsProtocol) =
      some a)
    (hab : equalFold simpleFold (trimSpace a) (trimSpace b) = true) :
    buildHealthProbeRulesForPort simpleFold consts az
        ⟨Function.update serviceManifest.annotations
          (buildHealthProbeAnnotationKeyForPort port.port healthProbeParamsProtocol) (some b),
          serviceManifest.ports⟩ port lbrule =
      buildHealthProbeRulesForPort simpleFold consts az serviceManifest port lbrule := by
  set k := buildHealthProbeAnnotationKeyForPort port.port healthProbeParamsProtocol with hk
  obtain ⟨s', hs'⟩ : ∃ s' : Service,
      s' = ⟨Function.update serviceManifest.annotations k (some b), serviceManifest.ports⟩ := ⟨_, rfl⟩
  rw [← hs']
  -- every other key the builder reads is not the protocol's
  have hparam : ∀ param, param ≠ healthProbeParamsProtocol →
      s'.annotations (buildHealthProbeAnnotationKeyForPort port.port param) =
        serviceManifest.annotations (buildHealthProbeAnnotationKeyForPort port.port param) := fun param hp => by
    rw [hs']
    dsimp only
    exact Function.update_noteq (fun he => hp (buildHealthProbeAnnotationKeyForPort_inj he).2) _ _
  have hglobal : ∀ g ∈ globalKeys, s'.annotations g = serviceManifest.annotations g := fun g hg => by
    rw [hs']
    dsimp only
    exact Function.update_noteq (buildHealthProbeAnnotationKeyForPort_ne _ _ hg).symm _ _
  have hports : s'.ports = serviceManifest.ports := by rw [hs']
  have h : SameReads simpleFold s' serviceManifest port.port :=
    ⟨probePortValidator_ports simpleFold (congrArg _ hports), resolveProbePort_ports simpleFold (congrArg _ hports),
      hparam _ (by decide), ⟨hparam _ (by decide), hglobal _ (by simp [globalKeys])⟩,
      ⟨hparam _ (by decide), hglobal _ (by simp [globalKeys])⟩,
      ⟨hparam _ (by decide), hglobal _ (by simp [globalKeys])⟩⟩
  refine h.buildHealthProbeRulesForPort_congr consts az lbrule ?_
  rw [hs']
  simp only [protocolOf, ← hk, Function.update_same, ha, Option.or, Option.getD]
  exact (probeProtocolFor_fold hs az port hab).symm

/-- A port's own protocol ` tcp `, written again as `TCP`. -/
theorem buildHealthProbeRulesForPort_protocolFold_spaced :
    let port : ServicePort :=
      { name := lit "http", protocol := V1.protocolTCP, appProtocol := none, port := 80, nodePort := 30080 }
    let serviceManifest : Service :=
      ⟨fun k => if k = buildHealthProbeAnnotationKeyForPort 80 healthProbeParamsProtocol
        then some (lit " tcp ") else none, [port]⟩
    serviceManifest.annotations (buildHealthProbeAnnotationKeyForPort 80 healthProbeParamsProtocol) =
        some (lit " tcp ") ∧
      equalFold asciiSimpleFold (trimSpace (lit " tcp ")) (trimSpace (lit "TCP")) = true ∧
      buildHealthProbeRulesForPort asciiSimpleFold ⟨80, lit "/", 2, 5⟩ ⟨true⟩
          ⟨Function.update serviceManifest.annotations
            (buildHealthProbeAnnotationKeyForPort 80 healthProbeParamsProtocol) (some (lit "TCP")), [port]⟩
          port (lit "rule") =
        buildHealthProbeRulesForPort asciiSimpleFold ⟨80, lit "/", 2, 5⟩ ⟨true⟩ serviceManifest port (lit "rule") := by
  intro port serviceManifest
  have ha : serviceManifest.annotations (buildHealthProbeAnnotationKeyForPort 80 healthProbeParamsProtocol) =
      some (lit " tcp ") := by simp only [serviceManifest, if_true]
  have hab : equalFold asciiSimpleFold (trimSpace (lit " tcp ")) (trimSpace (lit "TCP")) = true := by decide
  exact ⟨ha, hab, buildHealthProbeRulesForPort_protocolFold asciiSimpleFoldSpec ⟨80, lit "/", 2, 5⟩ ⟨true⟩
    serviceManifest port (lit "rule") ha hab⟩

/-! ### Numbers written with `%d` -/

/-- The `int32` reader reads `%d` of `v` as `v`, once the validators accept it. -/
theorem extractInt32FromString_itoa (v : Int32) (validator : Int32BusinessValidator) (r : Int32) :
    extractInt32FromString (itoa v.toInt) [validator] = .ok r ↔ r = v ∧ validator v = .ok () := by
  have hb := Int32.toInt_bounds v
  have hv : BitVec.ofInt 32 v.toInt = v := BitVec.toInt_inj.1 (Int32.toInt_ofInt hb.1 hb.2)
  unfold extractInt32FromString
  rw [trimSpace_itoa, parseInt_itoa (w := 30) hb.1 hb.2]
  simp only [hv, validate_singleton]
  cases validator v <;> simp [eq_comm]

/-- **A setting whose source holds `%d` of an `int32` reads as that value**: the port's own
annotation, else the service's, written so, gives `v` exactly when the validator accepts `v`,
and nothing else. -/
theorem int32HealthProbeConfig_itoa {annotations : Annotations} {port : Int32} {param : HealthProbeParams}
    {key : GoString} {v : Int32}
    (hv : (annotations (buildHealthProbeAnnotationKeyForPort port param)).or (annotations key) =
      some (itoa v.toInt))
    (validator : Int32BusinessValidator) (default : Int32) (sep : GoString) (r : Int32) :
    int32HealthProbeConfig annotations port param key validator default sep = .ok r ↔
      r = v ∧ validator v = .ok () := by
  rw [int32HealthProbeConfig_eq]
  cases hown : annotations (buildHealthProbeAnnotationKeyForPort port param) with
  | some s =>
    simp only [hown, Option.or, Option.some.injEq] at hv
    simp only [hv, mapError_eq_ok, extractInt32FromString_itoa]
  | none =>
    simp only [hown, Option.or] at hv
    simp only [hv, mapError_eq_ok, extractInt32FromString_itoa]

/-- The service's interval `10`, with no interval of the port's own. -/
theorem int32HealthProbeConfig_itoa_interval :
    let annotations : Annotations := fun k =>
      if k = serviceAnnotationLoadBalancerHealthProbeInterval then some (itoa 10) else none
    (annotations (buildHealthProbeAnnotationKeyForPort 80 healthProbeParamsProbeInterval)).or
        (annotations serviceAnnotationLoadBalancerHealthProbeInterval) = some (itoa (10 : Int32).toInt) ∧
      (int32HealthProbeConfig annotations 80 healthProbeParamsProbeInterval
          serviceAnnotationLoadBalancerHealthProbeInterval probeIntervalValidator 5 (lit ":") = .ok 10 ↔
        (10 : Int32) = 10 ∧ probeIntervalValidator 10 = .ok ()) := by
  intro annotations
  have hv : (annotations (buildHealthProbeAnnotationKeyForPort 80 healthProbeParamsProbeInterval)).or
      (annotations serviceAnnotationLoadBalancerHealthProbeInterval) = some (itoa (10 : Int32).toInt) := by
    decide
  exact ⟨hv, int32HealthProbeConfig_itoa hv _ _ _ _⟩

end HealthProbe.Provider
