import HealthProbe.Provider.Stages

/-! The total-probe check.

The builder and the getter refuse an interval and a number of probes whose product is 120 or
more, but they multiply two `int32`s, and the validators bound each value from below only.
What the check does guarantee is `getHealthProbeConfigProbeIntervalAndNumOfProbe_bounds`:
each value is its default or at least its minimum, and the wrapped product is below 120.
Over the integers that is the bound of 120 only while the product stays below `2 ^ 31`
(`total_of_check`, `buildHealthProbeRulesForPort_total`): an interval of 5 with 429496730
probes passes the check (`buildHealthProbeRulesForPort_wraps`). -/
namespace HealthProbe.Provider
open Go V1 Network Consts

/-- The check of a product of two values that are not negative, over the integers: the
product is below 120, or it has passed `2 ^ 31` and wrapped. -/
theorem total_of_check {a b : Int} (ha : 0 ≤ a) (hb : 0 ≤ b) (h : (a * b).bmod (2 ^ 32) < 120) :
    a * b < 120 ∨ 2 ^ 31 ≤ a * b := by
  have hab : 0 ≤ a * b := Int.mul_nonneg ha hb
  generalize a * b = p at *
  by_contra hc
  have hmod : p % (2 ^ 32 : Nat) = p := Int.emod_eq_of_lt hab (by omega)
  rw [Int.bmod_pos p _ (by omega), hmod] at h
  omega

/-- What the getter's check guarantees: each value its default or at least its minimum, and
the `int32` product below 120. -/
theorem getHealthProbeConfigProbeIntervalAndNumOfProbe_bounds {consts : Defaults}
    {serviceManifest : Service} {p i n : Int32}
    (h : getHealthProbeConfigProbeIntervalAndNumOfProbe consts serviceManifest p = .ok (i, n)) :
    (i = consts.healthProbeDefaultProbeInterval ∨ 5 ≤ i.toInt) ∧
      (n = consts.healthProbeDefaultNumOfProbe ∨ 2 ≤ n.toInt) ∧ (i * n).toInt < 120 := by
  obtain ⟨hn, hi, hc⟩ := getHealthProbeConfigProbeIntervalAndNumOfProbe_eq_ok consts serviceManifest |>.1 h
  exact ⟨int32HealthProbeConfig_minimum hi, int32HealthProbeConfig_minimum hn, hc⟩

section
variable {consts : Defaults} (hi : 5 ≤ consts.healthProbeDefaultProbeInterval.toInt)
  (hn : 2 ≤ consts.healthProbeDefaultNumOfProbe.toInt)
include hi hn

/-- With defaults at their minimums, the getter's values are at their minimums, and their
product over the integers is below 120 unless it overflows. -/
theorem getHealthProbeConfigProbeIntervalAndNumOfProbe_total {serviceManifest : Service} {p i n : Int32}
    (h : getHealthProbeConfigProbeIntervalAndNumOfProbe consts serviceManifest p = .ok (i, n)) :
    5 ≤ i.toInt ∧ 2 ≤ n.toInt ∧ (i.toInt * n.toInt < 120 ∨ 2 ^ 31 ≤ i.toInt * n.toInt) := by
  obtain ⟨hi', hn', hc⟩ := getHealthProbeConfigProbeIntervalAndNumOfProbe_bounds h
  have h5 : 5 ≤ i.toInt := by rcases hi' with rfl | h <;> assumption
  have h2 : 2 ≤ n.toInt := by rcases hn' with rfl | h <;> assumption
  rw [BitVec.toInt_mul] at hc
  exact ⟨h5, h2, total_of_check (by omega) (by omega) hc⟩

/-- **The builder's probes keep the bound of 120 seconds until the product overflows.** -/
theorem buildHealthProbeRulesForPort_total {simpleFold : Nat → Nat} {az : Cloud} {serviceManifest : Service}
    {port : ServicePort} {lbrule : GoString} {probe : Probe}
    (h : buildHealthProbeRulesForPort simpleFold consts az serviceManifest port lbrule = .ok (some probe)) :
    ∃ props i n, probe.probePropertiesFormat = some props ∧ props.intervalInSeconds = some i ∧
      props.probeThreshold = some n ∧ 5 ≤ i.toInt ∧ 2 ≤ n.toInt ∧
      (i.toInt * n.toInt < 120 ∨ 2 ^ 31 ≤ i.toInt * n.toInt) := by
  obtain ⟨pp, pport, path, i, n, -, hg, rfl⟩ := buildHealthProbeRulesForPort_some _ _ _ _ _ h
  exact ⟨_, i, n, rfl, rfl, rfl, getHealthProbeConfigProbeIntervalAndNumOfProbe_total hi hn hg⟩

end

/-- The default probe of a plain port, with the defaults at their minimums. -/
theorem buildHealthProbeRulesForPort_total_plain :
    let port : ServicePort :=
      { name := lit "http", protocol := V1.protocolTCP, appProtocol := none, port := 80, nodePort := 30080 }
    let consts : Defaults := ⟨80, lit "/", 2, 5⟩
    let probe := probeOf (lit "rule") probeProtocolHTTP 80 (some (lit "/")) 5 2
    5 ≤ consts.healthProbeDefaultProbeInterval.toInt ∧ 2 ≤ consts.healthProbeDefaultNumOfProbe.toInt ∧
      buildHealthProbeRulesForPort asciiSimpleFold consts ⟨true⟩ ⟨fun _ => none, [port]⟩ port (lit "rule") =
        .ok (some probe) ∧
      ∃ props i n, probe.probePropertiesFormat = some props ∧ props.intervalInSeconds = some i ∧
        props.probeThreshold = some n ∧ 5 ≤ i.toInt ∧ 2 ≤ n.toInt ∧
        (i.toInt * n.toInt < 120 ∨ 2 ^ 31 ≤ i.toInt * n.toInt) := by
  intro port consts probe
  have hi : 5 ≤ consts.healthProbeDefaultProbeInterval.toInt := by decide
  have hn : 2 ≤ consts.healthProbeDefaultNumOfProbe.toInt := by decide
  have h : buildHealthProbeRulesForPort asciiSimpleFold consts ⟨true⟩ ⟨fun _ => none, [port]⟩ port (lit "rule") =
      .ok (some probe) := by decide
  exact ⟨hi, hn, h, buildHealthProbeRulesForPort_total hi hn h⟩

/-- An interval of 5 and 429496730 probes, from the service's annotations: the product,
2147483650, wraps to a negative `int32`, and both the getter and the builder accept it. -/
theorem buildHealthProbeRulesForPort_wraps (simpleFold : Nat → Nat) (consts : Defaults) (az : Cloud)
    (lbrule : GoString) :
    let serviceManifest : Service :=
      ⟨fun k => if k = serviceAnnotationLoadBalancerHealthProbeInterval then some (lit "5")
        else if k = serviceAnnotationLoadBalancerHealthProbeNumOfProbe then some (lit "429496730")
        else none, []⟩
    getHealthProbeConfigProbeIntervalAndNumOfProbe consts serviceManifest 80 = .ok (5, 429496730) ∧
    buildHealthProbeRulesForPort simpleFold consts az serviceManifest
        { name := lit "http", protocol := V1.protocolTCP, appProtocol := none, port := 80, nodePort := 30080 }
        lbrule =
      .ok (some (probeOf lbrule probeProtocolHTTP consts.healthProbeDefaultRequestPort
        (some consts.healthProbeDefaultRequestPath) 5 429496730)) ∧
    120 ≤ (5 : Int) * 429496730 := by
  intro serviceManifest
  have getter : getHealthProbeConfigProbeIntervalAndNumOfProbe consts serviceManifest 80 =
      .ok (5, 429496730) := by
    rw [getHealthProbeConfigProbeIntervalAndNumOfProbe, getHealthProbeConfigNumOfProbe,
      getHealthProbeConfigProbeInterval, int32HealthProbeConfig_eq, int32HealthProbeConfig_eq]
    simp +decide only [serviceManifest, ite_false, ite_true]
  have trim : trimSpace protocolHTTP = protocolHTTP := by decide
  have http : ∀ port, probeProtocolFor simpleFold az port protocolHTTP = (probeProtocolHTTP, none) :=
    fun _ => rfl
  have https : equalFold simpleFold probeProtocolHTTP protocolHTTPS = false := rfl
  have http' : equalFold simpleFold probeProtocolHTTP protocolHTTP = true := rfl
  refine ⟨getter, ?_, by decide⟩
  rw [buildHealthProbeRulesForPort_eq _ _ _ _ _ _ (by decide), probeSettings_eq, selectProbePort_eq, getter]
  simp +decide only [protocolOf, selectRequestPath_eq, serviceManifest, ite_false, ite_true, Option.or,
    Option.getD, trim, http, https, http', Bool.false_or, Except.bind, Except.map]

end HealthProbe.Provider
