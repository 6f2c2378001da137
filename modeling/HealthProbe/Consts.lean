import HealthProbe.Go.Strings
import HealthProbe.Types

/-! The `consts` package, as far as the probe code uses it.

The package is not among the sources: it is modelled from its call sites and from the
released package. A port's own setting of a health-probe parameter is the annotation
`service.beta.kubernetes.io/port_{port}_health-probe_{param}`, the service-wide setting an
annotation `service.beta.kubernetes.io/azure-load-balancer-health-probe-{param}`; a reader
looks its key up and passes what it finds through the caller's validators, the `int32`
reader after `strconv.ParseInt(strings.TrimSpace(v), 10, 32)`. The defaults the builder falls
back on have no value in the sources, so they are a parameter (`Defaults`).

The precedence results rest on one fact about the keys: a port's own key is never one of the
service-wide keys (`buildHealthProbeAnnotationKeyForPort_ne`). And a port's key names its port
and its parameter (`buildHealthProbeAnnotationKeyForPort_inj`): the number `%d` writes ends at
the first `_`, a byte it never writes, and reads back as the port. The `int32` reader's trim
keeps what `%d` writes (`trimSpace_itoa`). -/
namespace HealthProbe.Consts
open Go V1

/-- `consts.HealthProbeParams` -/
abbrev HealthProbeParams := GoString

/-- `consts.HealthProbeParamsProbeInterval` -/
def healthProbeParamsProbeInterval : HealthProbeParams := lit "interval"

/-- `consts.HealthProbeParamsNumOfProbe` -/
def healthProbeParamsNumOfProbe : HealthProbeParams := lit "num-of-probe"

/-- `consts.HealthProbeParamsRequestPath` -/
def healthProbeParamsRequestPath : HealthProbeParams := lit "request-path"

/-- `consts.HealthProbeParamsProtocol` -/
def healthProbeParamsProtocol : HealthProbeParams := lit "protocol"

/-- `consts.HealthProbeParamsPort` -/
def healthProbeParamsPort : HealthProbeParams := lit "port"

/-- `consts.ServiceAnnotationLoadBalancerHealthProbeProtocol` -/
def serviceAnnotationLoadBalancerHealthProbeProtocol : GoString :=
  lit "service.beta.kubernetes.io/azure-load-balancer-health-probe-protocol"

/-- `consts.ServiceAnnotationLoadBalancerHealthProbeRequestPath` -/
def serviceAnnotationLoadBalancerHealthProbeRequestPath : GoString :=
  lit "service.beta.kubernetes.io/azure-load-balancer-health-probe-request-path"

/-- `consts.ServiceAnnotationLoadBalancerHealthProbeNumOfProbe` -/
def serviceAnnotationLoadBalancerHealthProbeNumOfProbe : GoString :=
  lit "service.beta.kubernetes.io/azure-load-balancer-health-probe-num-of-probe"

/-- `consts.ServiceAnnotationLoadBalancerHealthProbeInterval` -/
def serviceAnnotationLoadBalancerHealthProbeInterval : GoString :=
  lit "service.beta.kubernetes.io/azure-load-balancer-health-probe-interval"

/-- The service-wide keys. -/
def globalKeys : List GoString :=
  [serviceAnnotationLoadBalancerHealthProbeProtocol, serviceAnnotationLoadBalancerHealthProbeRequestPath,
    serviceAnnotationLoadBalancerHealthProbeNumOfProbe, serviceAnnotationLoadBalancerHealthProbeInterval]

/-- The prefix of `consts.HealthProbeAnnotationPrefixPattern` before its `%d`. -/
def portKeyPrefix : GoString := lit "service.beta.kubernetes.io/port_"

/-- `consts.BuildHealthProbeAnnotationKeyForPort`, from the released package: the key
`port_{port}_health-probe_{key}` under the annotations' prefix, the port written with `%d`. -/
def buildHealthProbeAnnotationKeyForPort (port : Int32) (key : HealthProbeParams) : GoString :=
  portKeyPrefix ++ itoa port.toInt ++ lit "_health-probe_" ++ key

/-- The defaults of `consts` the builder falls back on; the sources do not give their values. -/
structure Defaults where
  healthProbeDefaultRequestPort : Int32
  healthProbeDefaultRequestPath : GoString
  healthProbeDefaultNumOfProbe : Int32
  healthProbeDefaultProbeInterval : Int32

/-! ### Readers -/

/-- `consts.BusinessValidator`, a check of an annotation's text. -/
abbrev BusinessValidator := Option GoString → Except GoError Unit

/-- `consts.Int32BusinessValidator`, a check of an annotation's value. -/
abbrev Int32BusinessValidator := Int32 → Except GoError Unit

/-- Every validator in turn, up to the first that refuses. -/
def validate {α : Type} (validators : List (α → Except GoError Unit)) (a : α) :
    Except GoError Unit :=
  validators.forM (· a)

/-- `consts.GetAttributeValueInSvcAnnotation`, from the released package: the annotation at
`key`, if there is one, once every validator has accepted it. -/
def getAttributeValueInSvcAnnotation (annotations : Annotations) (key : GoString)
    (validators : List BusinessValidator) : Except GoError (Option GoString) :=
  match annotations key with
  | none => .ok none
  | some l => (validate validators (some l)).map fun _ => some l

/-- `extractInt32FromString` of `consts`, from the released package:
`strconv.ParseInt(strings.TrimSpace(val), 10, 32)`, its error wrapped with the text, then the
validators, an error of theirs wrapped as `error parsing value: %w`. -/
def extractInt32FromString (val : GoString) (validators : List Int32BusinessValidator) :
    Except GoError Int32 :=
  let errKey := val ++ lit " value must be a whole number"
  match parseInt (trimSpace val) 32 with
  | .error err => .error (.wrapf (lit "error value: ") err (lit ": " ++ errKey))
  | .ok toInt =>
    match validate validators (BitVec.ofInt 32 toInt) with
    | .error err => .error (.wrapf (lit "error parsing value: ") err (lit ""))
    | .ok () => .ok (BitVec.ofInt 32 toInt)

/-- `consts.Getint32ValueFromK8sSvcAnnotation`, from the released package: the annotation at
`key`, if there is one, read as an `int32`. -/
def getint32ValueFromK8sSvcAnnotation (annotations : Annotations) (key : GoString)
    (validators : List Int32BusinessValidator) : Except GoError (Option Int32) :=
  match annotations key with
  | none => .ok none
  | some val => (extractInt32FromString val validators).map some

/-- `consts.GetHealthProbeConfigOfPortFromK8sSvcAnnotation`: a port's own setting. -/
def getHealthProbeConfigOfPortFromK8sSvcAnnotation (annotations : Annotations) (port : Int32)
    (key : HealthProbeParams) (validators : List BusinessValidator) :
    Except GoError (Option GoString) :=
  getAttributeValueInSvcAnnotation annotations (buildHealthProbeAnnotationKeyForPort port key) validators

/-- `consts.GetInt32HealthProbeConfigOfPortFromK8sSvcAnnotation`: a port's own `int32` setting. -/
def getInt32HealthProbeConfigOfPortFromK8sSvcAnnotation (annotations : Annotations) (port : Int32)
    (key : HealthProbeParams) (validators : List Int32BusinessValidator) :
    Except GoError (Option Int32) :=
  getint32ValueFromK8sSvcAnnotation annotations (buildHealthProbeAnnotationKeyForPort port key) validators

/-! ### What a reader sees -/

@[simp] theorem validate_singleton {α : Type} (v : α → Except GoError Unit) (a : α) :
    validate [v] a = v a := by
  show (v a >>= fun _ => pure PUnit.unit) = v a
  cases v a <;> rfl

/-- A text reader with no validators never fails, and finds what is there. -/
theorem getAttributeValueInSvcAnnotation_nil (annotations : Annotations) (key : GoString) :
    getAttributeValueInSvcAnnotation annotations key [] = .ok (annotations key) := by
  unfold getAttributeValueInSvcAnnotation
  cases annotations key <;> rfl

/-- What a successful `int32` reading returns: `ParseInt` of the trimmed text, which every
validator accepted. -/
theorem extractInt32FromString_ok {val : GoString} {validators : List Int32BusinessValidator} {v : Int32}
    (h : extractInt32FromString val validators = .ok v) :
    ∃ toInt, parseInt (trimSpace val) 32 = .ok toInt ∧ v = BitVec.ofInt 32 toInt ∧
      validate validators v = .ok () := by
  unfold extractInt32FromString at h
  split at h
  · cases h
  · rename_i toInt htoInt
    split at h
    · cases h
    · cases h
      exact ⟨toInt, htoInt, rfl, by assumption⟩

/-- `%d` writes no space, so the reader's trim keeps it. -/
theorem trimSpace_itoa (v : Int) : trimSpace (itoa v) = itoa v := by
  have hspace : ∀ n, 45 ≤ n → n ≤ 57 → isSpace n = false := fun n h1 h2 => by
    interval_cases n <;> rfl
  refine trimSpace_eq_self fun b hb => ?_
  have hdigit : ¬(b.toNat < 45 ∨ (45 < b.toNat ∧ b.toNat < 48) ∨ 57 < b.toNat) := fun hc =>
    not_mem_itoa hc v hb
  exact ⟨by unfold runeSelf; omega, hspace _ (by omega) (by omega)⟩

/-! ### Keys -/

theorem take_buildHealthProbeAnnotationKeyForPort (port : Int32) (key : HealthProbeParams) :
    (buildHealthProbeAnnotationKeyForPort port key).take 32 = portKeyPrefix := by
  simp only [buildHealthProbeAnnotationKeyForPort, List.append_assoc]
  exact List.take_left' (by decide)

/-- **A port's own key is never a service-wide key.** -/
theorem buildHealthProbeAnnotationKeyForPort_ne (port : Int32) (key : HealthProbeParams)
    {g : GoString} (hg : g ∈ globalKeys) : buildHealthProbeAnnotationKeyForPort port key ≠ g := by
  intro h
  have := take_buildHealthProbeAnnotationKeyForPort port key
  rw [h] at this
  revert this
  simp only [globalKeys, List.mem_cons, List.mem_singleton, List.not_mem_nil, or_false] at hg
  rcases hg with rfl | rfl | rfl | rfl <;> decide

/-- Two lists cut at the first `c` of each: the parts before agree, and so do those after. -/
theorem append_cons_inj {α : Type} {c : α} {a b x y : List α} (ha : c ∉ a) (hb : c ∉ b)
    (h : a ++ c :: x = b ++ c :: y) : a = b ∧ x = y := by
  induction a generalizing b with
  | nil =>
    cases b with
    | nil => simpa using h
    | cons d b =>
      simp only [List.nil_append, List.cons_append, List.cons.injEq] at h
      exact absurd (h.1 ▸ List.mem_cons_self d b) hb
  | cons d a ih =>
    cases b with
    | nil =>
      simp only [List.nil_append, List.cons_append, List.cons.injEq] at h
      exact absurd (h.1 ▸ List.mem_cons_self d a) ha
    | cons e b =>
      simp only [List.cons_append, List.cons.injEq] at h
      obtain ⟨rfl, h⟩ := h
      obtain ⟨h1, h2⟩ := ih (fun hm => ha (List.mem_cons_of_mem _ hm)) (fun hm => hb (List.mem_cons_of_mem _ hm)) h
      exact ⟨by rw [h1], h2⟩

/-- The port's number ends at the `_` of `_health-probe_`, a byte `%d` never writes. -/
theorem buildHealthProbeAnnotationKeyForPort_split (port : Int32) (key : HealthProbeParams) :
    buildHealthProbeAnnotationKeyForPort port key =
      portKeyPrefix ++ (itoa port.toInt ++ 95 :: (lit "health-probe_" ++ key)) := by
  simp only [buildHealthProbeAnnotationKeyForPort, List.append_assoc]
  rfl

/-- **A port's key names the port and the parameter.** -/
theorem buildHealthProbeAnnotationKeyForPort_inj {p q : Int32} {a b : HealthProbeParams}
    (h : buildHealthProbeAnnotationKeyForPort p a = buildHealthProbeAnnotationKeyForPort q b) :
    p = q ∧ a = b := by
  rw [buildHealthProbeAnnotationKeyForPort_split, buildHealthProbeAnnotationKeyForPort_split,
    List.append_cancel_left_eq] at h
  have hu : ∀ v : Int, (95 : UInt8) ∉ itoa v := not_mem_itoa (by decide)
  obtain ⟨hp, hk⟩ := append_cons_inj (hu _) (hu _) h
  exact ⟨itoa_toInt_inj hp, List.append_cancel_left hk⟩

theorem buildHealthProbeAnnotationKeyForPort_eq_iff {port : Int32} {a b : HealthProbeParams} :
    buildHealthProbeAnnotationKeyForPort port a = buildHealthProbeAnnotationKeyForPort port b ↔ a = b :=
  ⟨fun h => (buildHealthProbeAnnotationKeyForPort_inj h).2, fun h => h ▸ rfl⟩

end HealthProbe.Consts
