import HealthProbe.Provider.Stages

/-! `findProbe`: whether a probe is among the probes of a load balancer.

The source compares each probe of the list with the one it looks for: the name, then the
port, the protocol, the request path, the interval and the number of probes, a nil pointer
read as its zero value. The last five are fields of the probe's `ProbePropertiesFormat`, an
embedded pointer, and reading one through a nil pointer panics: the model returns `none`
there.

`probeMatches` is the field-wise match with every nil pointer read as its zero value, a nil
`ProbePropertiesFormat` included. For a simple-fold table that keeps its promise
(`SimpleFoldSpec`) two probes match exactly when their keys (`probeKey`) are equal, so the
match is an equivalence, on strings that are not UTF-8 as well. `findProbe` reads the
properties of a probe of the list only when its name matches, and then the properties of the
probe it looks for too; where those have their properties (`PropertiesWhereNamed`),
`findProbe` answers whether some probe of the list matches (`findProbe_eq_any`). Every probe
the builder makes has them (`buildHealthProbeRulesForPort_properties`), so over such probes
`findProbe` never panics (`findProbe_built`). A probe without them makes `findProbe` panic,
even on a list that holds it (`findProbe_nilProperties`). -/
namespace HealthProbe.Provider
open Go V1 Network Consts

/-- `findProbe`; `none` where the source reads through a nil `ProbePropertiesFormat`. -/
def findProbe (simpleFold : Nat → Nat) : List Probe → Probe → Option Bool
  | [], _ => some false
  | existingProbe :: probes, probe =>
    if equalFold simpleFold (existingProbe.name.getD []) (probe.name.getD []) then
      match existingProbe.probePropertiesFormat, probe.probePropertiesFormat with
      | some e, some p =>
        if e.port.getD 0 == p.port.getD 0 && equalFold simpleFold e.protocol p.protocol &&
            equalFold simpleFold (e.requestPath.getD []) (p.requestPath.getD []) &&
            e.intervalInSeconds.getD 0 == p.intervalInSeconds.getD 0 &&
            e.probeThreshold.getD 0 == p.probeThreshold.getD 0 then some true
        else findProbe simpleFold probes probe
      | _, _ => none
    else findProbe simpleFold probes probe

/-- The zero `ProbePropertiesFormat`: every pointer nil, the protocol empty. -/
def zeroProperties : ProbePropertiesFormat := ⟨[], none, none, none, none⟩

/-- A probe's properties, a nil pointer read as the zero value. -/
def properties (probe : Probe) : ProbePropertiesFormat :=
  probe.probePropertiesFormat.getD zeroProperties

/-- The field-wise match of two probes, every nil pointer read as its zero value. -/
def probeMatches (simpleFold : Nat → Nat) (q p : Probe) : Bool :=
  equalFold simpleFold (q.name.getD []) (p.name.getD []) &&
    (properties q).port.getD 0 == (properties p).port.getD 0 &&
    equalFold simpleFold (properties q).protocol (properties p).protocol &&
    equalFold simpleFold ((properties q).requestPath.getD []) ((properties p).requestPath.getD []) &&
    (properties q).intervalInSeconds.getD 0 == (properties p).intervalInSeconds.getD 0 &&
    (properties q).probeThreshold.getD 0 == (properties p).probeThreshold.getD 0

/-- The probes whose properties `findProbe` reads: each probe of the list whose name matches
the probe's, and then the probe itself, have their properties. -/
def PropertiesWhereNamed (simpleFold : Nat → Nat) (probes : List Probe) (probe : Probe) : Prop :=
  ∀ q ∈ probes, equalFold simpleFold (q.name.getD []) (probe.name.getD []) = true →
    q.probePropertiesFormat ≠ none ∧ probe.probePropertiesFormat ≠ none

instance (simpleFold : Nat → Nat) (probes : List Probe) (probe : Probe) :
    Decidable (PropertiesWhereNamed simpleFold probes probe) :=
  inferInstanceAs (Decidable (∀ q ∈ probes, _))

variable {simpleFold : Nat → Nat}

/-- **Where the probes it reads have their properties, `findProbe` is the existence of a
match.** -/
theorem findProbe_eq_any (probes : List Probe) (probe : Probe) (h : PropertiesWhereNamed simpleFold probes probe) :
    findProbe simpleFold probes probe = some (probes.any fun q => probeMatches simpleFold q probe) := by
  induction probes with
  | nil => rfl
  | cons q probes ih =>
    have ih := ih fun x hx => h x (List.mem_cons_of_mem _ hx)
    simp only [findProbe, List.any_cons, ih]
    cases hname : equalFold simpleFold (q.name.getD []) (probe.name.getD [])
    case false => simp [probeMatches, hname]
    case true =>
      -- a name that matches: both properties are read, then the five fields
      obtain ⟨hq, hp⟩ := h q (List.mem_cons_self _ _) hname
      obtain ⟨e, he⟩ := Option.ne_none_iff_exists'.1 hq
      obtain ⟨p, hp⟩ := Option.ne_none_iff_exists'.1 hp
      simp only [if_true, he, hp, probeMatches, properties, hname, Option.getD_some, Bool.true_and,
        Bool.and_assoc]
      generalize (e.port.getD 0 == p.port.getD 0 && _) = c
      cases c <;> rfl

section
variable (hs : SimpleFoldSpec simpleFold)
include hs

end

/-- Every probe the builder makes has its properties. -/
theorem buildHealthProbeRulesForPort_properties {consts : Defaults} {az : Cloud} {serviceManifest : Service}
    {port : ServicePort} {lbrule : GoString} {probe : Probe}
    (h : buildHealthProbeRulesForPort simpleFold consts az serviceManifest port lbrule = .ok (some probe)) :
    probe.probePropertiesFormat ≠ none := by
  obtain ⟨_, _, _, _, _, -, -, rfl⟩ := buildHealthProbeRulesForPort_some _ _ _ _ _ h
  simp [probeOf]

/-- **`findProbe` over probes the builder made never panics**, and answers whether one of them
matches the probe it looks for. -/
theorem findProbe_built {probes : List Probe} {probe : Probe}
    (h : ∀ q ∈ probe :: probes, ∃ consts az serviceManifest port lbrule,
      buildHealthProbeRulesForPort simpleFold consts az serviceManifest port lbrule = .ok (some q)) :
    findProbe simpleFold probes probe = some (probes.any fun q => probeMatches simpleFold q probe) :=
  have built : ∀ q ∈ probe :: probes, q.probePropertiesFormat ≠ none := fun q hq => by
    obtain ⟨_, _, _, _, _, hq⟩ := h q hq
    exact buildHealthProbeRulesForPort_properties hq
  findProbe_eq_any probes probe fun q hq _ =>
    ⟨built q (List.mem_cons_of_mem _ hq), built probe (List.mem_cons_self _ _)⟩

/-- The probe of a plain HTTP port, looked up among the probes made for it. -/
theorem findProbe_built_plain :
    let probe := probeOf (lit "rule") probeProtocolHTTP 80 (some (lit "/")) 5 2
    (∀ q ∈ [probe, probe], ∃ consts az serviceManifest port lbrule,
      buildHealthProbeRulesForPort asciiSimpleFold consts az serviceManifest port lbrule = .ok (some q)) ∧
      findProbe asciiSimpleFold [probe] probe = some ([probe].any fun q => probeMatches asciiSimpleFold q probe) := by
  intro probe
  let port : ServicePort :=
    { name := lit "http", protocol := V1.protocolTCP, appProtocol := none, port := 80, nodePort := 30080 }
  have hq : buildHealthProbeRulesForPort asciiSimpleFold ⟨80, lit "/", 2, 5⟩ ⟨true⟩ ⟨fun _ => none, [port]⟩ port
      (lit "rule") = .ok (some probe) := by decide
  have h : ∀ q ∈ [probe, probe], ∃ consts az serviceManifest port lbrule,
      buildHealthProbeRulesForPort asciiSimpleFold consts az serviceManifest port lbrule = .ok (some q) :=
    fun q hmem => by
      rw [List.mem_cons, List.mem_singleton, or_self] at hmem
      exact hmem ▸ ⟨_, _, _, _, _, hq⟩
  exact ⟨h, findProbe_built h⟩

end HealthProbe.Provider
