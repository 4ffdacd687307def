import PciCatalog.Device.Metrics
import Mathlib.Data.List.ReduceOption

/-!
# Numbers that have a double

The metrics of a device come out unless one of its integers is too large for a double; its flags and
speeds never stand in the way.
-/

namespace PciCatalog

/-- A computation in steps has no result when the first step has none or the others have none,
whatever the first comes to. -/
theorem bind_eq_none_iff_or {α β : Type} {x : Option α} {f : α → Option β} {missing : Prop}
    (h : ∀ a, f a = none ↔ missing) : x >>= f = none ↔ x = none ∨ missing := by
  cases x <;> simp [h]

namespace Device

/-- The integers among the attributes of a device that its metrics turn into doubles. -/
def integers (d : Device) : List Int :=
  [d.maxLinkWidth, d.currentLinkWidth, d.virtualFunctions, d.totalVirtualFunctions,
    d.totalVectors, d.numaNode].reduceOption

theorem measured?_eq_none_iff {missing : Int} {found : Option Int} :
    measured? missing found = none ↔ ∃ n ∈ found, Binary64.ofInt? n = none := by
  cases found <;> simp [measured?]

theorem measured?_flag_ne_none (missing : Int) (flag : Option Bool) :
    measured? missing (flag.map flagNumber) ≠ none := by
  have hone : Binary64.ofInt? 1 ≠ none := by decide +kernel
  rw [Ne, measured?_eq_none_iff]
  rintro ⟨n, hn, hnone⟩
  obtain ⟨b, -, rfl⟩ := Option.map_eq_some_iff.1 hn
  cases b with
  | false => simp [flagNumber, Binary64.ofInt?_zero] at hnone
  | true => exact hone hnone

theorem numaMetric?_eq_none_iff {d : Device} :
    d.numaMetric? = none ↔ ∃ n ∈ d.numaNode, Binary64.ofInt? n = none := by
  have hminus : Binary64.ofInt? (-1) ≠ none := by decide +kernel
  unfold numaMetric?
  cases d.numaNode with
  | none => simp
  | some node =>
    by_cases hnode : node = -1
    · simp [hnode, hminus]
    · simp [hnode]

theorem numaMetric?_cases {d : Device} {metrics : List (String × Quantity)}
    (h : d.numaMetric? = some metrics) : metrics = [] ∨
      ∃ node x, Binary64.ofInt? node = some x ∧ metrics = [("numa_node", .real x)] := by
  unfold numaMetric? at h
  split at h
  · exact .inl (Option.some.inj h).symm
  split at h
  · exact .inl (Option.some.inj h).symm
  · obtain ⟨x, hx, rfl⟩ := Option.map_eq_some_iff.1 h
    exact .inr ⟨_, x, hx, rfl⟩

/-- The metrics of a device fail to come out exactly when an integer has no double near. -/
theorem metrics?_eq_none_iff {d : Device} :
    d.metrics? = none ↔ ∃ n ∈ d.integers, Binary64.ofInt? n = none := by
  -- The computation is a chain that breaks off at the first integer without a double.
  have hsteps : d.metrics? = none ↔
      measured? (-1) d.maxLinkWidth = none ∨ measured? (-1) d.currentLinkWidth = none ∨
        measured? 0 (d.d3coldAllowed.map flagNumber) = none ∨
        measured? 0 (d.driversAutoprobe.map flagNumber) = none ∨
        measured? 0 d.virtualFunctions = none ∨ measured? 0 d.totalVirtualFunctions = none ∨
        measured? 0 d.totalVectors = none ∨ d.numaMetric? = none ∨ False :=
    bind_eq_none_iff_or fun _ => bind_eq_none_iff_or fun _ => bind_eq_none_iff_or fun _ =>
      bind_eq_none_iff_or fun _ => bind_eq_none_iff_or fun _ => bind_eq_none_iff_or fun _ =>
      bind_eq_none_iff_or fun _ => bind_eq_none_iff_or fun _ => by simp
  simp only [measured?_flag_ne_none, false_or, or_false] at hsteps
  rw [hsteps]
  simp only [measured?_eq_none_iff, numaMetric?_eq_none_iff, integers, List.reduceOption_mem_iff,
    List.mem_cons, List.not_mem_nil, or_false, or_and_right, exists_or, Option.mem_def,
    @eq_comm _ (some _)]

end Device
end PciCatalog
