/-
  The choice of the nearest host.

  * `FirstNearest`: the first of the hosts at the least distance, which is below
    infinity.
  * `best_nearer`, `best_select`: one more host, and a whole list of them.
  * `select_eq_some`, `select_eq_none`: which host is chosen, and when none is.
-/
import NearestHost.Host.Nearest
import NearestHost.Proofs.Double.Order
import Mathlib.Data.List.Induction

namespace NearestHost.Host

open Double

/-- The first of the hosts at the least distance.  Of the hosts before it, each is farther or has
    no distance; no host is nearer. -/
structure FirstNearest (metric : Metric) (query : Point) (hosts : List Host) (s : Selection) :
    Prop where
  host : hosts[s.index]? = some s.host
  distance : s.distance = metric query s.host.location
  below : s.distance < ofMagnitude false infinity
  least : ∀ h ∈ hosts, ¬ metric query h.location < s.distance
  first : ∀ j < s.index, ∀ h, hosts[j]? = some h →
    isNaN (metric query h.location) = true ∨ s.distance < metric query h.location

/-- What is known of the best choice among the hosts seen so far. -/
def Best (metric : Metric) (query : Point) (hosts : List Host) : Option Selection → Prop
  | none => ∀ h ∈ hosts, ¬ metric query h.location < ofMagnitude false infinity
  | some s => FirstNearest metric query hosts s

variable {metric : Metric} {query : Point} {hosts : List Host}

/-- A host that is not nearer than another is farther than any that is, or has no distance. -/
theorem lt_of_not_lt {x y z : Float} (h : x < y) (hz : ¬ z < y) : isNaN z = true ∨ x < z := by
  cases hn : isNaN z with
  | true => exact Or.inl rfl
  | false =>
    obtain ⟨hx, hy, hxy⟩ := lt_iff.1 h
    obtain ⟨-, -, hyz⟩ := le_iff.1 ((not_lt hn hy).1 hz)
    exact Or.inr (lt_iff.2 ⟨hx, hn, Int.lt_of_lt_of_le hxy hyz⟩)

/-- A new choice: a host that is nearer than all before it, none of which is nearer than `b`. -/
theorem FirstNearest.of_lt {h : Host} {b : Float} (hb : ∀ g ∈ hosts, ¬ metric query g.location < b)
    (hlt : metric query h.location < b)
    (hbelow : metric query h.location < ofMagnitude false infinity) :
    FirstNearest metric query (hosts ++ [h]) ⟨hosts.length, h, metric query h.location⟩ where
  host := by simp
  distance := rfl
  below := hbelow
  least := by
    refine List.forall_mem_append.2 ⟨?_, List.forall_mem_singleton.2 (lt_irrefl _)⟩
    intro g hg hgh
    exact hb g hg (lt_trans hgh hlt)
  first j hj g hg := by
    rw [List.getElem?_append_left hj] at hg
    exact lt_of_not_lt hlt (hb g (List.mem_of_getElem? hg))

/-- A kept choice: the further host is not nearer. -/
theorem FirstNearest.append {s : Selection} {h : Host} (hs : FirstNearest metric query hosts s)
    (hle : ¬ metric query h.location < s.distance) :
    FirstNearest metric query (hosts ++ [h]) s where
  host := by
    rw [List.getElem?_append_left (List.getElem?_eq_some_iff.1 hs.host).1]; exact hs.host
  distance := hs.distance
  below := hs.below
  least := List.forall_mem_append.2 ⟨hs.least, List.forall_mem_singleton.2 hle⟩
  first j hj g hg := by
    have hlen := (List.getElem?_eq_some_iff.1 hs.host).1
    rw [List.getElem?_append_left (hj.trans hlen)] at hg
    exact hs.first j hj g hg

/-- **One more host.** -/
theorem best_nearer {best : Option Selection} (h : Host) (hbest : Best metric query hosts best) :
    Best metric query (hosts ++ [h]) (nearer metric query best (h, hosts.length)) := by
  simp only [nearer]
  split_ifs with hlt
  · cases best with
    | none => exact .of_lt hbest hlt hlt
    | some s => exact .of_lt hbest.least hlt (lt_trans hlt hbest.below)
  · cases best with
    | none => exact List.forall_mem_append.2 ⟨hbest, List.forall_mem_singleton.2 hlt⟩
    | some s => exact hbest.append hlt

theorem select_append (h : Host) : select metric query (hosts ++ [h]) =
    nearer metric query (select metric query hosts) (h, hosts.length) := by
  rw [select, List.zipIdx_append, List.zipIdx_singleton, Nat.zero_add, List.foldl_append]; rfl

/-- **A whole list of hosts**, from the first on. -/
theorem best_select (metric : Metric) (query : Point) (hosts : List Host) :
    Best metric query hosts (select metric query hosts) := by
  induction hosts using List.reverseRecOn with
  | nil => intro h hh; exact absurd hh List.not_mem_nil
  | append_singleton hosts h ih => rw [select_append]; exact best_nearer h ih

/-- There is one such choice at most. -/
theorem FirstNearest.index_le {s s' : Selection} (h : FirstNearest metric query hosts s)
    (h' : FirstNearest metric query hosts s') : s.index ≤ s'.index := by
  by_contra hlt
  have hmem' := List.mem_of_getElem? h'.host
  rcases h.first s'.index (Nat.not_le.1 hlt) s'.host h'.host with hn | hd
  · exact not_lt_of_isNaN (Or.inl hn) (h'.distance ▸ h'.below)
  · rw [← h'.distance] at hd
    exact h'.least _ (List.mem_of_getElem? h.host) (h.distance ▸ hd)

theorem FirstNearest.unique {s s' : Selection} (h : FirstNearest metric query hosts s)
    (h' : FirstNearest metric query hosts s') : s = s' := by
  have hindex : s.index = s'.index := le_antisymm (h.index_le h') (h'.index_le h)
  have hhost : s.host = s'.host := Option.some.inj (by rw [← h.host, ← h'.host, hindex])
  obtain ⟨i, g, d⟩ := s
  obtain ⟨i', g', d'⟩ := s'
  obtain rfl : i = i' := hindex
  obtain rfl : g = g' := hhost
  obtain rfl : d = d' := h.distance.trans h'.distance.symm
  rfl

/-- **The chosen host is the first at the least distance.** -/
theorem select_eq_some {s : Selection} :
    select metric query hosts = some s ↔ FirstNearest metric query hosts s := by
  have hbest := best_select metric query hosts
  constructor
  · intro h; rw [h] at hbest; exact hbest
  · intro h
    cases hs : select metric query hosts with
    | none =>
      rw [hs] at hbest
      exact absurd (h.distance ▸ h.below) (hbest _ (List.mem_of_getElem? h.host))
    | some s' => rw [hs] at hbest; rw [FirstNearest.unique hbest h]

/-- **There is no choice where no host has a distance below infinity.** -/
theorem select_eq_none : select metric query hosts = none ↔
    ∀ h ∈ hosts, ¬ metric query h.location < ofMagnitude false infinity := by
  have hbest := best_select metric query hosts
  constructor
  · intro h; rw [h] at hbest; exact hbest
  · intro h
    cases hs : select metric query hosts with
    | none => rfl
    | some s =>
      rw [hs] at hbest
      exact absurd (hbest.distance ▸ hbest.below) (h _ (List.mem_of_getElem? hbest.host))

end NearestHost.Host
