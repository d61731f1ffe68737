/-
  Checked loading.

  * `FirstInvalid`: the first host that is out of range.
  * `inRange_or_firstInvalid`: hosts are in range, or there is such a one.
  * `load_refines_decode`: loading is decoding and the check of the hosts.
-/
import NearestHost.Configuration.Reading
import NearestHost.Proofs.Globe.Point

namespace NearestHost

namespace Configuration

/-! ## Hosts -/

theorem checkHosts_cons {h : Host} {hosts : List Host} (hh : h.location.InRange) :
    checkHosts (h :: hosts) = checkHosts hosts := by
  rw [checkHosts, Point.check_of_inRange hh]

theorem checkHosts_violates {h : Host} {hosts : List Host} {cause : Point.OutOfRange}
    (hh : h.location.Violates cause) :
    checkHosts (h :: hosts) = .error (.invalidHost h.name cause) := by
  rw [checkHosts, Point.check_of_violates hh]

/-- Hosts in range are passed over. -/
theorem checkHosts_append {before hosts : List Host} (hb : ∀ g ∈ before, g.location.InRange) :
    checkHosts (before ++ hosts) = checkHosts hosts := by
  induction before with
  | nil => rfl
  | cons g before ih =>
    rw [List.cons_append, checkHosts_cons (hb g List.mem_cons_self)]
    exact ih fun h hh => hb h (List.mem_cons_of_mem g hh)

/-- The first of the hosts that is out of range. -/
structure FirstInvalid (hosts before : List Host) (h : Host) (cause : Point.OutOfRange) : Prop where
  split : ∃ after, hosts = before ++ h :: after
  inRange : ∀ g ∈ before, g.location.InRange
  violates : h.location.Violates cause

theorem FirstInvalid.checkHosts {hosts before : List Host} {h : Host} {cause : Point.OutOfRange}
    (hf : FirstInvalid hosts before h cause) :
    checkHosts hosts = .error (.invalidHost h.name cause) := by
  obtain ⟨⟨after, rfl⟩, hb, hv⟩ := hf
  rw [checkHosts_append hb, checkHosts_violates hv]

/-- Either all hosts are in range, or there is a first one that is not. -/
theorem inRange_or_firstInvalid (hosts : List Host) :
    (∀ h ∈ hosts, h.location.InRange) ∨ ∃ before h cause, FirstInvalid hosts before h cause := by
  induction hosts with
  | nil => exact Or.inl fun h hh => absurd hh List.not_mem_nil
  | cons g hosts ih =>
    rcases g.location.inRange_or_violates with hg | ⟨cause, hg⟩
    · rcases ih with hall | ⟨before, h, cause, ⟨after, rfl⟩, hb, hv⟩
      · exact Or.inl (List.forall_mem_cons.2 ⟨hg, hall⟩)
      · exact Or.inr ⟨g :: before, h, cause, ⟨after, rfl⟩, List.forall_mem_cons.2 ⟨hg, hb⟩, hv⟩
    · exact Or.inr ⟨[], g, cause, ⟨hosts, rfl⟩, fun h hh => absurd hh List.not_mem_nil, hg⟩

/-! ## Loading -/

variable {now : Instant} {source : Json.Source} {c : Configuration}

theorem load_of_error {category : Json.Category} (h : decode now source = .error category) :
    load now source = .error (.invalidJson category) := by
  rw [load, h]

theorem load_of_inRange (h : decode now source = .ok c)
    (hall : ∀ h ∈ c.hosts, h.location.InRange) : load now source = .ok c := by
  have hcheck : checkHosts c.hosts = .ok () := by
    rw [← List.append_nil c.hosts, checkHosts_append hall]; rfl
  simp only [load, h, hcheck]

theorem load_of_firstInvalid {before : List Host} {h : Host} {cause : Point.OutOfRange}
    (hc : decode now source = .ok c) (hf : FirstInvalid c.hosts before h cause) :
    load now source = .error (.invalidHost h.name cause) := by
  simp only [load, hc, hf.checkHosts]

/-- **What is loaded is what is decoded, with all hosts in range.** -/
theorem load_eq_ok : load now source = .ok c ↔
    decode now source = .ok c ∧ ∀ h ∈ c.hosts, h.location.InRange := by
  refine ⟨fun hload => ?_, fun ⟨hc, hall⟩ => load_of_inRange hc hall⟩
  cases hd : decode now source with
  | error k => rw [load_of_error hd] at hload; cases hload
  | ok d =>
    rcases inRange_or_firstInvalid d.hosts with hall | ⟨before, h, cause, hf⟩
    · rw [load_of_inRange hd hall] at hload
      cases hload
      exact ⟨rfl, hall⟩
    · rw [load_of_firstInvalid hd hf] at hload; cases hload

/-- Loading fails where decoding fails, or at a host. -/
theorem load_error_cases {e : LoadError} (h : load now source = .error e) :
    (∃ k, e = .invalidJson k ∧ decode now source = .error k) ∨
      ∃ name cause, e = .invalidHost name cause := by
  cases hd : decode now source with
  | error k =>
    rw [load_of_error hd] at h
    exact Or.inl ⟨k, (Except.error.inj h).symm, rfl⟩
  | ok c =>
    rcases inRange_or_firstInvalid c.hosts with hall | ⟨before, g, cause, hf⟩
    · rw [load_of_inRange hd hall] at h; cases h
    · rw [load_of_firstInvalid hd hf] at h
      exact Or.inr ⟨g.name, cause, (Except.error.inj h).symm⟩

theorem loadFile_eq_ok {file : File} :
    loadFile now file = .ok c ↔ ∃ source, file = .opened source ∧ load now source = .ok c := by
  cases file with
  | unopened reason => simp [loadFile]
  | opened source => simp [loadFile]

/-- **Loading refines decoding**: it fails where decoding fails, and else at the first host that is
    out of range. -/
theorem load_refines_decode (now : Instant) (source : Json.Source) :
    (∀ category, decode now source = .error category →
        load now source = .error (.invalidJson category)) ∧
      (∀ c, load now source = .ok c ↔
        decode now source = .ok c ∧ ∀ h ∈ c.hosts, h.location.InRange) ∧
      (∀ c, decode now source = .ok c → (¬ ∀ h ∈ c.hosts, h.location.InRange) →
        ∃ before h cause, FirstInvalid c.hosts before h cause ∧
          load now source = .error (.invalidHost h.name cause)) ∧
      (∀ file c, loadFile now file = .ok c ↔
        ∃ source, file = .opened source ∧ load now source = .ok c) := by
  refine ⟨fun k => load_of_error, fun c => load_eq_ok, fun c hc hnot => ?_,
    fun file c => loadFile_eq_ok⟩
  obtain ⟨before, h, cause, hf⟩ := (inRange_or_firstInvalid c.hosts).resolve_left hnot
  exact ⟨before, h, cause, hf, load_of_firstInvalid hc hf⟩

end Configuration

end NearestHost
