/-
  The members of a host, each by itself.

  * `member_name`, `member_address`, `member_number`: what one member gives.
  * `hostOf_four`: the host of four members.
  * `location_of_hostOf`: a host has the coordinates that its members give.
-/
import NearestHost.Proofs.Host.Rearranged

namespace NearestHost.Host

open Json (Numeral Quoted Tree maxDepth)

variable {d e : Draft} {k q : Quoted} {n m : Numeral} {v : Json.Number} {depth : Nat} {h : Host}
  {key : String} {ms : List (Quoted × Tree)}

/-! ## One member -/

theorem member_name (hk : k.text? = some "name") {s : String} (hq : q.text? = some s)
    (hd : d.name = none) :
    d.member depth (k, .scalar (.text q)) = .ok { d with name := some s } := by
  have hq' : (Json.Scalar.text q).event? = some (.text s) := congrArg (Option.map _) hq
  refine member_ok.2 ⟨"name", .name s, hk, ?_, ?_, rfl⟩
  · exact congrArg Option.isSome hd
  · exact Json.bind_eq_ok.2 ⟨_, Json.orGrammar_eq_ok.2 hq', rfl⟩

theorem member_address (hk : k.text? = some "ip") {x : String} (hq : q.text? = some x)
    {a : Address} (ha : Address.ofString? x = some a) (hd : d.address = none) :
    d.member depth (k, .scalar (.text q)) = .ok { d with address := some a } := by
  have hq' : (Json.Scalar.text q).event? = some (.text x) := congrArg (Option.map _) hq
  refine member_ok.2 ⟨"ip", .address a, hk, ?_, ?_, rfl⟩
  · exact congrArg Option.isSome hd
  · refine Json.bind_eq_ok.2 ⟨_, Json.orGrammar_eq_ok.2 hq', ?_⟩
    change (Json.orData (Address.ofString? x)).map Given.address = _
    rw [ha]
    rfl

theorem member_number (hk : k.text? = some key)
    (hkey : Field.ofKey key = .other key) (hn : n.number? = some v) :
    d.member depth (k, .scalar (.number n)) = .ok (d.addOther key (some v.toFloat)) := by
  have hn' : (Json.Scalar.number n).event? = some (.number v) := congrArg (Option.map _) hn
  refine member_ok.2 ⟨key, .other key (some v.toFloat), hk, ?_, ?_, rfl⟩
  · rw [hkey]
    rfl
  · rw [hkey]
    exact Json.bind_eq_ok.2 ⟨_, Json.orGrammar_eq_ok.2 hn', rfl⟩

/-- The four members of a host. -/
theorem hostOf_four {k₁ k₂ k₃ k₄ q₁ q₄ : Quoted} {w : Json.Number} {s x : String} {a : Address}
    (hk₁ : k₁.text? = some "name") (hq₁ : q₁.text? = some s) (hk₂ : k₂.text? = some "latitude")
    (hn : n.number? = some v) (hk₃ : k₃.text? = some "longitude") (hm : m.number? = some w)
    (hk₄ : k₄.text? = some "ip") (hq₄ : q₄.text? = some x) (ha : Address.ofString? x = some a)
    (hdepth : depth < maxDepth) :
    hostOf depth (.object [(k₁, .scalar (.text q₁)), (k₂, .scalar (.number n)),
      (k₃, .scalar (.number m)), (k₄, .scalar (.text q₄))]) =
        .ok ⟨s, ⟨v.toFloat, w.toFloat⟩, a⟩ := by
  rw [hostOf, if_pos hdepth, List.foldlM_cons, member_name hk₁ hq₁ rfl, Json.ok_bind,
    List.foldlM_cons, member_number hk₂ rfl hn, Json.ok_bind, List.foldlM_cons,
    member_number hk₃ rfl hm, Json.ok_bind, List.foldlM_cons, member_address hk₄ hq₄ ha rfl,
    Json.ok_bind]
  rfl

/-! ## The coordinates -/

theorem others_member {p : Quoted × Tree} (hp : d.member depth p = .ok e) :
    ∀ o ∈ d.others, o ∈ e.others := by
  obtain ⟨-, g, -, -, -, rfl⟩ := member_ok.1 hp
  intro o ho
  cases g with
  | name s => exact ho
  | address a => exact ho
  | other k x => exact List.mem_append_left _ ho

/-- What has been read of other members stays. -/
theorem others_members (hms : ms.foldlM (Draft.member depth) d = .ok e) :
    ∀ o ∈ d.others, o ∈ e.others := by
  induction ms generalizing d with
  | nil =>
    cases hms
    exact fun _ ho => ho
  | cons p ms ih =>
    obtain ⟨i, hi, hms⟩ := Json.foldlM_cons_ok.1 hms
    exact fun o ho => ih hms o (others_member hi o ho)

/-- The only number of a name is that of any member of this name. -/
theorem number?_of_member (hms : ms.foldlM (Draft.member depth) .empty = .ok d)
    (hmem : (k, .scalar (.number n)) ∈ ms) (hk : k.text? = some key)
    (hkey : Field.ofKey key = .other key) {x : Float} (hx : d.number? key = some x) :
    ∃ v, n.number? = some v ∧ v.toFloat = x := by
  obtain ⟨before, after, rfl⟩ := List.append_of_mem hmem
  obtain ⟨i, -, hms⟩ := Json.foldlM_append_ok.1 hms
  obtain ⟨j, hj, hms⟩ := Json.foldlM_cons_ok.1 hms
  obtain ⟨_, _, -, -, hread, -⟩ := member_ok.1 hj
  obtain ⟨ev, hev, -⟩ := Json.bind_eq_ok.1 hread
  obtain ⟨v, hv, -⟩ := Option.map_eq_some_iff.1 (Json.orGrammar_eq_ok.1 hev)
  rw [member_number hk hkey hv] at hj
  obtain rfl := Except.ok.inj hj
  have hother : (key, some v.toFloat) ∈ d.others.filter (·.1 == key) :=
    List.mem_filter.2 ⟨others_members hms _ (List.mem_append_right _ (List.mem_singleton_self _)),
      beq_self_eq_true key⟩
  refine ⟨v, hv, ?_⟩
  unfold Draft.number? at hx
  split at hx
  · rename_i hnamed
    rw [hnamed, List.mem_singleton] at hother
    exact Option.some.inj ((Prod.ext_iff.1 hother).2.trans hx)
  · cases hx

/-- A value of a host with the numerals of its coordinates. -/
inductive Locates : Tree → Numeral → Numeral → Prop
  | mk {ms : List (Quoted × Tree)} {k k' : Quoted} {n m : Numeral}
      (latitude : (k, .scalar (.number n)) ∈ ms) (latitude_name : k.text? = some "latitude")
      (longitude : (k', .scalar (.number m)) ∈ ms) (longitude_name : k'.text? = some "longitude") :
      Locates (.object ms) n m

/-- **A host has the coordinates that its members give.** -/
theorem location_of_hostOf {t : Tree} (ht : Locates t n m) (hh : hostOf depth t = .ok h) :
    ∃ v w, n.number? = some v ∧ m.number? = some w ∧ h.location = ⟨v.toFloat, w.toFloat⟩ := by
  obtain ⟨hlat, hk, hlon, hk'⟩ := ht
  rw [hostOf] at hh
  split at hh
  · obtain ⟨d, hd, hh⟩ := Json.bind_eq_ok.1 hh
    obtain ⟨name, -, hh⟩ := Option.bind_eq_some_iff.1 (Json.orData_eq_ok.1 hh)
    obtain ⟨address, -, hh⟩ := Option.bind_eq_some_iff.1 hh
    obtain ⟨x, hx, hh⟩ := Option.bind_eq_some_iff.1 hh
    obtain ⟨y, hy, hh⟩ := Option.bind_eq_some_iff.1 hh
    obtain ⟨v, hv, rfl⟩ := number?_of_member hd hlat hk rfl hx
    obtain ⟨w, hw, rfl⟩ := number?_of_member hd hlon hk' rfl hy
    obtain rfl := Option.some.inj hh
    exact ⟨v, w, hv, hw, rfl⟩
  · cases hh

/-- Hosts are read one by one. -/
theorem exists_hostOf {ts : List Tree} {hs : List Host} (hts : ts.mapM (hostOf depth) = .ok hs)
    {i : Nat} {t : Tree} (ht : ts[i]? = some t) : ∃ h, hs[i]? = some h ∧ hostOf depth t = .ok h := by
  induction ts generalizing hs i with
  | nil => cases ht
  | cons t' ts ih =>
    rw [List.mapM_cons] at hts
    obtain ⟨h', hh', hts⟩ := Json.bind_eq_ok.1 hts
    obtain ⟨hs', hhs', hts⟩ := Json.bind_eq_ok.1 hts
    obtain rfl := Except.ok.inj hts
    cases i with
    | zero =>
      obtain rfl := Option.some.inj ht
      exact ⟨h', rfl, hh'⟩
    | succ i => exact ih hhs' ht

end NearestHost.Host
