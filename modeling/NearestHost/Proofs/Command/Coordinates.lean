/-
  Coordinates in configurations and on the command line.

  * `denotes_text`: the text of a numeral as an argument.
  * `select_self`: for a query at a host, a host at distance zero is chosen.
  * `coordinates_agree`: an ordinary numeral is the same coordinate in a configuration and
    as an argument, so a query with the numerals of a host finds a host at distance zero.
-/
import NearestHost.Proofs.Command.Echo
import NearestHost.Proofs.Configuration.Hosts
import NearestHost.Proofs.Globe.Overflow
import NearestHost.Proofs.Json.Literal

namespace NearestHost

open Double
open Json (Numeral Quoted Tree Written)

namespace Command

/-! ## Numerals as arguments -/

theorem not_isBlank_text (n : Numeral) : ∀ c ∈ n.text.toList, Text.isBlank c = false := by
  rw [Numeral.text, String.toList_ofList]
  intro c hc
  obtain ⟨b, hb, rfl⟩ := List.mem_map.1 hc
  rcases n.mem_bytes b hb with hdigit | hsign
  · exact not_isBlank_of_digit (Json.isDigit_charOf hdigit)
  · have hall : Numeral.signBytes.all (fun b => !Text.isBlank (Json.charOf b)) = true := by decide
    simpa using List.all_eq_true.1 hall b hsign

theorem denotes_text (n : Numeral) : Denotes n.text n.toFloat := by
  refine ⟨n.text.toList, trimmed_self (not_isBlank_text n), ?_⟩
  rw [String.ofList_toList]
  exact n.read?_text

/-! ## Queries at a host -/

/-- For a query at a host, a host at distance zero is chosen. -/
theorem select_self {t : Trigonometry} (ht : ∀ x, ¬ t.acos x < 0) {hs : List Host} {h : Host}
    (hmem : h ∈ hs) (hh : h.location.InRange) :
    ∃ chosen, Host.select (greatCircle t) h.location hs = some chosen ∧
      (chosen.distance == 0) = true := by
  have hzero := Globe.greatCircle_self t hh
  have hbelow : greatCircle t h.location h.location < ofMagnitude false infinity := by
    rw [hzero]
    decide
  cases hselect : Host.select (greatCircle t) h.location hs with
  | none => exact absurd hbelow (Host.select_eq_none.1 hselect h hmem)
  | some chosen =>
    have hfirst := Host.select_eq_some.1 hselect
    have hleast := hfirst.least h hmem
    have hpos : ¬ chosen.distance < 0 := hfirst.distance ▸ Globe.not_neg_greatCircle ht _ _
    obtain ⟨hnan, -, -⟩ := lt_iff.1 hfirst.below
    rw [hzero] at hleast
    have hle := (le_iff.1 ((not_lt rfl hnan).1 hleast)).2.2
    have hge := (le_iff.1 ((not_lt hnan rfl).1 hpos)).2.2
    exact ⟨chosen, rfl, beq_iff.2 ⟨hnan, rfl, le_antisymm hle hge⟩⟩

/-- What is read of the numeral of a coordinate: as an argument of the command the double nearest to
    it, and in a configuration the same double, unless it has more digits behind its point than the
    reader can count. -/
structure ReadAlike (n : Numeral) : Prop where
  bytes : Text.utf8 n.text.toList = n.bytes
  argument : coordinate n.text = .ok n.toFloat
  member : ∀ v, n.number? = some v → v.toFloat = n.toFloat
  reads : n.fraction.length + 22 ≤ Json.Tally.exponentLimit → n.number?.isSome = true
  negative : isNegative n.toFloat = n.negative
  nearest : IsNearest (n.significand * 10 ^ n.scale.toNat) (10 ^ (-n.scale).toNat)
    (magnitude n.toFloat)

theorem readAlike (n : Numeral) (h : n.Ordinary) : ReadAlike n where
  bytes := n.utf8_text
  argument := coordinate_eq_ok.2 (denotes_text n)
  member _ := Numeral.toFloat_eq h
  reads := Numeral.number?_isSome h
  negative := h.isNearest.1
  nearest := h.isNearest.2

/-- The value of a host in range with ordinary numerals for its coordinates. -/
inductive OrdinaryHost : Tree → Prop
  | mk {k₁ k₂ k₃ k₄ q₁ q₄ : Quoted} {n m : Numeral} {name x : String} {a : Address}
      (name_member : k₁.text? = some "name" ∧ q₁.text? = some name)
      (latitude : k₂.text? = some "latitude" ∧ n.Ordinary ∧
        n.fraction.length + 22 ≤ Json.Tally.exponentLimit)
      (longitude : k₃.text? = some "longitude" ∧ m.Ordinary ∧
        m.fraction.length + 22 ≤ Json.Tally.exponentLimit)
      (address : k₄.text? = some "ip" ∧ q₄.text? = some x ∧ Address.ofString? x = some a)
      (inRange : Point.InRange ⟨n.toFloat, m.toFloat⟩) :
      OrdinaryHost (.object [(k₁, .scalar (.text q₁)), (k₂, .scalar (.number n)),
        (k₃, .scalar (.number m)), (k₄, .scalar (.text q₄))])

theorem exists_ordinaryHost {t : Tree} (ht : OrdinaryHost t) {depth : Nat}
    (hdepth : depth < Json.maxDepth) : ∃ h, Host.hostOf depth t = .ok h ∧ h.location.InRange := by
  obtain ⟨⟨hk₁, hq₁⟩, ⟨hk₂, hn, hnlen⟩, ⟨hk₃, hm, hmlen⟩, ⟨hk₄, hq₄, ha⟩, hrange⟩ := ht
  obtain ⟨v, hv⟩ := Option.isSome_iff_exists.1 (Numeral.number?_isSome hn hnlen)
  obtain ⟨w, hw⟩ := Option.isSome_iff_exists.1 (Numeral.number?_isSome hm hmlen)
  refine ⟨_, Host.hostOf_four hk₁ hq₁ hk₂ hv hk₃ hw hk₄ hq₄ ha hdepth, ?_⟩
  rw [Numeral.toFloat_eq hn hv, Numeral.toFloat_eq hm hw]
  exact hrange

theorem exists_ordinaryHosts {ts : List Tree} (hts : ∀ t ∈ ts, OrdinaryHost t) :
    ∃ hs, ts.mapM (Host.hostOf 2) = .ok hs ∧ hs.length = ts.length ∧
      ∀ h ∈ hs, h.location.InRange := by
  induction ts with
  | nil => exact ⟨[], rfl, rfl, List.forall_mem_nil _⟩
  | cons t ts ih =>
    obtain ⟨ht, hts⟩ := List.forall_mem_cons.1 hts
    obtain ⟨h, hh, hrange⟩ := exists_ordinaryHost ht (show 2 < Json.maxDepth by decide)
    obtain ⟨hs, hhs, hlen, hall⟩ := ih hts
    refine ⟨h :: hs, ?_, congrArg Nat.succ hlen, List.forall_mem_cons.2 ⟨hrange, hall⟩⟩
    rw [List.mapM_cons, hh, Json.ok_bind, hhs]
    rfl

/-- **Configurations and arguments have the same coordinates.**  An ordinary numeral is read as the
    double nearest to it in both, and hosts in range with such numerals are loaded.  A query with the
    numerals of a loaded host is accepted, has distance zero from this host, and gets a host at
    distance zero, provided that no arc cosine is negative. -/
theorem coordinates_agree :
    (∀ n : Numeral, n.Ordinary → ReadAlike n) ∧
    (∀ (now : Instant) (bs bs' : List UInt8) (c : Configuration)
      (place : Configuration.Place .hosts) (v : Tree) (ts : List Tree),
      Written (place.fill v).lexemes bs → Configuration.load now ⟨bs, .complete⟩ = .ok c →
        (∀ t ∈ ts, OrdinaryHost t) → Written (place.fill (.array ts)).lexemes bs' →
          ∃ hs, hs.length = ts.length ∧
            Configuration.load now ⟨bs', .complete⟩ = .ok { c with hosts := hs }) ∧
    ∀ t : Trigonometry, (∀ x, ¬ t.acos x < 0) → ∀ (s : Setting) (path : String) (bs : List UInt8)
      (c : Configuration) (place : Configuration.Place .hosts) (ts : List Tree) (i : Nat)
      (value : Tree) (n m : Numeral), s.metric = greatCircle t →
        s.files path = .opened ⟨bs, .complete⟩ → Written (place.fill (.array ts)).lexemes bs →
        Configuration.loadFile s.now (s.files path) = .ok c → ts[i]? = some value →
        Host.Locates value n m → n.Ordinary → m.Ordinary →
          ∃ h chosen, c.hosts[i]? = some h ∧ h.location = ⟨n.toFloat, m.toFloat⟩ ∧
            (∀ rest, Accepted s (path :: n.text :: m.text :: rest) c h.location) ∧
            s.metric h.location h.location = 0 ∧
            Service.select ⟨s.metric, c⟩ h.location = some chosen ∧
            (chosen.distance == 0) = true := by
  refine ⟨readAlike, ?_, ?_⟩
  · intro now bs bs' c place v ts hbs hc hts hbs'
    obtain ⟨hs, hmap, hlen, hall⟩ := exists_ordinaryHosts hts
    exact ⟨hs, hlen, Configuration.load_of_hosts hbs hc hmap hall hbs'⟩
  · intro t ht s path bs c place ts i value n m hmetric hfile hbs hc hvalue hlocates hn hm
    obtain ⟨source, hsource, hload⟩ := Configuration.loadFile_eq_ok.1 hc
    obtain rfl : (⟨bs, .complete⟩ : Json.Source) = source := by
      rw [hfile] at hsource
      exact Configuration.File.opened.inj hsource
    obtain ⟨h, hh, hhost⟩ := Host.exists_hostOf (Configuration.hosts_of_load hbs hload) hvalue
    obtain ⟨v, w, hv, hw, hlocation⟩ := Host.location_of_hostOf hlocates hhost
    rw [Numeral.toFloat_eq hn hv, Numeral.toFloat_eq hm hw] at hlocation
    have hmem : h ∈ c.hosts := List.mem_of_getElem? hh
    have hrange : h.location.InRange := (Configuration.load_eq_ok.1 hload).2 h hmem
    obtain ⟨chosen, hchosen, hzero⟩ := select_self ht hmem hrange
    refine ⟨h, chosen, hh, hlocation, fun rest => ?_, ?_, ?_, hzero⟩
    · refine .mk hc ?_ ?_ hrange
      · rw [hlocation]
        exact denotes_text n
      · rw [hlocation]
        exact denotes_text m
    · rw [hmetric]
      exact Globe.greatCircle_self t hrange
    · rw [Service.select, hmetric]
      exact hchosen

/-! ## A host off the equator -/

/-- The numeral `-12.50`. -/
def south : Numeral where
  negative := true
  whole := ['1', '2'].map Json.byteOf
  fraction := ['5', '0'].map Json.byteOf
  exponent := none
  whole_ok := Or.inr ⟨_, _, rfl, by decide, List.all_eq_true.1 (by decide)⟩
  fraction_ok := List.all_eq_true.1 (by decide)

/-- The numeral `0.1E+2`. -/
def east : Numeral where
  negative := false
  whole := ['0'].map Json.byteOf
  fraction := ['1'].map Json.byteOf
  exponent := some ⟨Json.byteOf 'E', some (Json.byteOf '+'), [Json.byteOf '2'], by decide,
    fun _ hc => Or.inl (Option.mem_some_iff.1 hc).symm, List.cons_ne_nil _ _,
    List.all_eq_true.1 (by decide)⟩
  whole_ok := Or.inl rfl
  fraction_ok := List.all_eq_true.1 (by decide)

theorem ordinary_south : south.Ordinary := ⟨by decide, by decide, by decide⟩

theorem ordinary_east : east.Ordinary := ⟨by decide, by decide, by decide⟩

theorem toFloat_south : south.toFloat = -12.5 := eq_of_words (by decide +kernel) (by decide +kernel)

theorem toFloat_east : east.toFloat = 10 := eq_of_words (by decide +kernel) (by decide +kernel)

/-- A host with these coordinates. -/
def southEast : Tree :=
  .object [(Configuration.plain "name", Configuration.textTree "h"),
    (Configuration.plain "latitude", .scalar (.number south)),
    (Configuration.plain "longitude", .scalar (.number east)),
    (Configuration.plain "ip", Configuration.textTree "1.2.3.4")]

theorem locates_southEast : Host.Locates southEast south east :=
  .mk (List.mem_cons_of_mem _ List.mem_cons_self) (show _ = some "latitude" by decide +kernel)
    (List.mem_cons_of_mem _ (List.mem_cons_of_mem _ List.mem_cons_self))
    (show _ = some "longitude" by decide +kernel)

theorem ordinaryHost_southEast : OrdinaryHost southEast := by
  have hname : (Configuration.plain "h").text? = some "h" := by decide +kernel
  have haddress : (Configuration.plain "1.2.3.4").text? = some "1.2.3.4" := by decide +kernel
  have hread : Address.ofString? "1.2.3.4" = some (.v4 ⟨1, 2, 3, 4⟩) := by decide +kernel
  refine .mk ⟨by decide +kernel, hname⟩ ⟨by decide +kernel, ordinary_south, by decide⟩
    ⟨by decide +kernel, ordinary_east, by decide⟩ ⟨by decide +kernel, haddress, hread⟩ ?_
  rw [toFloat_south, toFloat_east]
  exact ⟨⟨by decide, by decide⟩, ⟨by decide, by decide⟩⟩

/-- The sample with this host alone. -/
def southEastSample : List UInt8 :=
  Configuration.spaced [] (Configuration.hostsPlace.fill (.array [southEast])).lexemes

def southEastSetting : Setting :=
  ⟨"geocrab", greatCircle Service.halfTurns, fun _ => .opened ⟨southEastSample, .complete⟩,
    ⟨0, 0⟩, false⟩

/-- A query with the numerals of this host has distance zero from it. -/
theorem coordinates_agree_southEast : south.Ordinary ∧ east.Ordinary ∧
    (∀ x, ¬ Service.halfTurns.acos x < 0) ∧ coordinate south.text = .ok (-12.5) ∧
    ∃ c h chosen, Configuration.load ⟨0, 0⟩ ⟨southEastSample, .complete⟩ = .ok c ∧
      c.hosts[0]? = some h ∧ h.location = ⟨-12.5, 10⟩ ∧
      Accepted southEastSetting ["hosts.json", "-12.50", "0.1E+2"] c h.location ∧
      greatCircle Service.halfTurns h.location h.location = 0 ∧
      Service.select ⟨greatCircle Service.halfTurns, c⟩ h.location = some chosen ∧
      (chosen.distance == 0) = true := by
  have hsouth : south.text = "-12.50" := by decide +kernel
  have heast : east.text = "0.1E+2" := by decide +kernel
  obtain ⟨halike, hloads, hquery⟩ := coordinates_agree
  obtain ⟨c, hc⟩ := Configuration.sample_loads
  have hwritten : Written _ southEastSample :=
    Configuration.written_spaced (List.forall_mem_nil _) _
  obtain ⟨hs, -, hload⟩ := hloads _ _ _ c Configuration.hostsPlace _ [southEast]
    (Configuration.written_sample []) hc (List.forall_mem_singleton.2 ordinaryHost_southEast)
    hwritten
  have hargument := (halike south ordinary_south).argument
  obtain ⟨h, chosen, hh, hlocation, haccepted, hzero, hchosen, hdistance⟩ :=
    hquery Service.halfTurns Service.not_neg_acos_halfTurns southEastSetting "hosts.json"
      southEastSample _ Configuration.hostsPlace [southEast] 0 southEast south east rfl rfl hwritten
      hload rfl locates_southEast ordinary_south ordinary_east
  rw [toFloat_south] at hargument
  rw [toFloat_south, toFloat_east] at hlocation
  rw [hsouth, heast] at haccepted
  exact ⟨ordinary_south, ordinary_east, Service.not_neg_acos_halfTurns, hargument, _, h, chosen,
    hload, hh, hlocation, haccepted [], hzero, hchosen, hdistance⟩

end Command

end NearestHost
