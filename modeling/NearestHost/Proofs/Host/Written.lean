/-
  Points and hosts that are written and read again.

  * `Point.Reread`, `Host.Reread`: what is read of the text of a point or a host.
  * `Point.read_written`: a point in range is read again.
  * `Host.hostOf_spelledBy`, `Host.read_written`: so is a host, with its name and its
    address.
  * `Host.locations_reread`: how near what is read is to what was written.
-/
import NearestHost.Globe.Reading
import NearestHost.Proofs.Address.Text
import NearestHost.Proofs.Globe.Distance
import NearestHost.Proofs.Host.Members
import NearestHost.Proofs.Json.Rendered
import NearestHost.Proofs.Json.Reread

namespace NearestHost

open Json (Layout Numeral Quoted Source Tree Value Written feedMembers maxDepth)
open Json.Reader (orGrammar)
open Double

/-- What is read of the text of a point. -/
structure Point.Reread (p q : Point) : Prop where
  latitude : Json.Reread p.latitude q.latitude
  longitude : Json.Reread p.longitude q.longitude
  inRange : q.InRange

/-- What is read of the text of a host. -/
structure Host.Reread (h h' : Host) : Prop where
  name : h'.name = h.name
  address : h'.address = h.address
  location : h.location.Reread h'.location

variable {k k' : Quoted} {n m : Numeral} {v w : Json.Number} {t : Tree} {bs : List UInt8}

namespace Point

variable {p q : Point}

/-- What the numerals of the coordinates are read as. -/
theorem exists_reread (hp : p.InRange) (hn : n.Writes p.latitude) (hm : m.Writes p.longitude) :
    ∃ v w, n.number? = some v ∧ m.number? = some w ∧ p.Reread ⟨v.toFloat, w.toFloat⟩ := by
  obtain ⟨hlat, hlon⟩ := Globe.magnitude_le_of_inRange hp
  have hninety : magnitude 90 = nearest 90 1 := by decide +kernel
  have hstraight : magnitude 180 = nearest 180 1 := by decide +kernel
  rw [hninety] at hlat
  rw [hstraight] at hlon
  obtain ⟨v, hv, hlatitude, hvle⟩ := hn.reread Json.barrier_ninety hlat
  obtain ⟨w, hw, hlongitude, hwle⟩ := hm.reread Json.barrier_straight hlon
  rw [← hninety] at hvle
  rw [← hstraight] at hwle
  exact ⟨v, w, hv, hw, hlatitude, hlongitude, Globe.inRange_of_magnitude_le hvle hwle⟩

/-- An object of two numbers is read as a point. -/
theorem feed_pair (hk : k.text? = some "latitude") (hn : n.number? = some v)
    (hk' : k'.text? = some "longitude") (hm : m.number? = some w) :
    (Tree.object [(k, .scalar (.number n)), (k', .scalar (.number m))]).feed builder 0 .start =
      .ok (.done ⟨v.toFloat, w.toFloat⟩) := by
  have hn' : (Json.Scalar.number n).event? = some (.number v) := congrArg (Option.map _) hn
  have hm' : (Json.Scalar.number m).event? = some (.number w) := congrArg (Option.map _) hm
  simp only [Tree.feed, feedMembers, hk, hk', hn', hm', orGrammar, Json.ok_bind]
  rfl

/-- The names and numerals of a tree that spells a point. -/
theorem members_of_spelledBy (hp : p.InRange) {ms : List (Quoted × Tree)}
    (h : List.Forall₂ Value.MemberSpelledBy p.members ms) : ∃ k n k' m,
      ms = [(k, .scalar (.number n)), (k', .scalar (.number m))] ∧ k.text? = some "latitude" ∧
        n.Writes p.latitude ∧ k'.text? = some "longitude" ∧ m.Writes p.longitude := by
  obtain ⟨hlat, hlon⟩ := Globe.isFinite_of_inRange hp
  rcases h with _ | ⟨⟨hk, hx⟩, _ | ⟨⟨hk', hy⟩, _ | _⟩⟩
  obtain ⟨n, rfl, hn⟩ := Value.spelledBy_number hlat hx
  obtain ⟨m, rfl, hm⟩ := Value.spelledBy_number hlon hy
  exact ⟨_, n, _, m, rfl, hk, hn, hk', hm⟩

/-- **A point in range is read again** from its text, in any layout of white space. -/
theorem read_written {l : Layout} (hl : l.IsBlank) (hp : p.InRange) (level : Nat) :
    ∃ q, read (.ofString (String.ofList (p.toValue.render l level))) = .ok q ∧ p.Reread q := by
  obtain ⟨t, hspelled, hlexed⟩ := Json.exists_spelling hl p.toValue level
  cases hspelled with
  | object hmembers =>
    obtain ⟨k, n, k', m, rfl, hk, hn, hk', hm⟩ := members_of_spelledBy hp hmembers
    obtain ⟨v, w, hv, hw, hreread⟩ := exists_reread hp hn hm
    refine ⟨_, ?_, hreread⟩
    rw [read, Json.source_ofList, Json.read_tree builder .start hlexed, feed_pair hk hv hk' hw]
    rfl

end Point

namespace Host

variable {depth : Nat} {h : Host}

/-! ## Hosts -/

/-- The members of a tree that spells a host. -/
theorem members_of_spelledBy (hr : h.location.InRange) (ht : h.toValue.SpelledBy t) :
    ∃ k₁ q₁ k₂ n k₃ m k₄ q₄,
      t = .object [(k₁, .scalar (.text q₁)), (k₂, .scalar (.number n)), (k₃, .scalar (.number m)),
        (k₄, .scalar (.text q₄))] ∧
      (k₁.text? = some "name" ∧ q₁.text? = some h.name) ∧
      (k₂.text? = some "latitude" ∧ n.Writes h.location.latitude) ∧
      (k₃.text? = some "longitude" ∧ m.Writes h.location.longitude) ∧
      k₄.text? = some "ip" ∧ q₄.text? = some h.address.toString := by
  obtain ⟨hlat, hlon⟩ := Globe.isFinite_of_inRange hr
  unfold toValue at ht
  cases ht with
  | object hms =>
    rcases hms with _ | ⟨⟨hk₁, hs⟩, _ | ⟨⟨hk₂, hx⟩, _ | ⟨⟨hk₃, hy⟩, _ | ⟨⟨hk₄, ha⟩, _ | _⟩⟩⟩⟩
    obtain ⟨q₁, rfl, hq₁⟩ := Value.spelledBy_text hs
    obtain ⟨n, rfl, hn⟩ := Value.spelledBy_number hlat hx
    obtain ⟨m, rfl, hm⟩ := Value.spelledBy_number hlon hy
    obtain ⟨q₄, rfl, hq₄⟩ := Value.spelledBy_text ha
    exact ⟨_, q₁, _, n, _, m, _, q₄, rfl, ⟨hk₁, hq₁⟩, ⟨hk₂, hn⟩, ⟨hk₃, hm⟩, hk₄, hq₄⟩

/-- **A tree that spells a host in range** gives a host with its name and its address. -/
theorem hostOf_spelledBy (hr : h.location.InRange) (ht : h.toValue.SpelledBy t)
    (hdepth : depth < maxDepth) : ∃ h', hostOf depth t = .ok h' ∧ h.Reread h' := by
  obtain ⟨k₁, q₁, k₂, n, k₃, m, k₄, q₄, rfl, ⟨hk₁, hq₁⟩, ⟨hk₂, hn⟩, ⟨hk₃, hm⟩, hk₄, hq₄⟩ :=
    members_of_spelledBy hr ht
  obtain ⟨v, w, hv, hw, hreread⟩ := Point.exists_reread hr hn hm
  have ha := Address.ofString?_toString h.address
  exact ⟨_, hostOf_four hk₁ hq₁ hk₂ hv hk₃ hw hk₄ hq₄ ha hdepth, ⟨rfl, rfl, hreread⟩⟩

/-- **A host in range is read again** from its text, in any layout of white space. -/
theorem read_written {l : Layout} (hl : l.IsBlank) (hr : h.location.InRange) (level : Nat) :
    ∃ h', read (.ofString (String.ofList (h.toValue.render l level))) = .ok h' ∧ h.Reread h' := by
  obtain ⟨t, hspelled, hlexed⟩ := Json.exists_spelling hl h.toValue level
  have hdepth : 0 < maxDepth := by decide
  obtain ⟨h', hh', hreread⟩ := hostOf_spelledBy hr hspelled hdepth
  refine ⟨h', ?_, hreread⟩
  rw [read, Json.source_ofList, Json.read_tree builder .start hlexed, feed_host embeds_self, hh']
  rfl

/-- **What is written is read again nearly as it was.**  In any layout of white space, the text of a
    point in range is read as a point in range with coordinates of the same signs, and so is the
    location in the text of a host in range.  A coordinate is read bit for bit where the digits of
    its decimal make a number up to `2 ^ 53` with at most 22 places, and else at most one word away,
    or two or three words where it has more places. -/
theorem locations_reread {l : Layout} (hl : l.IsBlank) (level : Nat) :
    (∀ p : Point, p.InRange →
      ∃ q, Point.read (.ofString (String.ofList (p.toValue.render l level))) = .ok q ∧
        p.Reread q) ∧
    ∀ h : Host, h.location.InRange →
      ∃ h', read (.ofString (String.ofList (h.toValue.render l level))) = .ok h' ∧
        h.location.Reread h'.location := by
  constructor
  · exact fun p hp => Point.read_written hl hp level
  · intro h hr
    obtain ⟨h', hread, hreread⟩ := read_written hl hr level
    exact ⟨h', hread, hreread.location⟩

/-- A point at the first double behind 91 degrees of longitude, whose decimal has 16 digits. -/
def behind : Point := ⟨0, 91.00000000000001⟩

theorem inRange_behind : behind.InRange := ⟨⟨by decide, by decide⟩, ⟨by decide, by decide⟩⟩

/-- It is read again in range, with a latitude of the same bits. -/
theorem locations_reread_behind : Layout.compact.IsBlank ∧ behind.InRange ∧
    ∃ q, Point.read (.ofString behind.toValue.compact) = .ok q ∧ q.InRange ∧ q.latitude = 0 ∧
      isNegative q.longitude = false ∧ Nat.dist (magnitude q.longitude) (magnitude 91) ≤ 2 := by
  obtain ⟨q, hread, hreread⟩ := (locations_reread Json.isBlank_compact 0).1 behind inRange_behind
  have hlatitude : q.latitude = 0 :=
    hreread.latitude.same (by decide +kernel) (by decide +kernel)
  have hsign : isNegative q.longitude = false := hreread.longitude.negative.trans (by decide)
  have hslack : Json.Tally.slack (-(Json.decimalOf behind.longitude).exponent).toNat = 1 := by
    decide +kernel
  have hnear := hreread.longitude.near
  rw [hslack] at hnear
  have hword : Nat.dist (magnitude behind.longitude) (magnitude 91) = 1 := by decide
  refine ⟨Json.isBlank_compact, inRange_behind, q, hread, hreread.inRange, hlatitude, hsign, ?_⟩
  exact (Nat.dist.triangle_inequality _ _ _).trans (Nat.add_le_add hnear hword.le)

/-- **Not every point is read as it was written.**  The digits of this longitude are beyond
    `2 ^ 53`, and what they are rounded to is read as 91. -/
theorem not_read_same : ¬ ∀ p : Point, p.InRange →
    Point.read (.ofString p.toValue.compact) = .ok p := by
  intro hall
  have hsame := hall behind inRange_behind
  have hread : (match Point.read (.ofString behind.toValue.compact) with
    | .ok q => magnitude q.longitude
    | .error _ => 0) = magnitude 91 := by decide +kernel
  rw [hsame] at hread
  exact absurd hread (by decide)

/-- The JSON array of hosts. -/
def listValue (hs : List Host) : Value := .array (hs.map toValue)

/-- **So are the hosts of a list**, in their order. -/
theorem hostsOf_spelledBy {hs : List Host} (hr : ∀ h ∈ hs, h.location.InRange)
    (ht : (listValue hs).SpelledBy t) (hdepth : depth < maxDepth) : ∃ ts hs',
      t = .array ts ∧ ts.mapM (hostOf depth) = .ok hs' ∧ List.Forall₂ Host.Reread hs hs' := by
  unfold listValue at ht
  cases ht with
  | @array _ ts helements =>
    suffices h : ∃ hs', ts.mapM (hostOf depth) = .ok hs' ∧ List.Forall₂ Host.Reread hs hs' by
      obtain ⟨hs', hmap, hall⟩ := h
      exact ⟨ts, hs', rfl, hmap, hall⟩
    induction hs generalizing ts with
    | nil =>
      rcases helements with _ | _
      exact ⟨[], rfl, .nil⟩
    | cons h hs ih =>
      obtain ⟨hh, hrest⟩ := List.forall_mem_cons.1 hr
      rcases helements with _ | ⟨ht, hts⟩
      obtain ⟨h', hh', hreread⟩ := hostOf_spelledBy hh ht hdepth
      obtain ⟨hs', hmap, hall⟩ := ih hrest hts
      refine ⟨h' :: hs', ?_, .cons hreread hall⟩
      rw [List.mapM_cons, hh', Json.ok_bind, hmap]
      rfl

theorem inRange_of_reread {hs hs' : List Host} (h : List.Forall₂ Host.Reread hs hs') :
    ∀ h' ∈ hs', h'.location.InRange := by
  induction h with
  | nil => exact List.forall_mem_nil _
  | cons hreread _ ih => exact List.forall_mem_cons.2 ⟨hreread.location.inRange, ih⟩

theorem map_of_reread {hs hs' : List Host} (h : List.Forall₂ Host.Reread hs hs') :
    hs'.map Host.name = hs.map Host.name ∧ hs'.map Host.address = hs.map Host.address := by
  induction h with
  | nil => exact ⟨rfl, rfl⟩
  | cons hreread _ ih =>
    rw [List.map_cons, List.map_cons, List.map_cons, List.map_cons, hreread.name,
      hreread.address, ih.1, ih.2]
    exact ⟨rfl, rfl⟩

end Host

end NearestHost
